import InbandTelemetry.Address.Subnet

namespace InbandTelemetry

/-!
# Members of subnets

An address is a row of 32 bits, the leading one first, and a subnet is the beginning of
such a row.  Its members are the addresses that begin so.  A subnet is known by its members:
one of them is its network address, another one differs from it in the first bit behind the
beginning, and no subnet with a longer beginning contains both.
-/

namespace Address

variable {address other : Address} {index length : Nat}

/-- The bit with the given index, counted from the leading bit on. -/
def leadingBit (address : Address) (index : Nat) : Bool := address.bits.toNat.testBit (31 - index)

/-- An address is the row of its bits. -/
theorem eq_of_leadingBit
    (same : ∀ index < 32, address.leadingBit index = other.leadingBit index) : address = other := by
  rcases address with ⟨bits⟩
  rcases other with ⟨others⟩
  congr 1
  apply UInt32.toNat_inj.mp
  apply Nat.eq_of_testBit_eq
  intro place
  by_cases inside : place < 32
  · have bit := same (31 - place) (by omega)
    rw [leadingBit, leadingBit, Nat.sub_sub_self (by omega)] at bit
    exact bit
  · have beyond : 2 ^ 32 ≤ 2 ^ place := Nat.pow_le_pow_right (by decide) (by omega)
    rw [Nat.testBit_lt_two_pow (Nat.lt_of_lt_of_le bits.toNat_lt beyond),
      Nat.testBit_lt_two_pow (Nat.lt_of_lt_of_le others.toNat_lt beyond)]

theorem leadingBit_leadingMask (fits : length ≤ 32) (inside : index < 32) :
    (Address.mk (leadingMask length)).leadingBit index = decide (index < length) := by
  have positive : 0 < 2 ^ (32 - length) := Nat.two_pow_pos _
  have below : 2 ^ (32 - length) ≤ 2 ^ 32 :=
    Nat.pow_le_pow_right (by decide) (Nat.sub_le 32 length)
  have value : (leadingMask length).toNat = 2 ^ 32 - (2 ^ (32 - length) - 1 + 1) := by
    rw [Nat.sub_add_cancel positive]
    exact UInt32.toNat_ofNat_of_lt' (Nat.sub_lt (by decide) positive)
  rw [leadingBit, value, Nat.testBit_two_pow_sub_succ (by omega), Nat.testBit_two_pow_sub_one,
    Bool.eq_iff_iff]
  simp only [Bool.and_eq_true, decide_eq_true_eq, Bool.not_eq_true', decide_eq_false_iff_not]
  omega

/-- The address whose bits behind the first ones are cleared. -/
def masked (address : Address) (length : Nat) : Address := ⟨address.bits &&& leadingMask length⟩

theorem leadingBit_masked (fits : length ≤ 32) (inside : index < 32) :
    (address.masked length).leadingBit index =
      (address.leadingBit index && decide (index < length)) := by
  rw [← leadingBit_leadingMask fits inside, leadingBit, masked, UInt32.toNat_and, Nat.testBit_and]
  rfl

/-- The address with one bit turned over. -/
def toggle (address : Address) (index : Nat) : Address :=
  ⟨address.bits ^^^ UInt32.ofNat (1 <<< (31 - index))⟩

theorem leadingBit_toggle {toggled : Nat} (inside : index < 32) (toggledInside : toggled < 32) :
    (address.toggle toggled).leadingBit index =
      (address.leadingBit index ^^ decide (index = toggled)) := by
  have narrow : 2 ^ (31 - toggled) < 2 ^ 32 := Nat.pow_lt_pow_right (by decide) (by omega)
  rw [leadingBit, toggle, Nat.one_shiftLeft, UInt32.toNat_xor, UInt32.toNat_ofNat_of_lt' narrow,
    Nat.testBit_xor, Nat.testBit_two_pow, leadingBit]
  congr 2
  apply propext
  omega

end Address

namespace Subnet

variable {subnet first second : Subnet} {address other : Address} {length : Nat}

theorem masked_network (subnet : Subnet) : subnet.network.masked subnet.length = subnet.network :=
  congrArg Address.mk subnet.network_masked

theorem contains_eq_true_iff :
    subnet.contains address = true ↔ address.masked subnet.length = subnet.network := by
  rw [contains, beq_iff_eq, Address.masked]
  exact ⟨congrArg Address.mk, congrArg Address.bits⟩

/-- The members of a subnet are the addresses that begin like its network address. -/
theorem contains_iff :
    subnet.contains address = true ↔
      ∀ index < subnet.length, address.leadingBit index = subnet.network.leadingBit index := by
  rw [contains_eq_true_iff]
  constructor
  · intro same index early
    have inside : index < 32 := Nat.lt_of_lt_of_le early subnet.length_le
    rw [← same, Address.leadingBit_masked subnet.length_le inside, decide_eq_true early,
      Bool.and_true]
  · intro same
    apply Address.eq_of_leadingBit
    intro index inside
    rw [← subnet.masked_network, Address.leadingBit_masked subnet.length_le inside,
      Address.leadingBit_masked subnet.length_le inside]
    by_cases early : index < subnet.length
    · rw [same index early]
    · rw [decide_eq_false early, Bool.and_false, Bool.and_false]

theorem contains_network (subnet : Subnet) : subnet.contains subnet.network = true :=
  contains_eq_true_iff.mpr subnet.masked_network

/-- A subnet that is built from an address contains what begins like this address.  A length
above 32 counts as 32. -/
theorem contains_ofAddress_iff :
    (ofAddress address length).contains other = true ↔
      ∀ index < min length 32, other.leadingBit index = address.leadingBit index := by
  rw [contains_iff]
  apply forall₂_congr
  intro index (early : index < min length 32)
  have fits : min length 32 ≤ 32 := Nat.min_le_right length 32
  have network : (ofAddress address length).network = address.masked (min length 32) := rfl
  rw [network, Address.leadingBit_masked fits (Nat.lt_of_lt_of_le early fits),
    decide_eq_true early, Bool.and_true]

/-- A subnet with all members of another one has no longer beginning than this. -/
theorem length_le_of_contains
    (includes : ∀ address, first.contains address = true → second.contains address = true) :
    second.length ≤ first.length := by
  apply Nat.le_of_not_lt
  intro shorter
  have inside : first.length < 32 := Nat.lt_of_lt_of_le shorter second.length_le
  -- two members of the first subnet that differ in a bit that the second one fixes
  have turned : first.contains (first.network.toggle first.length) = true := by
    rw [contains_iff]
    intro index early
    rw [Address.leadingBit_toggle (Nat.lt_trans early inside) inside,
      decide_eq_false (Nat.ne_of_lt early), Bool.xor_false]
  have plain := contains_iff.mp (includes _ first.contains_network) first.length shorter
  have changed := contains_iff.mp (includes _ turned) first.length shorter
  rw [Address.leadingBit_toggle inside inside, decide_eq_true rfl, plain] at changed
  exact absurd changed (by cases second.network.leadingBit first.length <;> decide)

/-- Two subnets are equal if they have the same members. -/
theorem eq_iff_contains :
    first = second ↔ ∀ address, first.contains address = second.contains address := by
  constructor
  · rintro rfl address
    rfl
  · intro same
    have length : first.length = second.length := Nat.le_antisymm
      (length_le_of_contains fun address member => (same address).trans member)
      (length_le_of_contains fun address member => (same address).symm.trans member)
    have member := (same first.network).symm.trans first.contains_network
    have network : first.network = second.network := by
      rw [← contains_eq_true_iff.mp member, ← length, first.masked_network]
    cases first
    cases second
    cases length
    cases network
    rfl

end Subnet

end InbandTelemetry
