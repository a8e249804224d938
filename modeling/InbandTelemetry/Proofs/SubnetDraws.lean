import InbandTelemetry.Proofs.SubnetMembers
import Mathlib.Data.Int.CardIntervalMod
import Mathlib.Data.Set.Card

namespace InbandTelemetry

/-!
# Draws from subnets

An address that is drawn from a subnet begins like the network address and ends like the draw.
So every draw gives a member, and a member is drawn by the words that end like it.  How a word
begins does not matter, which leaves equally many draws for each member.
-/

namespace Address

/-- Two addresses agree in their last bits if they are congruent as numbers. -/
theorem modEq_iff_leadingBit (first second : Address) (length : Nat) :
    first.bits.toNat ≡ second.bits.toNat [MOD 2 ^ (32 - length)] ↔
      ∀ index, length ≤ index → index < 32 →
        first.leadingBit index = second.leadingBit index := by
  constructor
  · intro (same : _ % _ = _ % _) index late inside
    have bit := congrArg (Nat.testBit · (31 - index)) same
    simp only [Nat.testBit_mod_two_pow] at bit
    rwa [decide_eq_true (by omega), Bool.true_and, Bool.true_and] at bit
  · intro same
    apply Nat.eq_of_testBit_eq
    intro place
    rw [Nat.testBit_mod_two_pow, Nat.testBit_mod_two_pow]
    by_cases low : place < 32 - length
    · have bit := same (31 - place) (by omega) (by omega)
      rw [leadingBit, leadingBit, Nat.sub_sub_self (by omega)] at bit
      rw [bit]
    · rw [decide_eq_false low, Bool.false_and, Bool.false_and]

end Address

namespace Subnet

variable {network address : Address} {length index : Nat} {draw : UInt32}

/-- The word whose bits behind the first ones are set. -/
def hostMask (length : Nat) : UInt32 := UInt32.ofNat (2 ^ (32 - length) - 1)

theorem toNat_hostMask (length : Nat) : (hostMask length).toNat = 2 ^ (32 - length) - 1 := by
  have narrow : 2 ^ (32 - length) ≤ 2 ^ 32 :=
    Nat.pow_le_pow_right (by decide) (Nat.sub_le 32 length)
  exact UInt32.toNat_ofNat_of_lt' (Nat.sub_one_lt_of_le (Nat.two_pow_pos _) narrow)

/-- The mask for a draw is set where the mask for the network address is not, also if one of them
is the full word. -/
theorem complement_hostMask (length : Nat) : ~~~hostMask length = leadingMask length := by
  have positive : 0 < 2 ^ (32 - length) := Nat.two_pow_pos _
  apply UInt32.toNat_inj.mp
  calc (~~~hostMask length).toNat
    _ = 2 ^ 32 - 1 - (2 ^ (32 - length) - 1) := by rw [UInt32.toNat_not, toNat_hostMask]; rfl
    _ = 2 ^ 32 - 2 ^ (32 - length) := by omega
    _ = (leadingMask length).toNat :=
      (UInt32.toNat_ofNat_of_lt' (Nat.sub_lt (by decide) positive)).symm

theorem leadingBit_hostMask (inside : index < 32) :
    (Address.mk (hostMask length)).leadingBit index = decide (length ≤ index) := by
  rw [Address.leadingBit, toNat_hostMask, Nat.testBit_two_pow_sub_one]
  apply decide_eq_decide.mpr
  omega

theorem member_eq (network : Address) (length : Nat) (draw : UInt32) :
    member network length draw =
      ⟨(network.masked (min length 32)).bits ||| (draw &&& hostMask (min length 32))⟩ := by
  rw [Address.masked, ← complement_hostMask]
  rfl

/-- An address that is drawn begins like the network address and ends like the draw. -/
theorem leadingBit_member (inside : index < 32) :
    (member network length draw).leadingBit index =
      if index < min length 32 then network.leadingBit index
      else (Address.mk draw).leadingBit index := by
  have bits : (member network length draw).leadingBit index =
      ((network.masked (min length 32)).leadingBit index ||
        (Address.mk draw).leadingBit index &&
          (Address.mk (hostMask (min length 32))).leadingBit index) := by
    rw [member_eq, Address.leadingBit, UInt32.toNat_or, UInt32.toNat_and, Nat.testBit_or,
      Nat.testBit_and]
    rfl
  rw [bits, Address.leadingBit_masked (Nat.min_le_right _ _) inside, leadingBit_hostMask inside]
  by_cases early : index < min length 32
  · rw [if_pos early, decide_eq_true early, Bool.and_true, decide_eq_false (Nat.not_le.mpr early),
      Bool.and_false, Bool.or_false]
  · rw [if_neg early, decide_eq_false early, Bool.and_false,
      decide_eq_true (Nat.not_lt.mp early), Bool.and_true, Bool.false_or]

theorem contains_member (network : Address) (length : Nat) (draw : UInt32) :
    (ofAddress network length).contains (member network length draw) = true := by
  rw [contains_ofAddress_iff]
  intro index early
  rw [leadingBit_member (by omega), if_pos early]

/-- A member is drawn by the words that end like it. -/
theorem member_eq_iff (inside : (ofAddress network length).contains address = true) :
    member network length draw = address ↔
      draw.toNat ≡ address.bits.toNat [MOD 2 ^ (32 - min length 32)] := by
  rw [contains_ofAddress_iff] at inside
  refine Iff.trans ?_ (Address.modEq_iff_leadingBit ⟨draw⟩ address (min length 32)).symm
  constructor
  · rintro rfl index late within
    rw [leadingBit_member within, if_neg (Nat.not_lt.mpr late)]
  · intro same
    apply Address.eq_of_leadingBit
    intro index within
    rw [leadingBit_member within]
    by_cases early : index < min length 32
    · rw [if_pos early, inside index early]
    · rw [if_neg early, same index (Nat.not_lt.mp early) within]

/-- How many words end alike. -/
theorem ncard_modEq (residue : Nat) (fits : length ≤ 32) :
    {word : UInt32 | word.toNat ≡ residue [MOD 2 ^ (32 - length)]}.ncard = 2 ^ length := by
  have numbers : UInt32.toNat '' {word | word.toNat ≡ residue [MOD 2 ^ (32 - length)]} =
      ((Finset.range (2 ^ 32)).filter (· ≡ residue [MOD 2 ^ (32 - length)]) : Finset Nat) := by
    ext number
    rw [Finset.mem_coe, Finset.mem_filter, Finset.mem_range]
    constructor
    · rintro ⟨word, ends, rfl⟩
      exact ⟨word.toNat_lt, ends⟩
    · rintro ⟨narrow, ends⟩
      have value : (UInt32.ofNat number).toNat = number := UInt32.toNat_ofNat_of_lt' narrow
      refine ⟨UInt32.ofNat number, ?_, value⟩
      rw [Set.mem_ofPred_eq, value]
      exact ends
  have split : 2 ^ 32 = 2 ^ length * 2 ^ (32 - length) := by
    rw [← Nat.pow_add, Nat.add_sub_cancel' fits]
  have positive : 0 < 2 ^ (32 - length) := Nat.two_pow_pos _
  rw [← Set.ncard_image_of_injective _ fun _ _ => UInt32.toNat_inj.mp, numbers,
    Set.ncard_coe_finset, ← Nat.count_eq_card_filter_range, Nat.count_modEq_card _ positive, split,
    Nat.mul_div_cancel _ positive, Nat.mul_mod_left, if_neg (Nat.not_lt_zero _), Nat.add_zero]

/-- Every draw gives a member of the subnet, and each member is given by equally many draws. -/
theorem members_of_draws (network : Address) (length : Nat) :
    (∀ draw, (ofAddress network length).contains (member network length draw) = true) ∧
    ∀ address, (ofAddress network length).contains address = true →
      (∃ draw, member network length draw = address) ∧
      {draw | member network length draw = address}.ncard = 2 ^ min length 32 := by
  refine ⟨contains_member network length, fun address inside => ⟨?_, ?_⟩⟩
  · exact ⟨address.bits, (member_eq_iff inside).mpr rfl⟩
  · simp only [member_eq_iff inside]
    exact ncard_modEq _ (Nat.min_le_right _ _)

end Subnet

end InbandTelemetry
