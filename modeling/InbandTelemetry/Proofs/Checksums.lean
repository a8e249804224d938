import InbandTelemetry.Frame.Checksum
import InbandTelemetry.Proofs.ByteStrings

namespace InbandTelemetry

/-!
# Sums that verify

A receiver verifies a checksum by adding all words of what it covers, the checksum among
them, in ones' complement: whatever is carried out of the upper end of a word comes in
at the lower one, and the sum has to be 65535.  A checksum is computed otherwise, from a
plain total of the other words that is reduced once at the end.  Both are sums modulo
65535, in which zero has two forms, and the two forms have to be kept apart.  The checksum
of a transport segment also covers a header that does not travel, and it is the checksum of
the string that begins with this header.
-/

namespace Checksum

/-! ## Sums in ones' complement -/

/-- The sum of two words, with the carry added at the lower end. -/
def addCarry (left right : Nat) : Nat :=
  if left + right < 65536 then left + right else left + right - 65535

/-- The ones' complement sum of the words of a string.  An odd last byte counts as the
upper half of a word. -/
def onesSum : Bytes → Nat
  | high :: low :: rest => addCarry (high.toNat * 256 + low.toNat) (onesSum rest)
  | [last] => last.toNat * 256
  | [] => 0

theorem onesSum_le (bytes : Bytes) : onesSum bytes ≤ 65535 := by
  induction bytes using onesSum.induct with
  | case1 high low rest ih =>
      have highBound := high.toNat_lt
      have lowBound := low.toNat_lt
      rw [onesSum, addCarry]
      split <;> omega
  | case2 last =>
      have bound := last.toNat_lt
      rw [onesSum]
      omega
  | case3 => exact Nat.zero_le _

/-! ## Plain totals -/

theorem addWords_eq (total : Nat) (bytes : Bytes) :
    addWords total bytes = total + addWords 0 bytes := by
  induction bytes using onesSum.induct generalizing total with
  | case1 high low rest ih =>
      simp only [addWords]
      rw [ih, ih (0 + _)]
      omega
  | case2 last => simp only [addWords, Nat.zero_add]
  | case3 => rfl

/-- A cut between two words leaves the total as it is. -/
theorem addWords_append {before : Bytes} (even : before.length % 2 = 0) (total : Nat)
    (after : Bytes) :
    addWords total (before ++ after) = addWords (addWords total before) after := by
  induction before using onesSum.induct generalizing total with
  | case1 high low rest ih =>
      rw [List.length_cons, List.length_cons] at even
      simp only [List.cons_append, addWords]
      exact ih (by omega) _
  | case2 last => contradiction
  | case3 => rfl

theorem addWords_ofWord16 (total : Nat) (word : UInt16) :
    addWords total (Bytes.ofWord16 word) = total + word.toNat := by
  have bound := word.toNat_lt
  simp only [Bytes.ofWord16, addWords, UInt8.toNat_ofNat']
  omega

/-- Each word adds at most 65535, and an odd last byte counts as a word. -/
theorem two_mul_addWords_le (bytes : Bytes) :
    2 * addWords 0 bytes ≤ 65535 * (bytes.length + 1) := by
  induction bytes using onesSum.induct with
  | case1 high low rest ih =>
      have highBound := high.toNat_lt
      have lowBound := low.toNat_lt
      rw [addWords, addWords_eq, List.length_cons, List.length_cons]
      omega
  | case2 last =>
      have bound := last.toNat_lt
      simp only [addWords, List.length_singleton]
      omega
  | case3 => exact Nat.zero_le _

/-- A ones' complement sum is the plain total modulo 65535, and it is zero only if all words
are. -/
theorem onesSum_spec (bytes : Bytes) :
    onesSum bytes % 65535 = addWords 0 bytes % 65535 ∧
      (onesSum bytes = 0 ↔ addWords 0 bytes = 0) := by
  induction bytes using onesSum.induct with
  | case1 high low rest ih =>
      have bound := onesSum_le rest
      rw [onesSum, addCarry, addWords, addWords_eq]
      split <;> omega
  | case2 last => simp only [onesSum, addWords, Nat.zero_add, iff_self, and_self]
  | case3 => exact ⟨rfl, Iff.rfl⟩

/-- A string verifies if its plain total is a positive multiple of 65535. -/
theorem onesSum_eq_iff {bytes : Bytes} :
    onesSum bytes = 65535 ↔ 0 < addWords 0 bytes ∧ addWords 0 bytes % 65535 = 0 := by
  have bound := onesSum_le bytes
  rcases onesSum_spec bytes with ⟨same, zero⟩
  omega

/-! ## Checksums -/

/-- Folding a total keeps it modulo 65535, and it becomes zero only if it was. -/
theorem fold_spec {total : Nat} (narrow : total < 4294967296) :
    fold total ≤ 65535 ∧ fold total % 65535 = total % 65535 ∧ (fold total = 0 ↔ total = 0) := by
  rw [fold]
  omega

/-- The checksum brings the total of the other words to a positive multiple of 65535. -/
theorem complement_spec {total : Nat} (narrow : total < 4294967296) :
    0 < total + (complement total).toNat ∧ (total + (complement total).toNat) % 65535 = 0 := by
  rcases fold_spec narrow with ⟨bound, same, zero⟩
  have value : (complement total).toNat = 65535 - fold total := by
    rw [complement, Nat.mod_eq_of_lt narrow, UInt16.toNat_ofNat']
    omega
  omega

/-- A string in which one word is the checksum of the others verifies, as long as it is
not so long that their total leaves 32 bits. -/
theorem onesSum_of_checksum {bytes : Bytes} {skipped : Nat}
    (inside : 2 * skipped + 2 ≤ bytes.length) (short : bytes.length ≤ 131072) :
    onesSum (Bytes.overwrite bytes (2 * skipped)
      (Bytes.ofWord16 (complement (addWordsExcept 0 skipped bytes)))) = 65535 := by
  have reached : (bytes.take (2 * skipped)).length = 2 * skipped :=
    List.length_take_of_le (by omega)
  generalize word : complement (addWordsExcept 0 skipped bytes) = checksum
  have others : addWordsExcept 0 skipped bytes =
      addWords 0 (bytes.take (2 * skipped) ++ bytes.drop (2 * skipped + 2)) :=
    (addWords_append (by omega) 0 _).symm
  have all : addWords 0 (Bytes.overwrite bytes (2 * skipped) (Bytes.ofWord16 checksum)) =
      addWordsExcept 0 skipped bytes + checksum.toNat := by
    rw [Bytes.overwrite, addWords_append (by omega),
      addWords_append (by rw [Bytes.length_ofWord16]), addWords_ofWord16,
      addWordsExcept, Bytes.length_ofWord16, addWords_eq, addWords_eq (addWords 0 _)]
    omega
  have narrow : addWordsExcept 0 skipped bytes < 4294967296 := by
    have bound := two_mul_addWords_le (bytes.take (2 * skipped) ++ bytes.drop (2 * skipped + 2))
    rw [← others, List.length_append, List.length_drop, reached] at bound
    omega
  rw [onesSum_eq_iff, all, ← word]
  exact complement_spec narrow

/-! ## Pseudo-headers -/

/-- The header that a receiver imagines in front of a transport segment: both addresses, the
protocol, and the length of the segment. -/
def pseudoHeaderBytes (source destination : Address) (protocol : UInt8) (length : Nat) : Bytes :=
  source.octets ++ destination.octets ++ ([0, protocol] ++ Bytes.ofWord16 (UInt16.ofNat length))

theorem addWords_pseudoHeaderBytes {source destination : Address} {protocol : UInt8} {length : Nat}
    (short : length ≤ 65535) :
    addWords 0 (pseudoHeaderBytes source destination protocol length) =
      pseudoHeader source destination protocol length := by
  have evenAddresses : (source.octets ++ destination.octets).length % 2 = 0 := Nat.mul_mod_right 2 4
  have evenProtocol : [0, protocol].length % 2 = 0 := Nat.mod_self 2
  have word : (UInt16.ofNat length).toNat = length :=
    UInt16.toNat_ofNat_of_lt' (Nat.lt_succ_of_le short)
  have protocolWord (total : Nat) :
      addWords total [0, protocol] = total + protocol.toNat := by
    simp only [addWords, UInt8.toNat_zero, Nat.zero_mul, Nat.zero_add]
  rw [pseudoHeaderBytes, addWords_append evenAddresses, addWords_append evenProtocol, protocolWord,
    addWords_ofWord16, word, pseudoHeader, addWords_eq (protocol.toNat + length)]
  omega

/-- Words in front of a string are words that are not left out. -/
theorem addWordsExcept_append {before : Bytes} {words : Nat} (size : before.length = 2 * words)
    (total skipped : Nat) (after : Bytes) :
    addWordsExcept total (words + skipped) (before ++ after) =
      addWordsExcept (addWords total before) skipped after := by
  have taken : (before ++ after).take (2 * (words + skipped)) =
      before ++ after.take (2 * skipped) := by
    rw [Nat.mul_add, ← size, List.take_length_add_append]
  have dropped : (before ++ after).drop (2 * (words + skipped) + 2) =
      after.drop (2 * skipped + 2) := by
    rw [Nat.mul_add, ← size, Nat.add_assoc, List.drop_length_add_append]
  have even : before.length % 2 = 0 := by omega
  rw [addWordsExcept, taken, dropped, addWords_append even, addWordsExcept]

/-- The checksum of a segment is the checksum of the string that begins with the
pseudo-header. -/
theorem transport_eq {source destination : Address} {protocol : UInt8} {skipped : Nat}
    {segment : Bytes} (short : segment.length ≤ 65535) :
    transport source destination protocol skipped segment =
      complement (addWordsExcept 0 (6 + skipped)
        (pseudoHeaderBytes source destination protocol segment.length ++ segment)) := by
  rw [transport, addWordsExcept_append rfl, addWords_pseudoHeaderBytes short]

end Checksum

end InbandTelemetry
