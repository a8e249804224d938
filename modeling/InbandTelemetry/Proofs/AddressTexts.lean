import InbandTelemetry.Address.Basic
import InbandTelemetry.Proofs.ByteStrings

namespace InbandTelemetry

/-!
# Texts of numbers and addresses

A number has many texts, because zeros may stand in front, and one of them is the text
that is written for it.  The octets of an address are read from written texts only, and
so an address has one text: what is read as the address is what is written for it.
-/

/-! ## Decimal numbers -/

/-- A string of decimal digits denotes a number.  Zeros in front are allowed. -/
structure Denotes (digits : List Char) (number : Nat) : Prop where
  nonempty : digits ≠ []
  decimal : ∀ digit ∈ digits, digit.isDigit = true
  value : Nat.ofDigitChars 10 digits 0 = number

theorem decimal?_eq_some_iff {digits : List Char} {number : Nat} :
    decimal? digits = some number ↔ Denotes digits number := by
  have folded : digits.foldl (fun number digit => number * 10 + (digit.toNat - 48)) 0 =
      Nat.ofDigitChars 10 digits 0 := by
    simp only [Nat.ofDigitChars_eq_foldl, Nat.mul_comm]
    rfl
  rw [decimal?, folded]
  constructor
  · intro read
    split at read
    · rename_i fine
      simp only [Bool.and_eq_true, Bool.not_eq_true', List.isEmpty_eq_false_iff,
        List.all_eq_true] at fine
      exact ⟨fine.1, fine.2, Option.some.inj read⟩
    · contradiction
  · rintro ⟨nonempty, decimal, rfl⟩
    rw [if_pos]
    simp only [Bool.and_eq_true, Bool.not_eq_true', List.isEmpty_eq_false_iff, List.all_eq_true]
    exact ⟨nonempty, decimal⟩

theorem isDigit_of_mem_written {number : Nat} {digit : Char}
    (written : digit ∈ Nat.toDigits 10 number) : digit.isDigit = true :=
  Nat.isDigit_of_mem_toDigits (by decide) (by decide) written

theorem denotes_written (number : Nat) : Denotes (Nat.toDigits 10 number) number :=
  ⟨Nat.toDigits_ne_nil, fun _ => isDigit_of_mem_written, Nat.ofDigitChars_ten_toDigits⟩

/-- The text of a digit is the digit. -/
theorem toDigits_of_isDigit {digit : Char} (decimal : digit.isDigit = true) :
    digit.toNat - 48 < 10 ∧ Nat.toDigits 10 (digit.toNat - 48) = [digit] := by
  have bounds : 48 ≤ digit.toNat ∧ digit.toNat ≤ 57 := Char.isDigit_iff_toNat.mp decimal
  have small : digit.toNat - 48 < 10 := by omega
  refine ⟨small, ?_⟩
  rw [Nat.toDigits_of_lt_base small]
  congr 1
  apply Char.toNat_inj.mp
  rw [Nat.toNat_digitChar_of_lt_ten small]
  omega

/-- Digits behind the text of a positive number make up the text of a greater one. -/
theorem toDigits_append {digits : List Char} (decimal : ∀ digit ∈ digits, digit.isDigit = true)
    {number : Nat} (positive : 0 < number) :
    Nat.toDigits 10 number ++ digits = Nat.toDigits 10 (Nat.ofDigitChars 10 digits number) := by
  -- each digit that is taken over makes the number before it ten times as great
  induction digits generalizing number with
  | nil => rw [List.append_nil, Nat.ofDigitChars_nil]
  | cons digit rest ih =>
      rcases List.forall_mem_cons.mp decimal with ⟨first, others⟩
      rcases toDigits_of_isDigit first with ⟨small, text⟩
      have longer : Nat.toDigits 10 number ++ [digit] =
          Nat.toDigits 10 (10 * number + (digit.toNat - 48)) := by
        rw [← text]
        exact Nat.toDigits_append_toDigits (by decide) positive small
      rw [Nat.ofDigitChars_cons, List.append_cons, longer]
      exact ih others (by omega)

/-- Whether a string of digits has no needless zero in front. -/
def Bare (digits : List Char) : Prop := digits.head? ≠ some '0' ∨ digits.length = 1

/-- What is written for a number has no needless zero in front. -/
theorem bare_written (number : Nat) : Bare (Nat.toDigits 10 number) := by
  have leading (positive : 0 < number) : (Nat.toDigits 10 number).head? ≠ some '0' := by
    induction number using Nat.base_induction 10 (by decide) with
    | single digit small =>
        rw [Nat.toDigits_of_lt_base small]
        intro zero
        have none := Nat.digitChar_eq_zero.mp (Option.some.inj zero)
        omega
    | digit front last small frontPositive ih =>
        rw [← Nat.toDigits_append_toDigits (by decide) frontPositive small,
          List.head?_append_of_ne_nil _ Nat.toDigits_ne_nil]
        exact ih frontPositive
  by_cases positive : 0 < number
  · exact Or.inl (leading positive)
  · rw [Nat.eq_zero_of_not_pos positive]
    exact Or.inr rfl

/-- A number has one text without needless zeros. -/
theorem Denotes.eq_written {digits : List Char} {number : Nat} (denotes : Denotes digits number)
    (bare : Bare digits) : digits = Nat.toDigits 10 number := by
  rcases denotes with ⟨nonempty, decimal, rfl⟩
  cases digits with
  | nil => contradiction
  | cons digit rest =>
      rcases List.forall_mem_cons.mp decimal with ⟨first, others⟩
      have text := (toDigits_of_isDigit first).2
      rw [Nat.ofDigitChars_cons, Nat.mul_zero, Nat.zero_add]
      rcases bare with leading | single
      · have positive : 0 < digit.toNat - 48 := by
          have bounds : 48 ≤ digit.toNat ∧ digit.toNat ≤ 57 := Char.isDigit_iff_toNat.mp first
          have nonzero : digit.toNat ≠ 48 := by
            intro zero
            have same : digit = '0' := Char.toNat_inj.mp zero
            rw [same] at leading
            exact leading rfl
          omega
        calc
          digit :: rest = Nat.toDigits 10 (digit.toNat - 48) ++ rest := by
            rw [text, List.singleton_append]
          _ = _ := toDigits_append others positive
      · rw [List.length_cons, Nat.add_eq_right, List.length_eq_zero_iff] at single
        rw [single, Nat.ofDigitChars_nil]
        exact text.symm

/-! ## Fields -/

/-- The stretches between the separators are those of the library. -/
theorem fields_eq_splitOn (separator : Char) (text : List Char) :
    fields separator text = text.splitOn separator := by
  induction text with
  | nil => rfl
  | cons first rest ih =>
      rw [fields, ih, List.splitOn_cons_eq_if_modifyHead]
      simp only [beq_iff_eq]
      split
      · rfl
      · cases split : rest.splitOn separator with
        | nil => exact absurd split (List.splitOn_ne_nil separator rest)
        | cons field later => rfl

/-- Between separators there is what the fields hold. -/
theorem exists_mem_of_mem_intercalate {separator character : Char} {parts : List (List Char)}
    (member : character ∈ [separator].intercalate parts) (different : character ≠ separator) :
    ∃ part ∈ parts, character ∈ part := by
  induction parts with
  | nil => contradiction
  | cons part rest ih =>
      cases rest with
      | nil =>
          rw [List.intercalate_singleton] at member
          exact ⟨part, List.mem_cons_self, member⟩
      | cons next later =>
          rw [List.intercalate_cons_cons, List.append_assoc, List.mem_append, List.mem_append,
            List.mem_singleton] at member
          rcases member with here | same | behind
          · exact ⟨part, List.mem_cons_self, here⟩
          · exact absurd same different
          · rcases ih behind with ⟨found, listed, inside⟩
            exact ⟨found, List.mem_cons_of_mem part listed, inside⟩

namespace Address

/-! ## Addresses -/

theorem octet?_eq_some_iff {text : List Char} {octet : UInt8} :
    octet? text = some octet ↔ text = Nat.toDigits 10 octet.toNat := by
  have bound := octet.toNat_lt
  constructor
  · intro read
    rw [octet?] at read
    split at read
    · rename_i fine
      simp only [Bool.and_eq_true, decide_eq_true_eq, Bool.or_eq_true, bne_iff_ne,
        beq_iff_eq] at fine
      split at read
      · rename_i number value
        split at read
        · rename_i small
          cases read
          rw [UInt8.toNat_ofNat_of_lt' small]
          exact (decimal?_eq_some_iff.mp value).eq_written fine.2
        · contradiction
      · contradiction
    · contradiction
  · rintro rfl
    have short : (Nat.toDigits 10 octet.toNat).length ≤ 3 :=
      (Nat.length_toDigits_le_iff (by decide) (by decide)).mpr (by omega)
    have bare := bare_written octet.toNat
    have value := decimal?_eq_some_iff.mpr (denotes_written octet.toNat)
    rw [octet?, if_pos, value]
    · simp only [if_pos bound, UInt8.ofNat_toNat]
    · simp only [Bool.and_eq_true, decide_eq_true_eq, Bool.or_eq_true, bne_iff_ne, beq_iff_eq]
      exact ⟨short, bare⟩

theorem eq_written_of_octets {texts : List (List Char)} {octets : Bytes}
    (read : texts.map octet? = octets.map some) :
    texts = octets.map fun octet => Nat.toDigits 10 octet.toNat := by
  induction texts generalizing octets with
  | nil => rw [List.map_eq_nil_iff.mp read.symm, List.map_nil]
  | cons text rest ih =>
      cases octets with
      | nil => contradiction
      | cons octet others =>
          rw [List.map_cons, List.map_cons, List.cons.injEq] at read
          rw [List.map_cons, ← octet?_eq_some_iff.mp read.1, ← ih read.2]

theorem octets_ofOctets (first second third fourth : UInt8) :
    (ofOctets first second third fourth).octets = [first, second, third, fourth] :=
  Bytes.ofWord32_word32 first second third fourth

/-- The fields of the text of an address are the texts of its octets. -/
theorem fields_text (address : Address) :
    fields '.' address.text = address.octets.map fun octet => Nat.toDigits 10 octet.toNat := by
  rw [fields_eq_splitOn, text, List.splitOn_intercalate]
  · intro field member dot
    rcases List.mem_map.mp member with ⟨octet, -, rfl⟩
    have digit := isDigit_of_mem_written dot
    contradiction
  · rw [octets, Bytes.ofWord32]
    exact List.cons_ne_nil _ _

theorem isDigit_of_mem_text {address : Address} {character : Char}
    (member : character ∈ address.text) (different : character ≠ '.') :
    character.isDigit = true := by
  rcases exists_mem_of_mem_intercalate member different with ⟨part, listed, inside⟩
  rcases List.mem_map.mp listed with ⟨octet, -, rfl⟩
  exact isDigit_of_mem_written inside

/-- An address has one text. -/
theorem ofText?_eq_some_iff {text : List Char} {address : Address} :
    ofText? text = some address ↔ text = address.text := by
  constructor
  · intro read
    rw [ofText?] at read
    split at read
    · rename_i first second third fourth parts
      cases read
      have mapped : (fields '.' text).map octet? = [first, second, third, fourth].map some := parts
      have written := eq_written_of_octets mapped
      rw [Address.text, octets_ofOctets, ← written, fields_eq_splitOn, List.intercalate_splitOn]
    · contradiction
  · rintro rfl
    have parts : (fields '.' address.text).map octet? = address.octets.map some := by
      rw [fields_text, List.map_map]
      exact List.map_congr_left fun octet _ => octet?_eq_some_iff.mpr rfl
    rw [ofText?, parts]
    exact congrArg (some ∘ Address.mk) (Bytes.word32_ofWord32 address.bits)

end Address

end InbandTelemetry
