import InbandTelemetry.Proofs.AddressTexts
import InbandTelemetry.Proofs.SubnetMembers

namespace InbandTelemetry

/-!
# Texts of subnets

Reading a subnet gives one of five outcomes for a text, and which one it is can be said
without the reader: there is a slash or none, behind the first slash stands a length or
not, and before it stands an address or not.  A length text may have a plus sign and
zeros in front, and an address behind it may have host bits, so a subnet has many texts.
One of them is written for it, and this one reads back as the subnet.
-/

namespace Subnet

variable {text digits before after : List Char} {length : Nat}

/-! ## Lengths -/

/-- A text that denotes a number of leading bits: digits, perhaps behind one plus sign. -/
def IsLength (text : List Char) (length : Nat) : Prop :=
  (∃ digits, (text = digits ∨ text = '+' :: digits) ∧ Denotes digits length) ∧ length ≤ 32

theorem not_denotes_plus {number : Nat} : ¬ Denotes ('+' :: digits) number := by
  intro denotes
  have plus := denotes.decimal '+' List.mem_cons_self
  contradiction

theorem filter_decimal?_eq_some_iff :
    (decimal? digits).filter (· ≤ 32) = some length ↔ Denotes digits length ∧ length ≤ 32 := by
  rw [Option.filter_eq_some_iff, decimal?_eq_some_iff, decide_eq_true_eq]

theorem length?_eq_some_iff : length? text = some length ↔ IsLength text length := by
  by_cases signed : ∃ digits, text = '+' :: digits
  · rcases signed with ⟨digits, rfl⟩
    have unsigned : length? ('+' :: digits) = (decimal? digits).filter (· ≤ 32) := rfl
    rw [unsigned, filter_decimal?_eq_some_iff]
    constructor
    · rintro ⟨denotes, small⟩
      exact ⟨⟨digits, Or.inr rfl, denotes⟩, small⟩
    · rintro ⟨⟨read, rfl | same, denotes⟩, small⟩
      · exact absurd denotes not_denotes_plus
      · cases same
        exact ⟨denotes, small⟩
  · have unsigned : length? text = (decimal? text).filter (· ≤ 32) := by
      rw [length?]
      exact fun digits same => signed ⟨digits, same⟩
    rw [unsigned, filter_decimal?_eq_some_iff]
    constructor
    · rintro ⟨denotes, small⟩
      exact ⟨⟨text, Or.inl rfl, denotes⟩, small⟩
    · rintro ⟨⟨read, rfl | same, denotes⟩, small⟩
      · exact ⟨denotes, small⟩
      · exact absurd ⟨read, same⟩ signed

theorem isLength_written (subnet : Subnet) :
    IsLength (Nat.toDigits 10 subnet.length) subnet.length :=
  ⟨⟨_, Or.inl rfl, denotes_written subnet.length⟩, subnet.length_le⟩

theorem lengthOf_slash_eq_ok (sized : IsLength after length) :
    lengthOf ('/' :: after) = .ok length := by
  rw [lengthOf, length?_eq_some_iff.mpr sized]
  rfl

theorem lengthOf_slash_eq_error (unsized : ∀ length, ¬ IsLength after length) :
    lengthOf ('/' :: after) = .error (.length after) := by
  have none : length? after = none :=
    Option.eq_none_iff_forall_ne_some.mpr fun length read =>
      unsized length (length?_eq_some_iff.mp read)
  rw [lengthOf, none]
  rfl

/-! ## The parts of a text -/

/-- A text is cut where its first slash is, or at its end. -/
theorem cut_append (unslashed : '/' ∉ before) {rest : List Char}
    (starts : rest.takeWhile (· != '/') = []) :
    (before ++ rest).takeWhile (· != '/') = before ∧
      (before ++ rest).dropWhile (· != '/') = rest := by
  have passed : ∀ character ∈ before, (character != '/') = true := by
    intro character member
    rw [bne_iff_ne]
    rintro rfl
    exact unslashed member
  have stays : rest.dropWhile (· != '/') = rest := by
    have whole := List.takeWhile_append_dropWhile (p := (· != '/')) (l := rest)
    rwa [starts, List.nil_append] at whole
  rw [List.takeWhile_append_of_pos passed, List.dropWhile_append_of_pos passed, starts, stays,
    List.append_nil]
  exact ⟨rfl, rfl⟩

theorem cut_slash (unslashed : '/' ∉ before) (after : List Char) :
    (before ++ '/' :: after).takeWhile (· != '/') = before ∧
      (before ++ '/' :: after).dropWhile (· != '/') = '/' :: after :=
  cut_append unslashed rfl

theorem cut_unslashed (unslashed : '/' ∉ text) :
    text.takeWhile (· != '/') = text ∧ text.dropWhile (· != '/') = [] := by
  have whole := @cut_append text unslashed [] rfl
  rwa [List.append_nil] at whole

theorem ofText?_eq_none (unaddressed : ∀ address : Address, text ≠ address.text) :
    Address.ofText? text = none :=
  Option.eq_none_iff_forall_ne_some.mpr fun address read =>
    unaddressed address (Address.ofText?_eq_some_iff.mp read)

theorem unslashed_text (address : Address) : '/' ∉ address.text := by
  intro member
  have digit := Address.isDigit_of_mem_text member (by decide)
  contradiction

/-- What a subnet text is read as. -/
inductive Reading : List Char → Except SubnetError Subnet → Prop where
  /-- An address alone stands for itself. -/
  | alone (address : Address) : Reading address.text (.ok (ofAddress address 32))
  | sized (address : Address) {after : List Char} {length : Nat} (sized : IsLength after length) :
      Reading (address.text ++ '/' :: after) (.ok (ofAddress address length))
  /-- The length is refused whatever stands before the slash. -/
  | unsized {before after : List Char} (first : '/' ∉ before)
      (unsized : ∀ length, ¬ IsLength after length) :
      Reading (before ++ '/' :: after) (.error (.length after))
  | unaddressed {before after : List Char} {length : Nat} (first : '/' ∉ before)
      (sized : IsLength after length) (unaddressed : ∀ address : Address, before ≠ address.text) :
      Reading (before ++ '/' :: after) (.error (.address before))
  | unaddressedAlone {text : List Char} (unslashed : '/' ∉ text)
      (unaddressed : ∀ address : Address, text ≠ address.text) :
      Reading text (.error (.address text))

theorem ofText_of_reading {result : Except SubnetError Subnet} (reading : Reading text result) :
    ofText text = result := by
  cases reading with
  | alone address =>
      rcases cut_unslashed (unslashed_text address) with ⟨front, back⟩
      rw [ofText, front, back, lengthOf, Address.ofText?_eq_some_iff.mpr rfl]
  | @sized address after length sized =>
      rcases cut_slash (unslashed_text address) after with ⟨front, back⟩
      rw [ofText, front, back, lengthOf_slash_eq_ok sized, Address.ofText?_eq_some_iff.mpr rfl]
  | @unsized before after first unsized =>
      rw [ofText, (cut_slash first after).2, lengthOf_slash_eq_error unsized]
  | @unaddressed before after length first sized unaddressed =>
      rcases cut_slash first after with ⟨front, back⟩
      rw [ofText, front, back, lengthOf_slash_eq_ok sized, ofText?_eq_none unaddressed]
  | unaddressedAlone unslashed unaddressed =>
      rcases cut_unslashed unslashed with ⟨front, back⟩
      rw [ofText, front, back, lengthOf, ofText?_eq_none unaddressed]

theorem exists_reading (text : List Char) : ∃ result, Reading text result := by
  by_cases slashed : '/' ∈ text
  · rcases List.eq_append_cons_of_mem slashed with ⟨before, after, rfl, first⟩
    by_cases sized : ∃ length, IsLength after length
    · rcases sized with ⟨length, sized⟩
      by_cases addressed : ∃ address : Address, before = address.text
      · rcases addressed with ⟨address, rfl⟩
        exact ⟨_, .sized address sized⟩
      · exact ⟨_, .unaddressed first sized (not_exists.mp addressed)⟩
    · exact ⟨_, .unsized first (not_exists.mp sized)⟩
  · by_cases addressed : ∃ address : Address, text = address.text
    · rcases addressed with ⟨address, rfl⟩
      exact ⟨_, .alone address⟩
    · exact ⟨_, .unaddressedAlone slashed (not_exists.mp addressed)⟩

/-- A text is read as what it says, and says just one thing. -/
theorem ofText_eq_iff {result : Except SubnetError Subnet} :
    ofText text = result ↔ Reading text result := by
  constructor
  · rintro rfl
    rcases exists_reading text with ⟨result, reading⟩
    rwa [ofText_of_reading reading]
  · exact ofText_of_reading

/-! ## Subnets, texts and members -/

theorem ofAddress_network (subnet : Subnet) :
    ofAddress subnet.network subnet.length = subnet := by
  rcases subnet with ⟨⟨bits⟩, length, length_le, masked⟩
  simp only [ofAddress, Nat.min_eq_left length_le, masked]

/-- What is written for a subnet reads back as the subnet. -/
theorem ofText_text (subnet : Subnet) : ofText subnet.text = .ok subnet := by
  have written := Reading.sized subnet.network (isLength_written subnet)
  rw [ofAddress_network] at written
  exact ofText_of_reading written

/-- A text is read as what it says, be it a subnet or the fault of its length or, behind a
good length, of its address.  The subnet of an address contains what begins with the same
bits.  A subnet is known by the text that is written for it, and by its members. -/
theorem known_by_texts_and_members :
    (∀ text result, ofText text = result ↔ Reading text result) ∧
    (∀ address length other, (ofAddress address length).contains other = true ↔
      ∀ index < min length 32, other.leadingBit index = address.leadingBit index) ∧
    (∀ subnet : Subnet, ofText subnet.text = .ok subnet) ∧
    ∀ first second : Subnet,
      first = second ↔ ∀ address, first.contains address = second.contains address :=
  ⟨fun _ _ => ofText_eq_iff, fun _ _ _ => contains_ofAddress_iff, ofText_text,
    fun _ _ => eq_iff_contains⟩

/-- A text with host bits in the address, and with a plus sign and a zero in front of the
length, and a text in which both parts are wrong. -/
theorem known_by_texts_and_members_hostBits :
    let address : Address := .ofOctets 10 1 2 3
    let subnet := ofAddress address 8
    ofText (address.text ++ ['/', '+', '0', '8']) = .ok subnet ∧
      subnet.contains (.ofOctets 10 200 0 255) = true ∧
      subnet.text = ['1', '0', '.', '0', '.', '0', '.', '0', '/', '8'] ∧
      ofText subnet.text = .ok subnet ∧
      ofText ['1', '0', '/', '3', '3', '/'] = .error (.length ['3', '3', '/']) := by
  intro address subnet
  rcases known_by_texts_and_members with ⟨reads, members, written, -⟩
  have decimal : ['0', '8'].all Char.isDigit = true := rfl
  have eight : IsLength ['+', '0', '8'] 8 :=
    ⟨⟨['0', '8'], Or.inr rfl, List.cons_ne_nil _ _, List.all_eq_true.mp decimal, rfl⟩, by decide⟩
  have none (length : Nat) : ¬ IsLength ['3', '3', '/'] length := by
    rintro ⟨⟨digits, rfl | signed, denotes⟩, -⟩
    · have slash := denotes.decimal '/' (by decide)
      contradiction
    · cases signed
  refine ⟨(reads _ _).mpr (.sized address eight), ?_, by decide, written subnet, ?_⟩
  · exact (members address 8 _).mpr (by decide)
  · have slash : '/' ∉ ['1', '0'] := by decide
    exact (reads _ _).mpr (.unsized slash none)

end Subnet

end InbandTelemetry
