import Mathlib.Data.List.Basic
import InbandTelemetry.Relocation

namespace InbandTelemetry

/-!
# Reading and moving stretches of byte strings

A stretch of a byte string is known by two things: its content, and the string
that is left when it is cut out.  Overwriting changes the content and not the
rest.  Moving it to another offset changes neither.  Single bytes and packed
words are read through the same stretches.  Offsets are 64-bit words, and where
two of them are added it matters whether their sum wraps round.
-/

/-! ## Offsets that wrap round -/

theorem wrapAdd_of_lt {left right : Nat} (whole : left + right < wordBound) :
    wrapAdd left right = left + right := Nat.mod_eq_of_lt whole

theorem wrapAdd_of_le {left right : Nat} (leftWord : left < wordBound)
    (rightWord : right < wordBound) (wraps : wordBound ≤ left + right) :
    wrapAdd left right = left + right - wordBound := by
  have small : left + right - wordBound < wordBound := by omega
  rw [wrapAdd, Nat.mod_eq_sub_mod wraps, Nat.mod_eq_of_lt small]

/-- A sum of two words that wraps round is less than either of them. -/
theorem le_wrapAdd_iff {left right : Nat} (leftWord : left < wordBound)
    (rightWord : right < wordBound) :
    left ≤ wrapAdd left right ↔ left + right < wordBound := by
  constructor
  · intro ordered
    apply Nat.lt_of_not_le
    intro wraps
    rw [wrapAdd_of_le leftWord rightWord wraps] at ordered
    omega
  · intro whole
    rw [wrapAdd_of_lt whole]
    exact Nat.le_add_right left right

namespace Bytes

/-! ## Packed fields -/

@[simp] theorem highNibble_packNibbles (high low : UInt8) :
    highNibble (packNibbles high low) = high % 16 := by
  apply UInt8.toNat_inj.mp
  simp only [highNibble, packNibbles, UInt8.toNat_div, UInt8.toNat_add, UInt8.toNat_mul,
    UInt8.toNat_mod, UInt8.reduceToNat]
  omega

@[simp] theorem lowNibble_packNibbles (high low : UInt8) :
    lowNibble (packNibbles high low) = low % 16 := by
  apply UInt8.toNat_inj.mp
  simp only [lowNibble, packNibbles, UInt8.toNat_add, UInt8.toNat_mul,
    UInt8.toNat_mod, UInt8.reduceToNat]
  omega

theorem mod_sixteen_of_le {field : UInt8} (narrow : field ≤ 15) : field % 16 = field := by
  apply UInt8.toNat_inj.mp
  have bound : field.toNat ≤ 15 := UInt8.le_iff_toNat_le.mp narrow
  rw [UInt8.toNat_mod]
  exact Nat.mod_eq_of_lt (Nat.lt_succ_of_le bound)

/-- The two bytes of a word give the word back. -/
theorem word16_ofWord16 (word : UInt16) :
    word16 (UInt8.ofNat (word.toNat / 256)) (UInt8.ofNat word.toNat) = word := by
  have bound := word.toNat_lt
  apply UInt16.toNat_inj.mp
  simp only [word16, UInt16.toNat_ofNat', UInt8.toNat_ofNat']
  omega

/-- The two halves of a byte give the byte back. -/
theorem packNibbles_nibbles (byte : UInt8) :
    packNibbles (highNibble byte) (lowNibble byte) = byte := by
  apply UInt8.toNat_inj.mp
  have bound := byte.toNat_lt
  simp only [packNibbles, highNibble, lowNibble, UInt8.toNat_add, UInt8.toNat_mul,
    UInt8.toNat_div, UInt8.toNat_mod, UInt8.reduceToNat]
  omega

theorem highNibble_le (byte : UInt8) : highNibble byte ≤ 15 := by
  apply UInt8.le_iff_toNat_le.mpr
  have bound := byte.toNat_lt
  simp only [highNibble, UInt8.toNat_div, UInt8.reduceToNat]
  omega

theorem lowNibble_le (byte : UInt8) : lowNibble byte ≤ 15 := by
  apply UInt8.le_iff_toNat_le.mpr
  simp only [lowNibble, UInt8.toNat_mod, UInt8.reduceToNat]
  omega

/-- Two bytes are the bytes of the word that they make up. -/
theorem ofWord16_word16 (high low : UInt8) : ofWord16 (word16 high low) = [high, low] := by
  have highBound := high.toNat_lt
  have lowBound := low.toNat_lt
  have total : (word16 high low).toNat = high.toNat * 256 + low.toNat := by
    rw [word16, UInt16.toNat_ofNat']
    omega
  have upper : UInt8.ofNat ((word16 high low).toNat / 256) = high := by
    apply UInt8.toNat_inj.mp
    rw [UInt8.toNat_ofNat', total]
    omega
  have lower : UInt8.ofNat (word16 high low).toNat = low := by
    apply UInt8.toNat_inj.mp
    rw [UInt8.toNat_ofNat', total]
    omega
  rw [ofWord16, upper, lower]

/-- The four bytes of a word give the word back. -/
theorem word32_ofWord32 (word : UInt32) :
    word32 (UInt8.ofNat (word.toNat / 16777216)) (UInt8.ofNat (word.toNat / 65536))
      (UInt8.ofNat (word.toNat / 256)) (UInt8.ofNat word.toNat) = word := by
  have bound := word.toNat_lt
  apply UInt32.toNat_inj.mp
  simp only [word32, UInt32.toNat_ofNat', UInt8.toNat_ofNat']
  omega

/-- Four bytes are the bytes of the word that they make up. -/
theorem ofWord32_word32 (first second third fourth : UInt8) :
    ofWord32 (word32 first second third fourth) = [first, second, third, fourth] := by
  have bounds := And.intro first.toNat_lt
    (And.intro second.toNat_lt (And.intro third.toNat_lt fourth.toNat_lt))
  have total : (word32 first second third fourth).toNat =
      ((first.toNat * 256 + second.toNat) * 256 + third.toNat) * 256 + fourth.toNat := by
    rw [word32, UInt32.toNat_ofNat']
    omega
  have bytes : ∀ (sum : Nat) (byte : UInt8), sum % 256 = byte.toNat → UInt8.ofNat sum = byte := by
    intro sum byte same
    apply UInt8.toNat_inj.mp
    rw [UInt8.toNat_ofNat']
    exact same
  rw [ofWord32, total, bytes _ first (by omega), bytes _ second (by omega),
    bytes _ third (by omega), bytes _ fourth (by omega)]

theorem word32_eq_iff {first second third fourth : UInt8} {word : UInt32} :
    word32 first second third fourth = word ↔ [first, second, third, fourth] = ofWord32 word := by
  constructor
  · rintro rfl
    exact (ofWord32_word32 first second third fourth).symm
  · intro same
    simp only [ofWord32, List.cons.injEq, and_true] at same
    rcases same with ⟨rfl, rfl, rfl, rfl⟩
    exact word32_ofWord32 word

/-! ## Content and rest of a stretch -/

variable {bytes before middle after content : Bytes} {start length offset : Nat}

theorem length_window (inside : start + length ≤ bytes.length) :
    (window bytes start length).length = length := by
  rw [window, List.length_take, List.length_drop]
  omega

theorem le_length_of_window (whole : (window bytes start length).length = length)
    (nonempty : 0 < length) : start + length ≤ bytes.length := by
  rw [window, List.length_take, List.length_drop] at whole
  omega

/-- A stretch and what lies behind it. -/
theorem window_append_drop (bytes : Bytes) (start length : Nat) :
    window bytes start length ++ bytes.drop (start + length) = bytes.drop start := by
  rw [window, ← List.drop_drop, List.take_append_drop]

theorem window_append (reached : before.length = start) (filled : middle.length = length) :
    window (before ++ (middle ++ after)) start length = middle := by
  rw [window, List.drop_left' reached, List.take_left' filled]

theorem without_append (reached : before.length = start) (filled : middle.length = length) :
    without (before ++ (middle ++ after)) start length = before ++ after := by
  rw [without, List.take_left' reached, ← List.drop_drop, List.drop_left' reached,
    List.drop_left' filled]

theorem length_without (inside : start + length ≤ bytes.length) :
    (without bytes start length).length + length = bytes.length := by
  rw [without, List.length_append, List.length_take, List.length_drop]
  omega

/-- What is cut out leaves the bytes in front of it where they are. -/
theorem take_without (reached : start ≤ bytes.length) :
    (without bytes start length).take start = bytes.take start := by
  have front : (bytes.take start).length = start := List.length_take_of_le reached
  rw [without, List.take_left' front]

/-- A byte comes from the written stretch or else from the string beneath. -/
theorem getElem?_overwrite (inside : start ≤ bytes.length) (offset : Nat) :
    (overwrite bytes start content)[offset]? =
      if start ≤ offset ∧ offset < start + content.length then content[offset - start]?
      else bytes[offset]? := by
  have reached : (bytes.take start).length = start := List.length_take_of_le inside
  rw [overwrite, List.getElem?_append, reached]
  split
  · rename_i early
    rw [if_neg (by omega), List.getElem?_take_of_lt early]
  · rw [List.getElem?_append]
    split
    · rw [if_pos (by omega)]
    · rw [if_neg (by omega), List.getElem?_drop]
      congr 1
      omega

theorem getElem?_overwrite_of_apart (inside : start ≤ bytes.length)
    (apart : offset < start ∨ start + content.length ≤ offset) :
    (overwrite bytes start content)[offset]? = bytes[offset]? := by
  rw [getElem?_overwrite inside, if_neg (by omega)]

theorem byteAt_overwrite (inside : start + content.length ≤ bytes.length) (offset : Nat) :
    byteAt (overwrite bytes start content) offset =
      if start ≤ offset ∧ offset < start + content.length then byteAt content (offset - start)
      else byteAt bytes offset := by
  simp only [byteAt, List.getD_eq_getElem?_getD]
  rw [getElem?_overwrite (Nat.le_of_add_right_le inside)]
  split <;> rfl

/-- What stands in front of a string stays apart from what is written into the string. -/
theorem append_overwrite (before bytes : Bytes) (start : Nat) (content : Bytes) :
    before ++ overwrite bytes start content =
      overwrite (before ++ bytes) (before.length + start) content := by
  rw [overwrite, overwrite, List.take_length_add_append, Nat.add_assoc,
    List.drop_length_add_append, List.append_assoc]

/-- What stands behind a string stays apart from what is written into the string. -/
theorem overwrite_append (inside : start + content.length ≤ bytes.length) (after : Bytes) :
    overwrite bytes start content ++ after = overwrite (bytes ++ after) start content := by
  rw [overwrite, overwrite, List.take_append_of_le_length (Nat.le_of_add_right_le inside),
    List.drop_append_of_le_length inside, List.append_assoc, List.append_assoc]

theorem take_overwrite {early : Nat} (before : early ≤ start) (inside : start ≤ bytes.length) :
    (overwrite bytes start content).take early = bytes.take early := by
  have reached : (bytes.take start).length = start := List.length_take_of_le inside
  rw [overwrite, List.take_append_of_le_length (by omega), List.take_take,
    Nat.min_eq_left before]

/-- Overwriting changes nothing behind the overwritten stretch. -/
theorem drop_overwrite {late : Nat} (inside : start + content.length ≤ bytes.length)
    (behind : start + content.length ≤ late) :
    (overwrite bytes start content).drop late = bytes.drop late := by
  have reached : (bytes.take start ++ content).length = start + content.length := by
    rw [List.length_append, List.length_take]
    omega
  rw [overwrite, ← List.append_assoc, List.drop_append, reached,
    List.drop_eq_nil_of_le (reached ▸ behind), List.nil_append, List.drop_drop,
    Nat.add_sub_cancel' behind]

/-- A stretch that lies apart from the overwritten one reads as before. -/
theorem window_overwrite_of_apart {other : Nat} (starts : start ≤ bytes.length)
    (whole : other + length ≤ bytes.length)
    (apart : start + content.length ≤ other ∨ other + length ≤ start) :
    window (overwrite bytes start content) other length = window bytes other length := by
  rcases apart with before | behind
  · rw [window, drop_overwrite (by omega) before, window]
  · simp only [window, List.take_drop]
    rw [take_overwrite (by omega) starts]

/-- A stretch that contains the overwritten one is overwritten in itself. -/
theorem window_overwrite_of_within {position : Nat} (inside : start + content.length ≤ bytes.length)
    (reached : position ≤ start) (within : start + content.length ≤ position + length) :
    window (overwrite bytes start content) position length =
      overwrite (window bytes position length) (start - position) content := by
  have starts : start - position ≤ (window bytes position length).length := by
    rw [window, List.length_take, List.length_drop]
    omega
  have shifted (index : Nat) : position + index - start = index - (start - position) := by omega
  apply List.ext_getElem?
  intro index
  rw [getElem?_overwrite starts, window, window, List.getElem?_take, List.getElem?_take,
    List.getElem?_drop, List.getElem?_drop, getElem?_overwrite (Nat.le_of_add_right_le inside),
    shifted]
  by_cases early : index < length
  · rw [if_pos early, if_pos early]
    exact if_congr (by omega) rfl rfl
  · rw [if_neg early, if_neg early, if_neg (by omega)]

theorem window_congr {other : Bytes}
    (same : ∀ index, start ≤ index → index < start + length → bytes[index]? = other[index]?) :
    window bytes start length = window other start length := by
  apply List.ext_getElem?
  intro index
  rw [window, window, List.getElem?_take, List.getElem?_take, List.getElem?_drop,
    List.getElem?_drop]
  split
  · exact same _ (by omega) (by omega)
  · rfl

/-! ## Reading words -/

theorem byteAt_drop (bytes : Bytes) (skipped offset : Nat) :
    byteAt (bytes.drop skipped) offset = byteAt bytes (skipped + offset) := by
  rw [byteAt, byteAt, List.getD_eq_getElem?_getD, List.getD_eq_getElem?_getD, List.getElem?_drop]

theorem word16At_drop (bytes : Bytes) (skipped offset : Nat) :
    word16At (bytes.drop skipped) offset = word16At bytes (skipped + offset) := by
  rw [word16At, byteAt_drop, byteAt_drop]
  rfl

theorem word32At_drop (bytes : Bytes) (skipped offset : Nat) :
    word32At (bytes.drop skipped) offset = word32At bytes (skipped + offset) := by
  rw [word32At, byteAt_drop, byteAt_drop, byteAt_drop, byteAt_drop]
  rfl

theorem byteAt_congr {other : Bytes} (same : bytes[offset]? = other[offset]?) :
    byteAt bytes offset = byteAt other offset := by
  rw [byteAt, byteAt, List.getD_eq_getElem?_getD, List.getD_eq_getElem?_getD, same]

theorem word16At_congr {other : Bytes} (high : bytes[offset]? = other[offset]?)
    (low : bytes[offset + 1]? = other[offset + 1]?) :
    word16At bytes offset = word16At other offset := by
  rw [word16At, word16At, byteAt_congr high, byteAt_congr low]

theorem word32At_congr {other : Bytes}
    (same : ∀ index < 4, bytes[offset + index]? = other[offset + index]?) :
    word32At bytes offset = word32At other offset := by
  have first : bytes[offset]? = other[offset]? := same 0 (by decide)
  rw [word32At, word32At, byteAt_congr first, byteAt_congr (same 1 (by decide)),
    byteAt_congr (same 2 (by decide)), byteAt_congr (same 3 (by decide))]

/-- A word at the beginning of an overwritten stretch reads back. -/
theorem word16At_overwrite {word : UInt16}
    (inside : start + (ofWord16 word ++ content).length ≤ bytes.length) :
    word16At (overwrite bytes start (ofWord16 word ++ content)) start = word := by
  have size : (ofWord16 word ++ content).length = content.length + 2 := by
    rw [List.length_append, length_ofWord16, Nat.add_comm]
  rw [word16At, byteAt_overwrite inside, byteAt_overwrite inside, if_pos (by omega),
    if_pos (by omega), Nat.sub_self, Nat.add_sub_cancel_left]
  exact word16_ofWord16 word

/-! ## Strings that agree outside a stretch -/

/-- Two strings of one length that have the same bytes outside a stretch. -/
structure AgreeOutside (start length : Nat) (first second : Bytes) : Prop where
  length_eq : first.length = second.length
  agrees : ∀ offset, offset < start ∨ start + length ≤ offset → first[offset]? = second[offset]?

namespace AgreeOutside

variable {first second third : Bytes}

theorem refl (bytes : Bytes) : AgreeOutside start length bytes bytes := ⟨rfl, fun _ _ => rfl⟩

theorem trans (left : AgreeOutside start length first second)
    (right : AgreeOutside start length second third) : AgreeOutside start length first third :=
  ⟨left.length_eq.trans right.length_eq,
    fun offset apart => (left.agrees offset apart).trans (right.agrees offset apart)⟩

/-- A string agrees with what becomes of it when a part of the stretch is overwritten. -/
theorem of_overwrite {position : Nat} (starts : start ≤ position)
    (stops : position + content.length ≤ start + length)
    (inside : position + content.length ≤ bytes.length) :
    AgreeOutside start length bytes (Bytes.overwrite bytes position content) := by
  refine ⟨(length_overwrite inside).symm, ?_⟩
  intro offset apart
  exact (getElem?_overwrite_of_apart (Nat.le_of_add_right_le inside) (by omega)).symm

/-- What two strings are parts of, at the same place, agrees outside the stretch as well. -/
theorem append (agree : AgreeOutside start length first second) (before after : Bytes) :
    AgreeOutside (before.length + start) length (before ++ (first ++ after))
      (before ++ (second ++ after)) := by
  refine ⟨?_, ?_⟩
  · simp only [List.length_append, agree.length_eq]
  · intro offset apart
    by_cases early : offset < before.length
    · rw [List.getElem?_append_left early, List.getElem?_append_left early]
    · have reached := Nat.le_of_not_lt early
      rw [List.getElem?_append_right reached, List.getElem?_append_right reached]
      by_cases inside : offset - before.length < first.length
      · rw [List.getElem?_append_left inside, List.getElem?_append_left (agree.length_eq ▸ inside)]
        exact agree.agrees _ (by omega)
      · have behind := Nat.le_of_not_lt inside
        rw [List.getElem?_append_right behind,
          List.getElem?_append_right (agree.length_eq ▸ behind), agree.length_eq]

/-- Strings in which one stretch is replaced by two contents agree where the contents do. -/
theorem overwrite (agree : AgreeOutside start length first second) {position : Nat}
    (inside : position ≤ bytes.length) :
    AgreeOutside (position + start) length (Bytes.overwrite bytes position first)
      (Bytes.overwrite bytes position second) := by
  have reached : (bytes.take position).length = position := List.length_take_of_le inside
  have parts := agree.append (bytes.take position) (bytes.drop (position + first.length))
  rw [reached] at parts
  rw [Bytes.overwrite, Bytes.overwrite, ← agree.length_eq]
  exact parts

/-- Strings that agree outside a stretch still do so when both are overwritten with one
content. -/
theorem overwritten (agree : AgreeOutside start length first second) {position : Nat}
    (inside : position ≤ first.length) (content : Bytes) :
    AgreeOutside start length (Bytes.overwrite first position content)
      (Bytes.overwrite second position content) := by
  have other : position ≤ second.length := agree.length_eq ▸ inside
  refine ⟨?_, ?_⟩
  · simp only [Bytes.overwrite, List.length_append, List.length_take, List.length_drop,
      agree.length_eq]
  · intro offset apart
    rw [getElem?_overwrite inside, getElem?_overwrite other, agree.agrees offset apart]

/-- Two strings that are the same without a stretch agree where the stretches do. -/
theorem of_window {position width : Nat} (inside : position + width ≤ first.length)
    (otherInside : position + width ≤ second.length)
    (rest : without first position width = without second position width)
    (agree : AgreeOutside start length (window first position width)
      (window second position width)) :
    AgreeOutside (position + start) length first second := by
  have reached : (first.take position).length = position := List.length_take_of_le (by omega)
  have otherReached : (second.take position).length = position :=
    List.length_take_of_le (by omega)
  rcases List.append_inj rest (reached.trans otherReached.symm) with ⟨front, back⟩
  have parts := agree.append (first.take position) (first.drop (position + width))
  rw [reached, window_append_drop, List.take_append_drop, front, back, window_append_drop,
    List.take_append_drop] at parts
  exact parts

end AgreeOutside

/-! ## Moving a stretch -/

theorem exchange_eq (bytes : Bytes) (start first second : Nat) :
    exchange bytes start first second =
      (bytes.take start ++ window bytes (start + first) second) ++
        (window bytes start first ++ bytes.drop (start + first + second)) := by
  rw [exchange, List.append_assoc]

/-- A stretch that moves towards the end keeps its content, and so does the rest. -/
theorem exchange_forward (bytes : Bytes) (start first second : Nat)
    (inside : start + first + second ≤ bytes.length) :
    window (exchange bytes start first second) (start + second) first =
        window bytes start first ∧
      without (exchange bytes start first second) (start + second) first =
        without bytes start first := by
  have reached : (bytes.take start ++ window bytes (start + first) second).length =
      start + second := by
    rw [List.length_append, length_window inside, List.length_take]
    omega
  have filled : (window bytes start first).length = first := length_window (by omega)
  rw [exchange_eq]
  refine ⟨window_append reached filled, ?_⟩
  rw [without_append reached filled, without, List.append_assoc, window_append_drop]

/-- A stretch that moves towards the front keeps its content, and so does the rest. -/
theorem exchange_backward (bytes : Bytes) (start first second : Nat)
    (inside : start + first + second ≤ bytes.length) :
    window (exchange bytes start first second) start second =
        window bytes (start + first) second ∧
      without (exchange bytes start first second) start second =
        without bytes (start + first) second := by
  have reached : (bytes.take start).length = start := List.length_take_of_le (by omega)
  have filled : (window bytes (start + first) second).length = second := length_window inside
  rw [exchange]
  refine ⟨window_append reached filled, ?_⟩
  rw [without_append reached filled, without, ← List.append_assoc, List.take_add, window]

/-- A stretch that stays in the string moves as a whole, over bytes that keep their
order. -/
theorem moveWindow_ok {source target : Nat} (sourceInside : source + length ≤ bytes.length)
    (targetInside : target + length ≤ bytes.length) :
    ∃ moved, moveWindow bytes source target length = .ok moved ∧
      moved.length = bytes.length ∧
      window moved target length = window bytes source length ∧
      without moved target length = without bytes source length := by
  rw [moveWindow, if_neg (by omega), if_neg (by omega)]
  by_cases forward : source < target
  · rw [if_pos forward]
    have gap : source + (target - source) = target := by omega
    have kept := exchange_forward bytes source length (target - source) (by omega)
    rw [gap] at kept
    exact ⟨_, rfl, length_exchange (by omega), kept⟩
  · rw [if_neg forward]
    by_cases backward : target < source
    · rw [if_pos backward]
      have gap : target + (source - target) = source := by omega
      have kept := exchange_backward bytes target (source - target) length (by omega)
      rw [gap] at kept
      exact ⟨_, rfl, length_exchange (by omega), kept⟩
    · have same : source = target := by omega
      subst same
      rw [if_neg backward]
      exact ⟨bytes, rfl, rfl, rfl, rfl⟩

/-! ## Inserting -/

/-- A string with a content inserted at an offset. -/
def insertAt (bytes : Bytes) (start : Nat) (content : Bytes) : Bytes :=
  bytes.take start ++ (content ++ bytes.drop start)

theorem length_insertAt (bytes : Bytes) (start : Nat) (content : Bytes) :
    (insertAt bytes start content).length = bytes.length + content.length := by
  simp only [insertAt, List.length_append, List.length_take, List.length_drop]
  omega

theorem window_insertAt (inside : start ≤ bytes.length) (filled : content.length = length) :
    window (insertAt bytes start content) start length = content :=
  window_append (List.length_take_of_le inside) filled

theorem without_insertAt (inside : start ≤ bytes.length) (filled : content.length = length) :
    without (insertAt bytes start content) start length = bytes := by
  rw [insertAt, without_append (List.length_take_of_le inside) filled, List.take_append_drop]

/-- The bytes before an insertion stay where they are. -/
theorem getElem?_insertAt_of_lt (inside : start ≤ bytes.length) (before : offset < start) :
    (insertAt bytes start content)[offset]? = bytes[offset]? := by
  have reached : (bytes.take start).length = start := List.length_take_of_le inside
  rw [insertAt, List.getElem?_append_left (reached.symm ▸ before), List.getElem?_take_of_lt before]

theorem getElem?_without (inside : start ≤ bytes.length) (length offset : Nat) :
    (without bytes start length)[offset]? =
      if offset < start then bytes[offset]? else bytes[offset + length]? := by
  have reached : (bytes.take start).length = start := List.length_take_of_le inside
  rw [without, List.getElem?_append, reached]
  split
  · rename_i before
    exact List.getElem?_take_of_lt before
  · rw [List.getElem?_drop]
    congr 1
    omega

/-! ## Opening a gap -/

/-- A gap inside the string can be opened, and the string is what is left without it. -/
theorem insertGap_ok (inside : start ≤ bytes.length) (length : Nat) :
    ∃ wider, insertGap bytes start length = .ok wider ∧
      wider.length = bytes.length + length ∧ without wider start length = bytes := by
  have reached : (bytes.take start).length = start := List.length_take_of_le inside
  have opened : insertGap bytes start length =
      .ok (bytes.take start ++ (List.replicate length 0 ++ bytes.drop start)) := by
    rw [insertGap, if_pos inside]
  refine ⟨_, opened, length_of_insertGap opened, ?_⟩
  rw [without_append reached List.length_replicate, List.take_append_drop]

end Bytes

end InbandTelemetry
