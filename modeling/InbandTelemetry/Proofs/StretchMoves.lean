import InbandTelemetry.Proofs.ByteStrings

namespace InbandTelemetry

/-!
# Moving a stretch is a pure relocation

A stretch that moves takes its content along, and what the string is without it stays
as it is.  These two facts determine the moved string, so nothing more about the
exchange of bytes behind a move is needed: moves compose, a move is undone by the move
back, and a gap that is opened at one offset and moved to another is a gap opened there.
-/

namespace Bytes

variable {bytes moved : Bytes} {source middle target length : Nat}

/-- What a string is after a change in place has been tried.  A change that is refused leaves
it as it was. -/
def afterTrying (bytes : Bytes) (change : Except WireError Bytes) : Bytes :=
  change.toOption.getD bytes

/-! ## Content and rest determine a string -/

theorem eq_reassembled (inside : source + length ≤ bytes.length) :
    bytes = (without bytes source length).take source ++
      (window bytes source length ++ (without bytes source length).drop source) := by
  have reached : (bytes.take source).length = source := List.length_take_of_le (by omega)
  rw [take_without (by omega), without, List.drop_left' reached, window_append_drop,
    List.take_append_drop]

/-- A string is known by the content of a stretch of it and by what it is without the
stretch. -/
theorem eq_of_window_of_without {other : Bytes} (inside : target + length ≤ bytes.length)
    (otherInside : target + length ≤ other.length)
    (content : window bytes target length = window other target length)
    (rest : without bytes target length = without other target length) : bytes = other := by
  rw [eq_reassembled inside, eq_reassembled otherInside, content, rest]

/-! ## Relocations -/

/-- The stretch of `length` bytes at `source` lies at `target` instead.  It is the same
stretch, and the bytes around it are the same in the same order. -/
structure Relocated (source target length : Nat) (bytes moved : Bytes) : Prop where
  length_eq : moved.length = bytes.length
  window_eq : window moved target length = window bytes source length
  without_eq : without moved target length = without bytes source length

namespace Relocated

theorem refl (source length : Nat) (bytes : Bytes) : Relocated source source length bytes bytes :=
  ⟨rfl, rfl, rfl⟩

theorem trans {last : Bytes} (first : Relocated source middle length bytes moved)
    (second : Relocated middle target length moved last) :
    Relocated source target length bytes last :=
  ⟨second.length_eq.trans first.length_eq, second.window_eq.trans first.window_eq,
    second.without_eq.trans first.without_eq⟩

/-- There is one way to relocate a stretch. -/
theorem unique {other : Bytes} (first : Relocated source target length bytes moved)
    (second : Relocated source target length bytes other)
    (inside : target + length ≤ bytes.length) : moved = other :=
  eq_of_window_of_without (first.length_eq.symm ▸ inside) (second.length_eq.symm ▸ inside)
    (first.window_eq.trans second.window_eq.symm) (first.without_eq.trans second.without_eq.symm)

end Relocated

/-! ## Moves -/

theorem moveWindow_of_source_outside (outside : bytes.length < source + length) :
    moveWindow bytes source target length = .error (.outOfBounds source length bytes.length) :=
  if_pos outside

theorem moveWindow_of_target_outside (inside : source + length ≤ bytes.length)
    (outside : bytes.length < target + length) :
    moveWindow bytes source target length = .error (.outOfBounds target length bytes.length) := by
  rw [moveWindow, if_neg (Nat.not_lt.mpr inside), if_pos outside]

/-- A stretch can be moved between any two places inside the string. -/
theorem exists_relocated (sourceInside : source + length ≤ bytes.length)
    (targetInside : target + length ≤ bytes.length) :
    ∃ moved, moveWindow bytes source target length = .ok moved ∧
      Relocated source target length bytes moved := by
  rcases moveWindow_ok sourceInside targetInside with ⟨moved, success, size, content, rest⟩
  exact ⟨moved, success, size, content, rest⟩

/-- A move is what relocates the stretch. -/
theorem Relocated.moveWindow_eq (relocated : Relocated source target length bytes moved)
    (sourceInside : source + length ≤ bytes.length)
    (targetInside : target + length ≤ bytes.length) :
    moveWindow bytes source target length = .ok moved := by
  rcases exists_relocated sourceInside targetInside with ⟨other, success, same⟩
  rw [success, same.unique relocated targetInside]

/-- A move fails just where one of the two places leaves the string. -/
theorem moveWindow_eq_error_iff :
    (∃ fault, moveWindow bytes source target length = .error fault) ↔
      bytes.length < source + length ∨ bytes.length < target + length := by
  constructor
  · rintro ⟨fault, failed⟩
    apply or_iff_not_and_not.mpr
    rintro ⟨sourceInside, targetInside⟩
    rcases exists_relocated (Nat.le_of_not_lt sourceInside) (Nat.le_of_not_lt targetInside) with
      ⟨moved, success, -⟩
    rw [success] at failed
    contradiction
  · intro outside
    by_cases sourceOutside : bytes.length < source + length
    · exact ⟨_, moveWindow_of_source_outside sourceOutside⟩
    · exact ⟨_, moveWindow_of_target_outside (Nat.le_of_not_lt sourceOutside)
        (outside.resolve_left sourceOutside)⟩

/-- A move by way of a place inside the string is the move without the stop.  Where the
first or the last place leaves the string, both are refused with the same fault. -/
theorem moveWindow_bind (inside : middle + length ≤ bytes.length) :
    (moveWindow bytes source middle length).bind
        (fun moved => moveWindow moved middle target length) =
      moveWindow bytes source target length := by
  by_cases sourceInside : source + length ≤ bytes.length
  · rcases exists_relocated sourceInside inside with ⟨moved, success, first⟩
    rw [success, Except.bind]
    have size := first.length_eq
    by_cases targetInside : target + length ≤ bytes.length
    · rcases exists_relocated (size.symm ▸ inside) (size.symm ▸ targetInside) with
        ⟨last, arrived, second⟩
      rw [arrived, (first.trans second).moveWindow_eq sourceInside targetInside]
    · have outside := Nat.lt_of_not_le targetInside
      rw [moveWindow_of_target_outside (size.symm ▸ inside) (size.symm ▸ outside),
        moveWindow_of_target_outside sourceInside outside, size]
  · have outside := Nat.lt_of_not_le sourceInside
    rw [moveWindow_of_source_outside outside, moveWindow_of_source_outside outside]
    rfl

/-! ## Gaps -/

theorem insertGap_of_outside (outside : bytes.length < source) :
    insertGap bytes source length = .error (.outOfBounds source length bytes.length) :=
  if_neg (Nat.not_le.mpr outside)

/-- A string with a gap in one place is the same string with the gap in another place,
relocated. -/
theorem relocated_insertGap (sourceInside : source ≤ bytes.length)
    (targetInside : target ≤ bytes.length) :
    ∃ wider other, insertGap bytes source length = .ok wider ∧
      insertGap bytes target length = .ok other ∧ wider.length = bytes.length + length ∧
      Relocated source target length wider other := by
  have reached : (bytes.take source).length = source := List.length_take_of_le sourceInside
  have otherReached : (bytes.take target).length = target := List.length_take_of_le targetInside
  have opened : insertGap bytes source length =
      .ok (bytes.take source ++ (List.replicate length 0 ++ bytes.drop source)) :=
    if_pos sourceInside
  have otherOpened : insertGap bytes target length =
      .ok (bytes.take target ++ (List.replicate length 0 ++ bytes.drop target)) :=
    if_pos targetInside
  have size := length_of_insertGap opened
  refine ⟨_, _, opened, otherOpened, size, (length_of_insertGap otherOpened).trans size.symm, ?_, ?_⟩
  · rw [window_append reached List.length_replicate,
      window_append otherReached List.length_replicate]
  · rw [without_append reached List.length_replicate,
      without_append otherReached List.length_replicate, List.take_append_drop,
      List.take_append_drop]

/-- A gap that is opened at one offset and moved to another is a gap opened there, or both
are refused. -/
theorem moveWindow_insertGap (inside : source ≤ bytes.length) :
    ((insertGap bytes source length).bind
        fun wider => moveWindow wider source target length).toOption =
      (insertGap bytes target length).toOption := by
  by_cases targetInside : target ≤ bytes.length
  · rcases relocated_insertGap inside targetInside with
      ⟨wider, other, opened, otherOpened, size, relocated⟩
    rw [opened, otherOpened, Except.bind,
      relocated.moveWindow_eq (by omega) (by omega)]
  · have outside := Nat.lt_of_not_le targetInside
    rcases insertGap_ok inside length with ⟨wider, opened, size, -⟩
    rw [opened, Except.bind, moveWindow_of_target_outside (by omega) (by omega),
      insertGap_of_outside outside]
    rfl

/-! ## Pure relocation -/

/-- A move is refused just where one of the two places leaves the string, and then the string
is as before.  Otherwise it relocates the stretch and changes nothing else.  A move by way of
a place inside the string is the direct move, and the move back restores the string.  A gap
that is opened at one offset and moved to another is a gap opened there. -/
theorem moveWindow_relocates (bytes : Bytes) (length : Nat) :
    (∀ source target,
      ((∃ fault, moveWindow bytes source target length = .error fault) ↔
        bytes.length < source + length ∨ bytes.length < target + length) ∧
      (bytes.length < source + length ∨ bytes.length < target + length →
        bytes.afterTrying (moveWindow bytes source target length) = bytes) ∧
      ∀ moved, moveWindow bytes source target length = .ok moved →
        moved.length = bytes.length ∧
          window moved target length = window bytes source length ∧
          without moved target length = without bytes source length) ∧
    (∀ source middle target, middle + length ≤ bytes.length →
      (moveWindow bytes source middle length).bind
          (fun moved => moveWindow moved middle target length) =
        moveWindow bytes source target length) ∧
    (∀ source target, source + length ≤ bytes.length → target + length ≤ bytes.length →
      (moveWindow bytes source target length).bind
          (fun moved => moveWindow moved target source length) = .ok bytes) ∧
    ∀ source target, source ≤ bytes.length →
      ((insertGap bytes source length).bind
          fun wider => moveWindow wider source target length).toOption =
        (insertGap bytes target length).toOption := by
  refine ⟨?_, ?_, ?_, ?_⟩
  · intro source target
    refine ⟨moveWindow_eq_error_iff, ?_, ?_⟩
    · intro outside
      rcases moveWindow_eq_error_iff.mpr outside with ⟨fault, failed⟩
      rw [failed]
      rfl
    · intro moved success
      have inside : ¬ (bytes.length < source + length ∨ bytes.length < target + length) := by
        intro outside
        rcases moveWindow_eq_error_iff.mpr outside with ⟨fault, failed⟩
        rw [failed] at success
        contradiction
      rw [not_or, Nat.not_lt, Nat.not_lt] at inside
      rcases exists_relocated inside.1 inside.2 with ⟨other, found, relocated⟩
      rw [success] at found
      cases found
      exact ⟨relocated.length_eq, relocated.window_eq, relocated.without_eq⟩
  · intro source middle target inside
    exact moveWindow_bind inside
  · intro source target sourceInside targetInside
    rw [moveWindow_bind targetInside]
    exact (Relocated.refl source length bytes).moveWindow_eq sourceInside sourceInside
  · intro source target inside
    exact moveWindow_insertGap inside

/-- Ten bytes with a stretch of three among them. -/
def tenBytes : Bytes := [0, 1, 90, 91, 92, 3, 4, 5, 6, 7]

theorem moveWindow_relocates_tenBytes :
    tenBytes.afterTrying (moveWindow tenBytes 8 0 3) = tenBytes ∧
      without [0, 1, 3, 4, 5, 6, 90, 91, 92, 7] 6 3 = without tenBytes 2 3 ∧
      (moveWindow tenBytes 2 6 3).bind (fun moved => moveWindow moved 6 1 3) =
        moveWindow tenBytes 2 1 3 ∧
      (moveWindow tenBytes 2 6 3).bind (fun moved => moveWindow moved 6 2 3) = .ok tenBytes ∧
      ((insertGap tenBytes 2 3).bind fun wider => moveWindow wider 2 9 3).toOption =
        some [0, 1, 90, 91, 92, 3, 4, 5, 6, 0, 0, 0, 7] := by
  rcases moveWindow_relocates tenBytes 3 with ⟨single, stopped, back, gap⟩
  have moved : moveWindow tenBytes 2 6 3 = .ok [0, 1, 3, 4, 5, 6, 90, 91, 92, 7] := by decide
  refine ⟨?_, ?_, ?_, ?_, ?_⟩
  · exact (single 8 0).2.1 (by decide)
  · exact ((single 2 6).2.2 _ moved).2.2
  · exact stopped 2 6 1 (by decide)
  · exact back 2 6 (by decide) (by decide)
  · exact (gap 2 9 (by decide)).trans (by decide)

end Bytes

end InbandTelemetry
