import InbandTelemetry.Proofs.PostcardStreams

namespace InbandTelemetry

/-!
# Streams that end inside a frame

A stream of postcards may break off.  Between two frames that is its end, and inside
a frame it is a fault, which the receiver has to tell by what it holds when no more
bytes come.  It has read the complete frames then and holds a part of the next one:
one byte of a length, or a length and some of the payload.  Bytes that are left over
are a fault.  The bytes of a length are not left over, because the receiver has
consumed them.  So there is one place inside each frame, right behind its length, at
which the stream seems to end as it should.
-/

namespace Postcard

namespace Receiver

variable {receiver later : Receiver}

/-- A receiver that finds nothing more refuses the end of the stream if bytes are left. -/
theorem finish_of_none (waits : receiver.next = (.ok none, later)) :
    receiver.finish.1 = if later.waiting = [] then .ok none else .error .unfinishedStream := by
  rw [finish, waits]
  cases left : later.waiting with
  | nil => simp only [left, List.isEmpty_nil, if_true]
  | cons first rest =>
      simp only [left, List.isEmpty_cons, Bool.false_eq_true, if_false, reduceCtorEq]

/-- A proper part of a frame is no postcard yet.  All of it is left over but the length, if
that is complete. -/
theorem next_of_part {size : Nat} {part raw : Bytes} (small : size ≤ maxFramed)
    (large : Header.length ≤ size) (starts : part <+: Bytes.ofWord16 (UInt16.ofNat size) ++ raw)
    (shorter : part.length < 2 + size) (nonempty : part ≠ []) :
    ∃ last, next ⟨.length, part⟩ = (.ok none, last) ∧ (last.waiting = [] ↔ part.length = 2) := by
  have word : (UInt16.ofNat size).toNat = size := by
    rw [UInt16.toNat_ofNat']
    exact Nat.mod_eq_of_lt (Nat.lt_succ_of_le small)
  match part with
  | [] => contradiction
  | [first] => exact ⟨⟨.length, [first]⟩, rfl, by simp⟩
  | high :: low :: rest =>
      rw [Bytes.ofWord16] at starts
      simp only [List.cons_append, List.nil_append, List.cons_prefix_cons] at starts
      rcases starts with ⟨rfl, rfl, -⟩
      have missing : rest.length < size := by
        simp only [List.length_cons] at shorter
        omega
      refine ⟨⟨.payload size, rest⟩, ?_, ?_⟩
      · simp only [next, Bytes.word16_ofWord16]
        rw [word, if_neg (Nat.not_lt.mpr large), takePayload_of_missing missing]
      · simp only [List.length_cons, ← List.length_eq_zero_iff]
        omega

/-- A receiver reads the complete frames of a stream that breaks off inside a frame.  Nothing
is left over just in case the stream breaks off right behind a length. -/
theorem reads_of_cut {postcards : List Postcard} {frames : List Bytes} {stream : Bytes}
    (framable : ∀ postcard ∈ postcards, postcard.Framable) (framed : Frames postcards frames)
    (starts : stream <+: frames.flatten)
    (inside : ∀ count, stream ≠ (frames.take count).flatten) :
    ∃ count last, Reads ⟨.length, stream⟩ (postcards.take count) last ∧
      (frames.take count).flatten.length < stream.length ∧
      stream.length < (frames.take (count + 1)).flatten.length ∧
      (last.waiting = [] ↔ stream.length = (frames.take count).flatten.length + 2) := by
  induction framed generalizing stream with
  | nil => exact absurd (List.prefix_nil.mp starts) (inside 0)
  | @cons postcard head rest others first framed ih =>
      have fits := framable postcard List.mem_cons_self
      have whole : head = Bytes.ofWord16 (UInt16.ofNat postcard.size) ++ postcard.encode :=
        Except.ok.inj (first.1.symm.trans (frame_encode fits.size_le))
      have size := first.2
      rw [List.flatten_cons] at starts
      by_cases complete : head.length ≤ stream.length
      -- the stream breaks off behind the first frame
      · rcases List.prefix_of_prefix_length_le (List.prefix_append _ _) starts complete with
          ⟨stream, rfl⟩
        have onward := (List.prefix_append_right_inj head).mp starts
        have within : ∀ count, stream ≠ (others.take count).flatten := by
          intro count same
          exact inside (count + 1) (by rw [List.take_succ_cons, List.flatten_cons, same])
        rcases ih (fun other member => framable other (List.mem_cons_of_mem _ member)) onward
          within with ⟨count, last, reads, behind, before, left⟩
        refine ⟨count + 1, last, ?_, ?_, ?_, ?_⟩
        · rw [whole]
          exact .cons (next_of_frame fits _) reads
        · simpa using behind
        · simpa using before
        · simpa [Nat.add_assoc] using left
      -- the stream breaks off in the first frame
      · have shorter := Nat.lt_of_not_le complete
        have part := List.prefix_of_prefix_length_le starts (List.prefix_append head _)
          (Nat.le_of_lt shorter)
        rw [whole] at part
        have nonempty : stream ≠ [] := inside 0
        rcases next_of_part fits.size_le (Nat.le_add_right _ _) part (size ▸ shorter) nonempty with
          ⟨last, waits, left⟩
        refine ⟨0, last, .nil waits, List.length_pos_iff.mpr nonempty, ?_, ?_⟩
        · simpa using shorter
        · simpa using left

end Receiver

/-- A stream of postcards that breaks off inside a frame, taken in any pieces.  The receiver
reads the postcards of the complete frames and refuses the end of the stream, unless
the stream breaks off right behind a length.  In this one case it takes the end of the
stream for the end of a frame. -/
theorem finish_of_cut {postcards : List Postcard} {frames pieces : List Bytes}
    (framable : ∀ postcard ∈ postcards, postcard.Framable) (framed : Frames postcards frames)
    (starts : pieces.flatten <+: frames.flatten)
    (inside : ∀ count, pieces.flatten ≠ (frames.take count).flatten) :
    write [] postcards = .ok frames.flatten ∧
      ∃ count last, ({} : Receiver).readPieces pieces = (.ok (postcards.take count), last) ∧
        (frames.take count).flatten.length < pieces.flatten.length ∧
        pieces.flatten.length < (frames.take (count + 1)).flatten.length ∧
        last.finish.1 =
          if pieces.flatten.length = (frames.take count).flatten.length + 2 then .ok none
          else .error .unfinishedStream := by
  refine ⟨write_frames framed [], ?_⟩
  rcases Receiver.reads_of_cut framable framed starts inside with
    ⟨count, last, reads, behind, before, left⟩
  refine ⟨count, last, (Receiver.readPieces_eq_ok_iff rfl).mpr reads, behind, before, ?_⟩
  rw [Receiver.finish_of_none reads.next_eq]
  simp only [left]

/-- A postcard with a body of two bytes. -/
def briefPostcard : Postcard := ⟨⟨0, 1, 42, 3, 9, 7, 1000000⟩, [0xca, 0xfe]⟩

theorem framable_briefPostcard : ∀ postcard ∈ [briefPostcard], postcard.Framable := by
  intro postcard member
  rw [List.mem_singleton.mp member]
  exact ⟨⟨by decide, by decide, by decide, by decide⟩, by decide⟩

theorem frames_briefPostcard :
    Frames [briefPostcard] [[0, 13, 1, 42, 57, 0, 0, 0, 7, 0, 15, 66, 64, 0xca, 0xfe]] :=
  frames_cons (by decide) .nil

/-- The only frame breaks off behind the first byte of its payload. -/
theorem finish_of_cut_briefPostcard :
    ∃ last, ({} : Receiver).readPieces [[0], [13, 1]] = (.ok [], last) ∧
      last.finish.1 = .error .unfinishedStream := by
  have inside (count : Nat) : [(0 : UInt8), 13, 1] ≠
      ([[0, 13, 1, 42, 57, 0, 0, 0, 7, 0, 15, 66, 64, 0xca, 0xfe]].take count).flatten := by
    cases count <;> simp
  have cut := @finish_of_cut _ _ [[0], [13, 1]] framable_briefPostcard frames_briefPostcard
    (by decide) inside
  rcases cut with ⟨-, count, last, read, behind, -, refused⟩
  cases count with
  | zero => exact ⟨last, read, refused⟩
  | succ count => simp at behind

/-- Not every stream that breaks off inside a frame is refused. -/
theorem exists_cut_accepted :
    ¬ ∀ (postcards : List Postcard) (frames pieces : List Bytes),
      (∀ postcard ∈ postcards, postcard.Framable) → Frames postcards frames →
      pieces.flatten <+: frames.flatten →
      (∀ count, pieces.flatten ≠ (frames.take count).flatten) →
      ∃ fault, (({} : Receiver).readPieces pieces).2.finish.1 = .error fault := by
  intro refused
  have read : ({} : Receiver).readPieces [[0], [13]] = (.ok [], ⟨.payload 13, []⟩) :=
    (Receiver.readPieces_eq_ok_iff rfl).mpr (.nil rfl)
  rcases refused _ _ [[0], [13]] framable_briefPostcard frames_briefPostcard (by decide)
    (by intro count; cases count <;> simp) with ⟨fault, answer⟩
  rw [read] at answer
  cases answer

end Postcard

end InbandTelemetry
