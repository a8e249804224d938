import InbandTelemetry.Postcard.Framing
import InbandTelemetry.Proofs.Postcards

namespace InbandTelemetry

/-!
# Streams of postcards

A sender writes postcards one behind the other, each in a frame of its own.  A
receiver takes the stream in pieces, and after each piece it reads postcards until
no complete frame is left.  Where the stream was cut does not matter: what has
been read stays read when more arrives, and a frame of which only a part has
arrived is read as if it had come at once.  So it is enough to look at whole
streams, and there reading and writing undo each other frame by frame.
-/

namespace Postcard

/-! ## Postcards and their bytes -/

/-- A string that is long enough begins with a header. -/
theorem Header.exists_decode {raw : Bytes} (long : length ≤ raw.length) :
    ∃ header, decode raw = .ok header := by
  match raw, long with
  | _ :: _ :: _ :: _ :: _ :: _ :: _ :: _ :: _ :: _ :: _ :: _, _ => exact ⟨_, rfl⟩

/-- A header that was read has narrow fields, and its bytes are those that were read. -/
theorem Header.encode_of_decode {raw : Bytes} {header : Header}
    (decoded : Header.decode raw = .ok header) :
    header.Narrow ∧ header.encode = raw.take Header.length ∧ Header.length ≤ raw.length := by
  rw [decode.eq_def] at decoded
  split at decoded
  · cases decoded
    refine ⟨⟨?_, ?_, ?_, ?_⟩, ?_, ?_⟩
    · exact Bytes.highNibble_le _
    · exact Bytes.lowNibble_le _
    · exact Bytes.highNibble_le _
    · exact Bytes.lowNibble_le _
    · simp only [encode, Bytes.packNibbles_nibbles, Bytes.ofWord32_word32]
      rfl
    · simp only [List.length_cons, Header.length]
      omega
  · contradiction

/-- A postcard that was read has narrow fields, and its bytes are those that were read. -/
theorem encode_of_decode {raw : Bytes} {postcard : Postcard}
    (decoded : decode raw = .ok postcard) :
    postcard.header.Narrow ∧ postcard.encode = raw := by
  rw [decode] at decoded
  split at decoded
  · rename_i header read
    cases decoded
    rcases Header.encode_of_decode read with ⟨narrow, bytes, -⟩
    refine ⟨narrow, ?_⟩
    rw [encode, bytes, List.take_append_drop]
  · contradiction

theorem length_encode (postcard : Postcard) : postcard.encode.length = postcard.size := by
  rw [encode, List.length_append, Header.length_encode, size]

/-! ## Frames -/

/-- A postcard that a stream can carry: the packed fields of its header fit in four
bits, and its length fits in a word of sixteen bits. -/
structure Framable (postcard : Postcard) : Prop where
  narrow : postcard.header.Narrow
  size_le : postcard.size ≤ maxFramed

theorem frame_encode {postcard : Postcard} (fits : postcard.size ≤ maxFramed) :
    frame postcard.encode =
      .ok (Bytes.ofWord16 (UInt16.ofNat postcard.size) ++ postcard.encode) := by
  have long : ¬ postcard.size < Header.length := Nat.not_lt.mpr (Nat.le_add_right _ _)
  rw [frame, length_encode, if_neg long, if_neg (Nat.not_lt.mpr fits)]

/-- Write postcards behind a stream, one frame after the other.  The first fault ends
it. -/
def write (stream : Bytes) : List Postcard → Except WireError Bytes
  | [] => .ok stream
  | postcard :: rest =>
      match frame postcard.encode with
      | .error fault => .error fault
      | .ok framed => write (stream ++ framed) rest

/-- The frames that are written for postcards, one for each. -/
def Frames : List Postcard → List Bytes → Prop :=
  List.Forall₂ fun postcard framed =>
    frame postcard.encode = .ok framed ∧ framed.length = 2 + postcard.size

theorem frames_cons {postcard : Postcard} {postcards : List Postcard} {frames : List Bytes}
    (fits : postcard.size ≤ maxFramed) (framed : Frames postcards frames) :
    Frames (postcard :: postcards)
      ((Bytes.ofWord16 (UInt16.ofNat postcard.size) ++ postcard.encode) :: frames) := by
  refine .cons ⟨frame_encode fits, ?_⟩ framed
  rw [List.length_append, Bytes.length_ofWord16, length_encode]

theorem exists_frames {postcards : List Postcard}
    (framable : ∀ postcard ∈ postcards, postcard.Framable) :
    ∃ frames, Frames postcards frames := by
  induction postcards with
  | nil => exact ⟨[], .nil⟩
  | cons postcard rest ih =>
      rcases List.forall_mem_cons.mp framable with ⟨first, others⟩
      rcases ih others with ⟨frames, framed⟩
      exact ⟨_, frames_cons first.size_le framed⟩

theorem write_frames {postcards : List Postcard} {frames : List Bytes}
    (framed : Frames postcards frames) (stream : Bytes) :
    write stream postcards = .ok (stream ++ frames.flatten) := by
  induction framed generalizing stream with
  | nil => rw [write, List.flatten_nil, List.append_nil]
  | cons first _ ih =>
      rw [write, first.1]
      dsimp only
      rw [ih, List.flatten_cons, List.append_assoc]

namespace Receiver

/-! ## Reading one postcard -/

theorem takePayload_of_arrived {length : Nat} {waiting : Bytes}
    (arrived : length ≤ waiting.length) :
    takePayload length waiting =
      ((decode (waiting.take length)).map some, ⟨.length, waiting.drop length⟩) := by
  rw [takePayload, if_neg (Nat.not_lt.mpr arrived)]

theorem takePayload_of_missing {length : Nat} {waiting : Bytes}
    (missing : waiting.length < length) :
    takePayload length waiting = (.ok none, ⟨.payload length, waiting⟩) := by
  rw [takePayload, if_pos missing]

/-- The frame of a postcard is read, whatever lies behind it. -/
theorem next_of_frame {postcard : Postcard} (framable : postcard.Framable) (rest : Bytes) :
    next ⟨.length, Bytes.ofWord16 (UInt16.ofNat postcard.size) ++ postcard.encode ++ rest⟩ =
      (.ok (some postcard), ⟨.length, rest⟩) := by
  have small : postcard.size < 65536 := Nat.lt_succ_of_le framable.size_le
  have long : ¬ postcard.size < Header.length := Nat.not_lt.mpr (Nat.le_add_right _ _)
  have word : (UInt16.ofNat postcard.size).toNat = postcard.size := by
    rw [UInt16.toNat_ofNat']
    exact Nat.mod_eq_of_lt small
  have arrived : postcard.size ≤ (postcard.encode ++ rest).length := by
    rw [List.length_append, length_encode]
    exact Nat.le_add_right _ _
  rw [Bytes.ofWord16]
  simp only [List.cons_append, List.nil_append, next, Bytes.word16_ofWord16]
  rw [word, if_neg long, takePayload_of_arrived arrived, ← length_encode, List.take_left,
    List.drop_left, decode_encode framable.narrow]
  rfl

/-- What is read as a postcard is the frame of that postcard. -/
theorem frame_of_next {stream : Bytes} {postcard : Postcard} {later : Receiver}
    (read : next ⟨.length, stream⟩ = (.ok (some postcard), later)) :
    postcard.Framable ∧ ∃ rest, later = ⟨.length, rest⟩ ∧
      stream = Bytes.ofWord16 (UInt16.ofNat postcard.size) ++ postcard.encode ++ rest := by
  rw [next] at read
  dsimp only at read
  split at read
  · rename_i high low rest
    split at read
    · simp only [Prod.mk.injEq, reduceCtorEq, false_and] at read
    · by_cases arrived : (Bytes.word16 high low).toNat ≤ rest.length
      · rw [takePayload_of_arrived arrived] at read
        rcases Prod.mk.inj read with ⟨answer, rfl⟩
        cases decoded : decode (rest.take (Bytes.word16 high low).toNat) with
        | error fault =>
            rw [decoded] at answer
            cases answer
        | ok found =>
            rw [decoded] at answer
            cases answer
            rcases encode_of_decode decoded with ⟨narrow, bytes⟩
            have size : postcard.size = (Bytes.word16 high low).toNat := by
              rw [← length_encode, bytes, List.length_take, Nat.min_eq_left arrived]
            have bound := (Bytes.word16 high low).toNat_lt
            refine ⟨⟨narrow, ?_⟩, _, rfl, ?_⟩
            · rw [size]
              exact Nat.le_of_lt_succ bound
            · rw [size, UInt16.ofNat_toNat, Bytes.ofWord16_word16, bytes, List.append_assoc,
                List.take_append_drop]
              rfl
      · rw [takePayload_of_missing (Nat.lt_of_not_le arrived)] at read
        cases read
  · cases read

/-! ## More arrives -/

variable {receiver later last : Receiver}

@[simp] theorem feed_nil (receiver : Receiver) : receiver.feed [] = receiver := by
  rw [feed, List.append_nil]

theorem feed_feed (receiver : Receiver) (first second : Bytes) :
    (receiver.feed first).feed second = receiver.feed (first ++ second) := by
  simp only [feed, List.append_assoc]

/-- All that a receiver can do next, whatever arrives meanwhile.  It waits for both bytes
of a length, it refuses a length, or it goes on to the payload of a frame. -/
theorem next_cases (receiver : Receiver) :
    receiver.next = (.ok none, receiver) ∨
    (∃ fault rest, ∀ more, (receiver.feed more).next = (.error fault, ⟨.length, rest ++ more⟩)) ∨
    ∃ length rest, rest.length ≤ receiver.waiting.length ∧
      ∀ more, (receiver.feed more).next = takePayload length (rest ++ more) := by
  rcases receiver with ⟨expectation, waiting⟩
  cases expectation with
  | payload length => exact Or.inr (Or.inr ⟨length, waiting, Nat.le_refl _, fun more => rfl⟩)
  | length =>
      match waiting with
      | [] => exact Or.inl rfl
      | [_] => exact Or.inl rfl
      | high :: low :: rest =>
          right
          by_cases short : (Bytes.word16 high low).toNat < Header.length
          · exact Or.inl ⟨_, rest, fun more => if_pos short⟩
          · refine Or.inr ⟨_, rest, ?_, fun more => if_neg short⟩
            simp only [List.length_cons]
            omega

theorem takePayload_append {length : Nat} {waiting : Bytes} (arrived : length ≤ waiting.length)
    (more : Bytes) :
    takePayload length (waiting ++ more) =
      ((takePayload length waiting).1, (takePayload length waiting).2.feed more) := by
  have enough : length ≤ (waiting ++ more).length := by
    rw [List.length_append]
    exact Nat.le_add_right_of_le arrived
  rw [takePayload_of_arrived arrived, takePayload_of_arrived enough,
    List.take_append_of_le_length arrived, List.drop_append_of_le_length arrived]
  rfl

/-- An answer that is found before more arrives is found all the same afterwards. -/
theorem next_feed_of_answer {answer : Except WireError (Option Postcard)}
    (found : receiver.next = (answer, later)) (definite : answer ≠ .ok none) (more : Bytes) :
    (receiver.feed more).next = (answer, later.feed more) := by
  rcases receiver.next_cases with waits | ⟨fault, rest, refused⟩ | ⟨length, rest, -, taken⟩
  · rw [waits] at found
    exact absurd (Prod.mk.inj found).1.symm definite
  · have before := refused []
    rw [feed_nil, found, List.append_nil] at before
    rcases Prod.mk.inj before with ⟨rfl, rfl⟩
    exact refused more
  · have before := taken []
    rw [feed_nil, found, List.append_nil] at before
    by_cases arrived : length ≤ rest.length
    · rw [taken, takePayload_append arrived, ← before]
    · rw [takePayload_of_missing (Nat.lt_of_not_le arrived)] at before
      exact absurd (Prod.mk.inj before).1 definite

/-- A receiver that has found no postcard goes on where it stopped. -/
theorem next_feed_of_none (waits : receiver.next = (.ok none, later)) (more : Bytes) :
    (receiver.feed more).next = (later.feed more).next := by
  rcases receiver.next_cases with still | ⟨fault, rest, refused⟩ | ⟨length, rest, -, taken⟩
  · rw [still] at waits
    rw [(Prod.mk.inj waits).2]
  · have before := refused []
    rw [feed_nil, waits] at before
    cases before
  · have before := taken []
    rw [feed_nil, waits, List.append_nil] at before
    by_cases arrived : length ≤ rest.length
    · rw [takePayload_of_arrived arrived] at before
      cases decoded : decode (rest.take length) <;> rw [decoded] at before <;> cases before
    · rw [takePayload_of_missing (Nat.lt_of_not_le arrived)] at before
      cases before
      rw [taken]
      rfl

theorem next_of_next_none (waits : receiver.next = (.ok none, later)) :
    later.next = (.ok none, later) := by
  have again := next_feed_of_none waits []
  rw [feed_nil, feed_nil, waits] at again
  exact again.symm

/-- Every postcard uses up bytes. -/
theorem length_waiting_of_next {postcard : Postcard}
    (found : receiver.next = (.ok (some postcard), later)) :
    later.waiting.length < receiver.waiting.length := by
  rcases receiver.next_cases with waits | ⟨fault, rest, refused⟩ | ⟨length, rest, shorter, taken⟩
  · rw [waits] at found
    cases found
  · have before := refused []
    rw [feed_nil, found] at before
    cases before
  · have before := taken []
    rw [feed_nil, found, List.append_nil] at before
    by_cases arrived : length ≤ rest.length
    · rw [takePayload_of_arrived arrived] at before
      cases decoded : decode (rest.take length) with
      | error fault =>
          rw [decoded] at before
          cases before
      | ok postcard =>
          rw [decoded] at before
          cases before
          have size : postcard.size = length := by
            rw [← length_encode, (encode_of_decode decoded).2, List.length_take,
              Nat.min_eq_left arrived]
          have positive : 0 < postcard.size := Nat.lt_add_right _ (by decide)
          simp only [List.length_drop]
          omega
    · rw [takePayload_of_missing (Nat.lt_of_not_le arrived)] at before
      cases before

/-! ## Reading all that has arrived -/

/-- Read postcards until there is none. -/
def readWaiting (receiver : Receiver) : Except WireError (List Postcard) × Receiver :=
  match found : receiver.next with
  | (.error fault, later) => (.error fault, later)
  | (.ok none, later) => (.ok [], later)
  | (.ok (some postcard), later) =>
      have _ := length_waiting_of_next found
      (later.readWaiting.1.map (postcard :: ·), later.readWaiting.2)
termination_by receiver.waiting.length

/-- Take a stream in pieces, and after each piece read until there is no postcard. -/
def readPieces (receiver : Receiver) : List Bytes → Except WireError (List Postcard) × Receiver
  | [] => (.ok [], receiver)
  | piece :: rest =>
      match (receiver.feed piece).readWaiting with
      | (.error fault, later) => (.error fault, later)
      | (.ok postcards, later) =>
          ((later.readPieces rest).1.map (postcards ++ ·), (later.readPieces rest).2)

theorem readWaiting_of_none (waits : receiver.next = (.ok none, later)) :
    receiver.readWaiting = (.ok [], later) := by
  rw [readWaiting]
  split <;> simp_all

theorem readWaiting_of_error {fault : WireError}
    (refused : receiver.next = (.error fault, later)) :
    receiver.readWaiting = (.error fault, later) := by
  rw [readWaiting]
  split <;> simp_all

theorem readWaiting_of_some {postcard : Postcard}
    (found : receiver.next = (.ok (some postcard), later)) :
    receiver.readWaiting =
      (later.readWaiting.1.map (postcard :: ·), later.readWaiting.2) := by
  rw [readWaiting]
  split <;> simp_all

/-- A receiver reads postcards one after the other, and then there is none. -/
inductive Reads : Receiver → List Postcard → Receiver → Prop where
  | nil {receiver later : Receiver} (waits : receiver.next = (.ok none, later)) :
      Reads receiver [] later
  | cons {receiver next later : Receiver} {postcard : Postcard} {rest : List Postcard}
      (found : receiver.next = (.ok (some postcard), next)) (further : Reads next rest later) :
      Reads receiver (postcard :: rest) later

variable {postcards : List Postcard}

theorem readWaiting_eq_ok_iff :
    receiver.readWaiting = (.ok postcards, later) ↔ Reads receiver postcards later := by
  constructor
  · intro read
    induction receiver using readWaiting.induct generalizing postcards with
    | case1 receiver fault next refused =>
        rw [readWaiting_of_error refused] at read
        cases read
    | case2 receiver next waits =>
        rw [readWaiting_of_none waits] at read
        cases read
        exact .nil waits
    | case3 receiver postcard next found _ ih =>
        rw [readWaiting_of_some found] at read
        rcases Prod.mk.inj read with ⟨answer, rfl⟩
        cases remaining : next.readWaiting.1 <;> rw [remaining] at answer <;> cases answer
        exact .cons found (ih (Prod.ext remaining rfl))
  · intro reads
    induction reads with
    | nil waits => exact readWaiting_of_none waits
    | cons found _ ih =>
        rw [readWaiting_of_some found, ih]
        rfl

namespace Reads

/-- What is read depends on what comes next only. -/
theorem congr {other : Receiver} (reads : Reads receiver postcards later)
    (same : other.next = receiver.next) : Reads other postcards later := by
  cases reads with
  | nil waits => exact .nil (same.trans waits)
  | cons found further => exact .cons (same.trans found) further

/-- A receiver that has read all it can finds nothing more. -/
theorem next_eq (reads : Reads receiver postcards later) : later.next = (.ok none, later) := by
  induction reads with
  | nil waits => exact next_of_next_none waits
  | cons _ _ ih => exact ih

/-- A receiver that goes on after a break has read what it would have read at once. -/
theorem append {more : Bytes} {others : List Postcard} (reads : Reads receiver postcards later)
    (further : Reads (later.feed more) others last) :
    Reads (receiver.feed more) (postcards ++ others) last := by
  induction reads with
  | nil waits => exact further.congr (next_feed_of_none waits more)
  | cons found _ ih => exact .cons (next_feed_of_answer found (by nofun) more) (ih further)

/-- What is read at once can be read with a break. -/
theorem exists_of_feed {more : Bytes} {whole : List Postcard}
    (reads : Reads (receiver.feed more) whole last) :
    ∃ postcards later others, Reads receiver postcards later ∧
      Reads (later.feed more) others last ∧ whole = postcards ++ others := by
  induction receiver using readWaiting.induct generalizing whole with
  | case1 receiver fault next refused =>
      have again := next_feed_of_answer refused (by nofun) more
      cases reads with
      | nil waits => cases again.symm.trans waits
      | cons found further => cases again.symm.trans found
  | case2 receiver next waits =>
      have resumed := next_feed_of_none waits more
      exact ⟨[], next, whole, .nil waits, reads.congr resumed.symm, rfl⟩
  | case3 receiver postcard next found _ ih =>
      have again := next_feed_of_answer found (by nofun) more
      cases reads with
      | nil waits => cases again.symm.trans waits
      | cons other further =>
          cases again.symm.trans other
          rcases ih further with ⟨early, later, others, before, behind, rfl⟩
          exact ⟨postcard :: early, later, others, .cons found before, behind, rfl⟩

end Reads

/-! ## Reading in pieces -/

theorem readPieces_cons_eq_ok_iff {piece : Bytes} {rest : List Bytes} :
    receiver.readPieces (piece :: rest) = (.ok postcards, last) ↔
      ∃ early later others, Reads (receiver.feed piece) early later ∧
        later.readPieces rest = (.ok others, last) ∧ postcards = early ++ others := by
  rw [readPieces]
  constructor
  · intro read
    split at read
    · cases read
    · rename_i early later first
      rcases Prod.mk.inj read with ⟨answer, rfl⟩
      cases remaining : (later.readPieces rest).1 <;> rw [remaining] at answer <;> cases answer
      exact ⟨early, later, _, readWaiting_eq_ok_iff.mp first, Prod.ext remaining rfl, rfl⟩
  · rintro ⟨early, later, others, first, remaining, rfl⟩
    rw [readWaiting_eq_ok_iff.mpr first]
    dsimp only
    rw [remaining]
    rfl

/-- A receiver that waits for more reads the same postcards from a stream, and is in the
same state afterwards, however the stream is cut. -/
theorem readPieces_eq_ok_iff {pieces : List Bytes}
    (waits : receiver.next = (.ok none, receiver)) :
    receiver.readPieces pieces = (.ok postcards, last) ↔
      Reads (receiver.feed pieces.flatten) postcards last := by
  induction pieces generalizing receiver postcards with
  | nil =>
      rw [List.flatten_nil, feed_nil, ← readWaiting_eq_ok_iff, readWaiting_of_none waits,
        readPieces]
  | cons piece rest ih =>
      rw [List.flatten_cons, ← feed_feed, readPieces_cons_eq_ok_iff]
      constructor
      · rintro ⟨early, later, others, first, remaining, rfl⟩
        exact first.append ((ih first.next_eq).mp remaining)
      · intro reads
        rcases reads.exists_of_feed with ⟨early, later, others, first, remaining, rfl⟩
        exact ⟨early, later, others, first, (ih first.next_eq).mpr remaining, rfl⟩

/-! ## Whole streams -/

/-- Frames one behind the other are read as the postcards that they were written for. -/
theorem reads_frames {frames : List Bytes} (framable : ∀ postcard ∈ postcards, postcard.Framable)
    (framed : Frames postcards frames) : Reads ⟨.length, frames.flatten⟩ postcards {} := by
  induction framed with
  | nil => exact .nil rfl
  | @cons postcard bytes rest others first _ ih =>
      have fits := framable postcard List.mem_cons_self
      have later := ih fun other member => framable other (List.mem_cons_of_mem _ member)
      have whole := first.1.symm.trans (frame_encode fits.size_le)
      cases whole
      rw [List.flatten_cons]
      exact .cons (next_of_frame fits _) later

/-- A receiver that finds nothing and is left as new has got no bytes. -/
theorem nil_of_next_none {stream : Bytes} (waits : next ⟨.length, stream⟩ = (.ok none, {})) :
    stream = [] := by
  match stream with
  | [] => rfl
  | [_] => cases waits
  | high :: low :: rest =>
      rw [next] at waits
      dsimp only at waits
      split at waits
      · cases waits
      · rw [takePayload] at waits
        split at waits
        · cases waits
        · cases decoded : decode (rest.take (Bytes.word16 high low).toNat) <;>
            rw [decoded] at waits <;> cases waits

/-- A stream that is read to its end consists of the frames of what was read. -/
theorem frames_of_reads {stream : Bytes} (reads : Reads ⟨.length, stream⟩ postcards {}) :
    (∀ postcard ∈ postcards, postcard.Framable) ∧
      ∃ frames, Frames postcards frames ∧ frames.flatten = stream := by
  induction postcards generalizing stream with
  | nil =>
      cases reads with
      | nil waits => exact ⟨nofun, [], .nil, (nil_of_next_none waits).symm⟩
  | cons postcard others ih =>
      cases reads with
      | cons found further =>
          rcases frame_of_next found with ⟨framable, rest, rfl, whole⟩
          rcases ih further with ⟨othersFramable, frames, framed, flat⟩
          refine ⟨List.forall_mem_cons.mpr ⟨framable, othersFramable⟩, _,
            frames_cons framable.size_le framed, ?_⟩
          rw [List.flatten_cons, flat, whole]

end Receiver

/-! ## Writing and reading undo each other -/

/-- Postcards whose fields fit can be written to a stream, each in a frame of two bytes
and its own.  However this stream is cut, a new receiver reads just these postcards
from it and is left as new.  Conversely, if a new receiver reads postcards from the
pieces of a stream, without a fault, and is left as new, then writing these
postcards gives the stream back. -/
theorem write_readPieces :
    (∀ postcards : List Postcard, (∀ postcard ∈ postcards, postcard.Framable) →
      ∃ frames, Frames postcards frames ∧
        (∀ stream, write stream postcards = .ok (stream ++ frames.flatten)) ∧
        ∀ pieces : List Bytes, pieces.flatten = frames.flatten →
          ({} : Receiver).readPieces pieces = (.ok postcards, {})) ∧
    ∀ (pieces : List Bytes) (postcards : List Postcard),
      ({} : Receiver).readPieces pieces = (.ok postcards, {}) →
        (∀ postcard ∈ postcards, postcard.Framable) ∧
          write [] postcards = .ok pieces.flatten := by
  constructor
  · intro postcards framable
    rcases exists_frames framable with ⟨frames, framed⟩
    refine ⟨frames, framed, write_frames framed, ?_⟩
    intro pieces cut
    apply (Receiver.readPieces_eq_ok_iff rfl).mpr
    change Receiver.Reads ⟨.length, pieces.flatten⟩ postcards {}
    rw [cut]
    exact Receiver.reads_frames framable framed
  · intro pieces postcards read
    have reads : Receiver.Reads ⟨.length, pieces.flatten⟩ postcards {} :=
      (Receiver.readPieces_eq_ok_iff rfl).mp read
    rcases Receiver.frames_of_reads reads with ⟨framable, frames, framed, flat⟩
    refine ⟨framable, ?_⟩
    rw [write_frames framed, List.nil_append, flat]

/-- Two postcards, the second without a body. -/
def twoPostcards : List Postcard :=
  [⟨⟨0, 1, 42, 3, 9, 0xdeadbeef, 1000000⟩, [1, 2, 3]⟩, ⟨⟨0, 1, 42, 3, 9, 1, 1000000⟩, []⟩]

theorem write_readPieces_twoPostcards :
    ∃ stream, write [] twoPostcards = .ok stream ∧ stream.length = 29 ∧
      ({} : Receiver).readPieces [stream.take 1, stream.drop 1] = (.ok twoPostcards, {}) ∧
      write [] twoPostcards = .ok [stream.take 1, stream.drop 1].flatten := by
  have framable : ∀ postcard ∈ twoPostcards, postcard.Framable := by
    intro postcard member
    rcases List.mem_cons.mp member with rfl | member
    · exact ⟨⟨by decide, by decide, by decide, by decide⟩, by decide⟩
    · rcases List.mem_singleton.mp member with rfl
      exact ⟨⟨by decide, by decide, by decide, by decide⟩, by decide⟩
  rcases write_readPieces.1 twoPostcards framable with ⟨frames, framed, written, read⟩
  have length : frames.flatten.length = 29 := by
    cases framed with
    | cons first others =>
        cases others with
        | cons second none =>
            cases none
            simp only [List.flatten_cons, List.flatten_nil, List.length_append, first.2, second.2]
            decide
  have pieces := read [frames.flatten.take 1, frames.flatten.drop 1]
    (by simp only [List.flatten_cons, List.flatten_nil, List.append_nil, List.take_append_drop])
  exact ⟨frames.flatten, written [], length, pieces,
    (write_readPieces.2 _ _ pieces).2⟩

end Postcard

end InbandTelemetry
