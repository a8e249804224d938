import InbandTelemetry.Proofs.PostcardStreams

namespace InbandTelemetry

/-!
# Streams cut anywhere, with faults in them

A stream that comes from outside need not consist of frames.  A receiver that meets a
length which is too short reports a fault and reads on behind it, so that a stream is
read as a list of postcards and faults.  As with a stream of frames, only the bytes
count and not the pieces in which they come: an answer that has been given stays the
same when more arrives, and a receiver that waits goes on as if it had not waited.
Faults are all of one kind.  A length that has been accepted is that of a postcard, so
that its payload is never refused.
-/

namespace Postcard

/-- A string that is long enough for a header is read as a postcard. -/
theorem exists_decode_eq {raw : Bytes} (long : Header.length ≤ raw.length) :
    ∃ postcard, decode raw = .ok postcard := by
  rcases Header.exists_decode long with ⟨header, read⟩
  exact ⟨⟨header, raw.drop Header.length⟩, by rw [decode, read]⟩

namespace Receiver

/-! ## Answers -/

/-- What an answer gives out: a postcard, a fault, or nothing as long as more has to arrive. -/
def item? : Except WireError (Option Postcard) → Option (Except WireError Postcard)
  | .ok none => none
  | .ok (some postcard) => some (.ok postcard)
  | .error fault => some (.error fault)

theorem item?_eq_none_iff {answer : Except WireError (Option Postcard)} :
    item? answer = none ↔ answer = .ok none := by
  match answer with
  | .ok none => simp only [item?]
  | .ok (some _) => simp only [item?, reduceCtorEq, Except.ok.injEq]
  | .error _ => simp only [item?, reduceCtorEq]

variable {receiver : Receiver}

theorem length_takePayload_le (length : Nat) (waiting : Bytes) :
    (takePayload length waiting).2.waiting.length ≤ waiting.length := by
  rw [takePayload]
  split
  · exact Nat.le_refl _
  · rw [List.length_drop]
    exact Nat.sub_le _ _

/-- Reading adds no bytes. -/
theorem length_waiting_next_le (receiver : Receiver) :
    receiver.next.2.waiting.length ≤ receiver.waiting.length := by
  rcases receiver with ⟨expectation, waiting⟩
  cases expectation with
  | payload length => exact length_takePayload_le length waiting
  | length =>
      match waiting with
      | [] => exact Nat.le_refl _
      | [_] => exact Nat.le_refl _
      | high :: low :: rest =>
          rw [next]
          dsimp only
          split
          · exact Nat.le_add_right _ 2
          · exact Nat.le_trans (length_takePayload_le _ rest) (Nat.le_add_right _ 2)

/-- The payload of a frame, if it has arrived, gives something out. -/
theorem takePayload_of_item {length : Nat} {waiting : Bytes}
    (given : item? (takePayload length waiting).1 ≠ none) :
    length ≤ waiting.length ∧ (takePayload length waiting).2 = ⟨.length, waiting.drop length⟩ := by
  by_cases arrived : length ≤ waiting.length
  · rw [takePayload_of_arrived arrived]
    exact ⟨arrived, rfl⟩
  · rw [takePayload_of_missing (Nat.lt_of_not_le arrived)] at given
    exact absurd rfl given

/-- Something that is given out has been consumed.  A receiver that expected a length has
consumed the length at least, and in any case it expects a length afterwards. -/
theorem next_of_item (given : item? receiver.next.1 ≠ none) :
    receiver.next.2.expectation = .length ∧
      (receiver.expectation = .length →
        receiver.next.2.waiting.length + 2 ≤ receiver.waiting.length) := by
  rcases receiver with ⟨expectation, waiting⟩
  cases expectation with
  | payload length =>
      rw [next] at given ⊢
      rw [(takePayload_of_item given).2]
      refine ⟨rfl, ?_⟩
      intro expects
      cases expects
  | length =>
      rcases waiting with _ | ⟨high, _ | ⟨low, rest⟩⟩
      · exact absurd rfl given
      · exact absurd rfl given
      · rw [next] at given ⊢
        dsimp only at given ⊢
        split
        · exact ⟨rfl, fun _ => Nat.le_refl _⟩
        · rename_i long
          rw [if_neg long] at given
          rw [(takePayload_of_item given).2]
          exact ⟨rfl, fun _ => Nat.add_le_add_right (List.drop_sublist _ rest).length_le 2⟩

/-! ## Reading all that has arrived -/

/-- The bytes that are left to read.  An accepted length that waits for its payload counts as
one more. -/
def rank (receiver : Receiver) : Nat :=
  receiver.waiting.length + if receiver.expectation = .length then 0 else 1

theorem rank_next_lt (given : item? receiver.next.1 ≠ none) :
    receiver.next.2.rank < receiver.rank := by
  rcases next_of_item given with ⟨expects, shorter⟩
  have fewer := receiver.length_waiting_next_le
  rw [rank, rank, if_pos expects]
  by_cases atLength : receiver.expectation = .length
  · have consumed := shorter atLength
    rw [if_pos atLength]
    omega
  · rw [if_neg atLength]
    omega

/-- Read until nothing is given out, past all faults. -/
def readThrough (receiver : Receiver) : List (Except WireError Postcard) × Receiver :=
  match given : item? receiver.next.1 with
  | none => ([], receiver.next.2)
  | some item =>
      have _ : receiver.next.2.rank < receiver.rank := rank_next_lt (by rw [given]; nofun)
      (item :: receiver.next.2.readThrough.1, receiver.next.2.readThrough.2)
termination_by receiver.rank

/-- Take a stream in pieces, and after each piece read until nothing is given out. -/
def readThroughPieces (receiver : Receiver) :
    List Bytes → List (Except WireError Postcard) × Receiver
  | [] => ([], receiver)
  | piece :: rest =>
      let early := (receiver.feed piece).readThrough
      let later := early.2.readThroughPieces rest
      (early.1 ++ later.1, later.2)

theorem readThrough_of_none (waits : item? receiver.next.1 = none) :
    receiver.readThrough = ([], receiver.next.2) := by
  rw [readThrough]
  split <;> simp_all

theorem readThrough_of_some {item : Except WireError Postcard}
    (given : item? receiver.next.1 = some item) :
    receiver.readThrough =
      (item :: receiver.next.2.readThrough.1, receiver.next.2.readThrough.2) := by
  rw [readThrough]
  split <;> simp_all

/-- What is read depends on what comes next only. -/
theorem readThrough_congr {other : Receiver} (same : other.next = receiver.next) :
    other.readThrough = receiver.readThrough := by
  cases given : item? receiver.next.1 with
  | none => rw [readThrough_of_none given, readThrough_of_none (same ▸ given), same]
  | some item => rw [readThrough_of_some given, readThrough_of_some (same ▸ given), same]

/-- A receiver that has read all it can finds nothing more. -/
theorem next_readThrough (receiver : Receiver) :
    receiver.readThrough.2.next = (.ok none, receiver.readThrough.2) := by
  induction receiver using readThrough.induct with
  | case1 receiver waits =>
      rw [readThrough_of_none waits]
      exact next_of_next_none (Prod.ext (item?_eq_none_iff.mp waits) rfl)
  | case2 receiver item given _ ih =>
      rw [readThrough_of_some given]
      exact ih

/-- Whether a receiver has read before more arrives makes no difference. -/
theorem readThrough_feed (receiver : Receiver) (more : Bytes) :
    (receiver.feed more).readThrough =
      (receiver.readThrough.1 ++ (receiver.readThrough.2.feed more).readThrough.1,
        (receiver.readThrough.2.feed more).readThrough.2) := by
  induction receiver using readThrough.induct with
  | case1 receiver waits =>
      have resumed := next_feed_of_none (Prod.ext (item?_eq_none_iff.mp waits) rfl) more
      rw [readThrough_of_none waits, readThrough_congr resumed, List.nil_append]
  | case2 receiver item given _ ih =>
      have definite : receiver.next.1 ≠ .ok none := by
        intro waits
        rw [item?_eq_none_iff.mpr waits] at given
        cases given
      have again : (receiver.feed more).next = (receiver.next.1, receiver.next.2.feed more) :=
        next_feed_of_answer rfl definite more
      have same : item? (receiver.feed more).next.1 = some item := by rw [again, given]
      rw [readThrough_of_some given, readThrough_of_some same, again, ih, List.cons_append]

/-- A receiver that waits for more reads a stream in pieces as it reads the whole stream. -/
theorem readThroughPieces_eq (waits : receiver.next = (.ok none, receiver))
    (pieces : List Bytes) :
    receiver.readThroughPieces pieces = (receiver.feed pieces.flatten).readThrough := by
  induction pieces generalizing receiver with
  | nil =>
      rw [List.flatten_nil, feed_nil, readThroughPieces, readThrough_of_none (by rw [waits]; rfl),
        waits]
  | cons piece rest ih =>
      rw [readThroughPieces, ih (next_readThrough _), List.flatten_cons, ← feed_feed,
        readThrough_feed (receiver.feed piece)]

/-! ## Receivers that read from a stream -/

/-- A receiver that has come about from a new one by taking bytes and by reading. -/
inductive Reached : Receiver → Prop where
  | new : Reached {}
  | feed {receiver : Receiver} (reached : Reached receiver) (bytes : Bytes) :
      Reached (receiver.feed bytes)
  | next {receiver : Receiver} (reached : Reached receiver) : Reached receiver.next.2

/-- A length whose payload is expected is that of a postcard, and fits in its word. -/
def Sound (receiver : Receiver) : Prop :=
  ∀ length, receiver.expectation = .payload length → Header.length ≤ length ∧ length ≤ maxFramed

theorem sound_length (waiting : Bytes) : Sound ⟨.length, waiting⟩ := by
  intro other same
  cases same

theorem sound_takePayload {length : Nat} (long : Header.length ≤ length)
    (small : length ≤ maxFramed) (waiting : Bytes) : (takePayload length waiting).2.Sound := by
  rw [takePayload]
  split
  · intro other same
    cases same
    exact ⟨long, small⟩
  · exact sound_length _

theorem Sound.next (sound : receiver.Sound) : receiver.next.2.Sound := by
  rcases receiver with ⟨expectation, waiting⟩
  cases expectation with
  | payload length =>
      rcases sound length rfl with ⟨long, small⟩
      exact sound_takePayload long small waiting
  | length =>
      rcases waiting with _ | ⟨high, _ | ⟨low, rest⟩⟩
      · exact sound_length _
      · exact sound_length _
      · rw [Receiver.next]
        dsimp only
        split
        · exact sound_length _
        · rename_i long
          have small := (Bytes.word16 high low).toNat_lt
          exact sound_takePayload (Nat.le_of_not_lt long) (Nat.le_of_lt_succ small) rest

theorem Reached.sound (reached : Reached receiver) : receiver.Sound := by
  induction reached with
  | new => exact nofun
  | feed _ bytes ih => exact ih
  | next _ ih => exact ih.next

/-- A payload that has arrived is a postcard. -/
theorem takePayload_of_whole {length : Nat} {waiting : Bytes} (long : Header.length ≤ length)
    (arrived : length ≤ waiting.length) :
    ∃ postcard, takePayload length waiting =
      (.ok (some postcard), ⟨.length, waiting.drop length⟩) := by
  have whole : Header.length ≤ (waiting.take length).length := by
    rw [List.length_take]
    omega
  rcases exists_decode_eq whole with ⟨postcard, decoded⟩
  refine ⟨postcard, ?_⟩
  rw [takePayload_of_arrived arrived, decoded]
  rfl

/-- The payload of an accepted length is waited for or is a postcard.  It is never refused. -/
theorem takePayload_ne_error {length : Nat} (long : Header.length ≤ length) (waiting : Bytes)
    (fault : WireError) : (takePayload length waiting).1 ≠ .error fault := by
  by_cases arrived : length ≤ waiting.length
  · rcases takePayload_of_whole long arrived with ⟨postcard, taken⟩
    rw [taken]
    nofun
  · rw [takePayload_of_missing (Nat.lt_of_not_le arrived)]
    nofun

/-- A receiver that expects a payload and gives something out has consumed the payload. -/
theorem length_waiting_of_payload {length : Nat} (expects : receiver.expectation = .payload length)
    (given : item? receiver.next.1 ≠ none) :
    receiver.next.2.waiting.length + length = receiver.waiting.length := by
  rcases receiver with ⟨expectation, waiting⟩
  cases expects
  rw [next] at given ⊢
  rcases takePayload_of_item given with ⟨arrived, rest⟩
  rw [rest, List.length_drop]
  exact Nat.sub_add_cancel arrived

namespace Sound

variable (sound : receiver.Sound)

include sound

/-- Whatever is given out has used up two bytes at least. -/
theorem length_waiting_add_two_le (given : item? receiver.next.1 ≠ none) :
    receiver.next.2.waiting.length + 2 ≤ receiver.waiting.length := by
  cases expects : receiver.expectation with
  | length => exact (next_of_item given).2 expects
  | payload length =>
      have consumed := length_waiting_of_payload expects given
      have long : 11 ≤ length := (sound length expects).1
      omega

/-- A fault is a length that is too short for a postcard.  It is consumed, and nothing else. -/
theorem refused {fault : WireError} (found : receiver.next.1 = .error fault) :
    ∃ high low, (Bytes.word16 high low).toNat < Header.length ∧
      fault = .truncated Header.length (Bytes.word16 high low).toNat ∧
      receiver = ⟨.length, high :: low :: receiver.next.2.waiting⟩ ∧
      receiver.next.2.expectation = .length := by
  rcases receiver with ⟨expectation, waiting⟩
  cases expectation with
  | payload length => exact absurd found (takePayload_ne_error (sound length rfl).1 waiting fault)
  | length =>
      match waiting with
      | [] => cases found
      | [_] => cases found
      | high :: low :: rest =>
          rw [Receiver.next] at found ⊢
          dsimp only at found ⊢
          by_cases short : (Bytes.word16 high low).toNat < Header.length
          · rw [if_pos short] at found ⊢
            cases found
            exact ⟨high, low, short, rfl, rfl, rfl⟩
          · rw [if_neg short] at found
            exact absurd found (takePayload_ne_error (Nat.le_of_not_lt short) rest fault)

/-- Two bytes at least are used up for each item that is read. -/
theorem length_readThrough_le :
    2 * receiver.readThrough.1.length + receiver.readThrough.2.waiting.length ≤
      receiver.waiting.length := by
  induction receiver using readThrough.induct with
  | case1 receiver waits =>
      rw [readThrough_of_none waits]
      rw [List.length_nil, Nat.mul_zero, Nat.zero_add]
      exact receiver.length_waiting_next_le
  | case2 receiver item given _ ih =>
      have consumed := sound.length_waiting_add_two_le (by rw [given]; nofun)
      have later := ih sound.next
      rw [readThrough_of_some given, List.length_cons]
      dsimp only
      omega

end Sound

end Receiver

/-- However a stream is cut, whatever its bytes: from any two lists of pieces that make up
the same bytes a new receiver reads the same postcards and faults, and it is left in the
same state with the same bytes.  At every point a length whose payload is expected lies
between that of a header and the largest word, and the payload is a postcard once it
has arrived.  Each item uses up two bytes or more, so that reading ends.  Where nothing
is given out, reading again changes nothing.  A fault is a length that is too short: its
two bytes are consumed, and a length is expected next. -/
theorem readThroughPieces_of_flatten_eq :
    (∀ pieces others : List Bytes, pieces.flatten = others.flatten →
      ({} : Receiver).readThroughPieces pieces = ({} : Receiver).readThroughPieces others) ∧
    ∀ receiver, Receiver.Reached receiver →
      (∀ length, receiver.expectation = .payload length →
        11 ≤ length ∧ length ≤ 65535 ∧ (length ≤ receiver.waiting.length →
          ∃ postcard, receiver.next =
            (.ok (some postcard), ⟨.length, receiver.waiting.drop length⟩))) ∧
      (receiver.next.1 ≠ .ok none →
        receiver.next.2.waiting.length + 2 ≤ receiver.waiting.length) ∧
      2 * receiver.readThrough.1.length + receiver.readThrough.2.waiting.length ≤
        receiver.waiting.length ∧
      (receiver.next.1 = .ok none → receiver.next.2.next = (.ok none, receiver.next.2)) ∧
      ∀ fault, receiver.next.1 = .error fault →
        ∃ high low, (Bytes.word16 high low).toNat < 11 ∧
          fault = .truncated 11 (Bytes.word16 high low).toNat ∧
          receiver = ⟨.length, high :: low :: receiver.next.2.waiting⟩ ∧
          receiver.next.2.expectation = .length := by
  constructor
  · intro pieces others same
    rw [Receiver.readThroughPieces_eq rfl, Receiver.readThroughPieces_eq rfl, same]
  · intro receiver reached
    have sound := reached.sound
    refine ⟨?_, ?_, sound.length_readThrough_le, ?_, fun fault => sound.refused⟩
    · intro length expects
      rcases sound length expects with ⟨long, small⟩
      refine ⟨long, small, ?_⟩
      intro arrived
      rcases Receiver.takePayload_of_whole long arrived with ⟨postcard, taken⟩
      refine ⟨postcard, ?_⟩
      rw [Receiver.next, expects]
      exact taken
    · intro definite
      exact sound.length_waiting_add_two_le (mt Receiver.item?_eq_none_iff.mp definite)
    · intro waits
      exact Receiver.next_of_next_none (Prod.ext waits rfl)

/-- A length of four bytes is refused, and the frame behind it may be cut anywhere. -/
theorem readThroughPieces_of_shortLength :
    ({} : Receiver).readThroughPieces [[0, 4, 0], [11, 1, 2, 3, 4, 5], [6, 7, 8, 9, 10, 11, 0]] =
        ({} : Receiver).readThroughPieces [[0], [4, 0, 11, 1, 2, 3, 4, 5, 6, 7, 8, 9, 10, 11, 0]] ∧
      (({} : Receiver).feed [0, 4, 0]).next.2 = ⟨.length, [0]⟩ := by
  refine ⟨readThroughPieces_of_flatten_eq.1 _ _ rfl, ?_⟩
  rcases (readThroughPieces_of_flatten_eq.2 _ (.feed .new [0, 4, 0])).2.2.2.2 _ rfl with
    ⟨high, low, -, -, whole, expects⟩
  have left := (List.cons.inj (List.cons.inj (Receiver.mk.inj whole).2).2).2
  generalize (({} : Receiver).feed [0, 4, 0]).next.2 = later at expects left ⊢
  rcases later with ⟨expectation, rest⟩
  cases expects
  cases left
  rfl

end Postcard

end InbandTelemetry
