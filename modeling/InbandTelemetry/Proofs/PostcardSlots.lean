import InbandTelemetry.Proofs.GateTables
import InbandTelemetry.Proofs.Postcards

namespace InbandTelemetry

/-!
# Writing a postcard into its slot

A postcard comes into the ring in place.  A slot is reserved that is as long as its three
parts together, the slot is cut behind the header and behind the first captured stretch, and
each part is copied into its own piece.  A cut behind the end is refused, and so is a copy
between strings of different lengths, and a stretch that is inverted or leaves the packet.
None of this ever happens, also where the end of the second stretch is a sum that wraps round:
the stretches that a gate captures lie in order, on the two sides of the block.
-/

open Telemetry

/-! ## Operations that are refused out of bounds -/

/-- Whether an offset lies in a stretch. -/
def Span.Covers (span : Span) (offset : Nat) : Prop := span.start ≤ offset ∧ offset < span.stop

namespace Bytes

/-- The stretch of a string, which has to be in order and inside. -/
def slice? (bytes : Bytes) (span : Span) : Option Bytes :=
  if span.start ≤ span.stop ∧ span.stop ≤ bytes.length then some (slice bytes span) else none

/-- Cut a string in two at an offset, which has to be inside. -/
def cut? (bytes : Bytes) (offset : Nat) : Option (Bytes × Bytes) :=
  if offset ≤ bytes.length then some (bytes.take offset, bytes.drop offset) else none

/-- What is in a piece when a content has been copied over it, which has to have its length. -/
def copy? (piece content : Bytes) : Option Bytes :=
  if piece.length = content.length then some content else none

theorem length_slice {bytes : Bytes} {span : Span} (inside : span.stop ≤ bytes.length) :
    (slice bytes span).length = span.length := by
  rw [slice, window, List.length_take, List.length_drop, Span.length]
  omega

theorem cut?_eq_some_iff {bytes front back : Bytes} {offset : Nat} :
    cut? bytes offset = some (front, back) ↔ bytes = front ++ back ∧ front.length = offset := by
  rw [cut?]
  constructor
  · intro parts
    split at parts
    · rename_i inside
      cases parts
      exact ⟨(List.take_append_drop offset bytes).symm, List.length_take_of_le inside⟩
    · contradiction
  · rintro ⟨rfl, rfl⟩
    rw [if_pos (List.length_append ▸ Nat.le_add_right _ _), List.take_left, List.drop_left]

theorem copy?_eq_some_iff {piece content result : Bytes} :
    copy? piece content = some result ↔ piece.length = content.length ∧ content = result := by
  rw [copy?, Option.ite_none_right_eq_some, Option.some.injEq]

end Bytes

/-- Write a postcard into its slot, part by part: the header into the first eleven bytes, and
the two stretches of a packet into what is left. -/
def Postcard.fillSlot? (header data : Bytes) (head tail : Span) (slot : Bytes) : Option Bytes := do
  let (front, body) ← Bytes.cut? slot Header.length
  let front ← Bytes.copy? front header
  let (before, behind) ← Bytes.cut? body head.length
  let before ← Bytes.copy? before (← Bytes.slice? data head)
  let behind ← Bytes.copy? behind (← Bytes.slice? data tail)
  return front ++ (before ++ behind)

/-- A postcard of two stretches that are in order and inside their packet can be written into
the slots of one length, which is the length of its three parts together. -/
theorem Postcard.fillSlot?_eq_some_iff {header data slot content : Bytes} {head tail : Span}
    (complete : header.length = 11) (headOrdered : head.start ≤ head.stop)
    (headInside : head.stop ≤ data.length) (tailOrdered : tail.start ≤ tail.stop)
    (tailInside : tail.stop ≤ data.length) :
    fillSlot? header data head tail slot = some content ↔
      slot.length = 11 + head.length + tail.length ∧
        content = header ++ (Bytes.slice data head ++ Bytes.slice data tail) := by
  have first : Bytes.slice? data head = some (Bytes.slice data head) :=
    if_pos ⟨headOrdered, headInside⟩
  have second : Bytes.slice? data tail = some (Bytes.slice data tail) :=
    if_pos ⟨tailOrdered, tailInside⟩
  have firstLength := Bytes.length_slice headInside
  have secondLength := Bytes.length_slice tailInside
  -- with both stretches there, only the cuts and the copies can be refused
  simp only [fillSlot?, first, second, Option.pure_def, Option.bind_eq_bind, Option.bind_some,
    Option.bind_eq_some_iff, Prod.exists, Bytes.cut?_eq_some_iff, Bytes.copy?_eq_some_iff]
  constructor
  · rintro ⟨front, body, ⟨slotCut, frontLength⟩, _, ⟨-, rfl⟩, filled⟩
    rcases filled with ⟨before, behind, ⟨bodyCut, beforeLength⟩, _, ⟨-, rfl⟩, filled⟩
    rcases filled with ⟨_, ⟨behindLength, rfl⟩, built⟩
    rw [slotCut, bodyCut, List.length_append, List.length_append, frontLength, beforeLength,
      behindLength, secondLength, ← Nat.add_assoc]
    exact ⟨rfl, (Option.some.inj built).symm⟩
  · rintro ⟨reserved, rfl⟩
    have frontLength : (slot.take 11).length = 11 := List.length_take_of_le (by omega)
    have bodyLength : (slot.drop 11).length = head.length + tail.length := by
      rw [List.length_drop, reserved]
      omega
    have beforeLength : ((slot.drop 11).take head.length).length = head.length :=
      List.length_take_of_le (bodyLength ▸ Nat.le_add_right _ _)
    have behindLength : ((slot.drop 11).drop head.length).length = tail.length := by
      rw [List.length_drop, bodyLength, Nat.add_sub_cancel_left]
    refine ⟨slot.take 11, slot.drop 11, ⟨(List.take_append_drop 11 slot).symm, frontLength⟩, header,
      ⟨frontLength.trans complete.symm, rfl⟩, ?_⟩
    refine ⟨_, _, ⟨(List.take_append_drop head.length _).symm, beforeLength⟩, _,
      ⟨beforeLength.trans firstLength.symm, rfl⟩, ?_⟩
    exact ⟨_, ⟨behindLength.trans secondLength.symm, rfl⟩, rfl⟩

/-! ## The stretches that a gate captures -/

namespace Gate

/-- Two stretches of a packet of `length` bytes, the first one in front of the block that a
gate reads and the second one, unless it is empty, behind this block. -/
structure Flanks (gate : Gate) (length : Nat) (head tail : Span) : Prop where
  head_start : head.start = 0
  head_stop : head.stop ≤ gate.readAt
  ordered : tail.start ≤ tail.stop
  inside : tail.stop ≤ length
  behind : gate.readAt + 36 ≤ tail.start ∨ tail.start = tail.stop

variable {gate : Gate} {length : Nat}

/-- Whatever the truncation position is, the two stretches lie on the two sides of the block.
The end of the second one is clamped to the packet first and to its own start afterwards, so
that a sum which wraps round leaves it empty and not inverted. -/
theorem flanks_captureSpans (inside : gate.readAt + 36 ≤ length) (short : length < wordBound) :
    gate.Flanks length (gate.captureSpans length).1 (gate.captureSpans length).2 := by
  have start : wrapAdd gate.readAt Block.length = gate.readAt + 36 :=
    wrapAdd_of_lt (Nat.lt_of_le_of_lt inside short)
  rw [captureSpans]
  split
  · rw [start]
    dsimp only
    rw [Nat.min_eq_left inside]
    exact
      { head_start := rfl
        head_stop := Nat.min_le_left _ _
        ordered := Nat.le_max_right _ _
        inside := Nat.max_le.mpr ⟨Nat.min_le_right _ _, inside⟩
        behind := Or.inl (Nat.le_refl _) }
  · rename_i late
    exact
      { head_start := rfl
        head_stop := Nat.le_trans (Nat.min_le_left _ _) (Nat.le_of_not_lt late)
        ordered := Nat.le_refl _
        inside := Nat.zero_le _
        behind := Or.inr rfl }

namespace Flanks

variable {head tail : Span} (flanks : gate.Flanks length head tail)

include flanks

theorem apart {offset : Nat} (covered : head.Covers offset ∨ tail.Covers offset) :
    offset < gate.readAt ∨ gate.readAt + 36 ≤ offset := by
  rcases covered with ⟨-, before⟩ | ⟨reached, before⟩
  · exact Or.inl (Nat.lt_of_lt_of_le before flanks.head_stop)
  · rcases flanks.behind with behind | empty
    · exact Or.inr (Nat.le_trans behind reached)
    · omega

theorem head_inside (inside : gate.readAt + 36 ≤ length) : head.stop ≤ length :=
  Nat.le_trans flanks.head_stop (Nat.le_of_add_right_le inside)

theorem total_le (inside : gate.readAt + 36 ≤ length) :
    head.length + tail.length ≤ length - 36 := by
  have head_stop := flanks.head_stop
  have tail_stop := flanks.inside
  rw [Span.length, Span.length]
  rcases flanks.behind with behind | empty <;> omega

end Flanks

end Gate

/-! ## Queueing in place -/

namespace Forwarder

/-- Queue a postcard of `size` bytes that `fill` writes in place. -/
def offerInPlace (forwarder : Forwarder) (size : Nat)
    (fill : Vector UInt8 size → Vector UInt8 size) : Offer × Forwarder :=
  if forwarder.maxPostcardSize < size then
    (.dropped 0, forwarder)
  else
    match forwarder.ring.offerWith size fill with
    | (.accepted evicted, ring) =>
        (.accepted evicted,
          { forwarder with ring, nextSequence := forwarder.nextSequence + 1 })
    | (.dropped evicted, ring) => (.dropped evicted, { forwarder with ring })

/-- A postcard that is written in place is queued as if it had been written before. -/
theorem offerInPlace_eq_offerPostcard (forwarder : Forwarder) (gate : Gate) (record : HopRecord)
    (data : Bytes) (now : Nat) {size : Nat}
    (length_eq : (forwarder.entry gate record data now).length = size) :
    forwarder.offerInPlace size
        (fun _ => ⟨(forwarder.entry gate record data now).toArray, length_eq⟩) =
      forwarder.offerPostcard gate record data now := by
  subst length_eq
  rfl

/-- The slots that a postcard can be written into part by part, and what they hold then. -/
theorem fillSlot?_eq_entry_iff {gate : Gate} {data : Bytes} {head tail : Span}
    (inside : gate.readAt + 36 ≤ data.length)
    (captured : gate.captureSpans data.length = (head, tail))
    (flanks : gate.Flanks data.length head tail) (forwarder : Forwarder) (record : HopRecord)
    (now : Nat) {slot content : Bytes} :
    Postcard.fillSlot? (forwarder.postcardHeader gate record now).encode data head tail slot =
        some content ↔
      slot.length = 11 + head.length + tail.length ∧
        content = forwarder.entry gate record data now := by
  have headOrdered : head.start ≤ head.stop := flanks.head_start ▸ Nat.zero_le _
  rw [Postcard.fillSlot?_eq_some_iff (Postcard.Header.length_encode _) headOrdered
    (flanks.head_inside inside) flanks.ordered flanks.inside, entry, Gate.capture, captured]

/-- The stretches that a gate captures of a packet lie in order, inside the packet and on the
two sides of its block, for every truncation position; they leave at least the block out, and
the size of the postcard does not wrap round.  Just the slots of this size can be filled part
by part, and then they hold the postcard.  So what is queued in place is what is queued. -/
theorem captured_in_bounds (gate : Gate) {length : Nat} (inside : gate.readAt + 36 ≤ length)
    (short : length < wordBound) :
    ∃ head tail, gate.captureSpans length = (head, tail) ∧ gate.Flanks length head tail ∧
      (∀ offset, head.Covers offset ∨ tail.Covers offset →
        offset < gate.readAt ∨ gate.readAt + 36 ≤ offset) ∧
      head.length + tail.length ≤ length - 36 ∧
      wrapAdd (wrapAdd 11 head.length) tail.length = 11 + head.length + tail.length ∧
      ∀ (forwarder : Forwarder) (record : HopRecord) (data : Bytes) (now : Nat),
        data.length = length →
        (∀ slot content, Postcard.fillSlot? (forwarder.postcardHeader gate record now).encode data
            head tail slot = some content ↔
          slot.length = 11 + head.length + tail.length ∧
            content = forwarder.entry gate record data now) ∧
        ∃ fill : Vector UInt8 (11 + head.length + tail.length) →
            Vector UInt8 (11 + head.length + tail.length),
          (∀ slot, Postcard.fillSlot? (forwarder.postcardHeader gate record now).encode data
            head tail slot.toList = some (fill slot).toList) ∧
          forwarder.offerInPlace _ fill = forwarder.offerPostcard gate record data now := by
  have flanks := Gate.flanks_captureSpans inside short
  generalize captured : gate.captureSpans length = spans at flanks
  rcases spans with ⟨head, tail⟩
  have total := flanks.total_le inside
  refine ⟨head, tail, rfl, flanks, fun _ => flanks.apart, total, ?_, ?_⟩
  · dsimp only at total
    have whole : 11 + head.length + tail.length < wordBound := by omega
    have front : wrapAdd 11 head.length = 11 + head.length :=
      wrapAdd_of_lt (Nat.lt_of_le_of_lt (Nat.le_add_right _ _) whole)
    rw [front, wrapAdd_of_lt whole]
  · rintro forwarder record data now rfl
    have filled (slot content : Bytes) := @fillSlot?_eq_entry_iff gate data head tail inside captured
      flanks forwarder record now slot content
    have sized : (forwarder.entry gate record data now).length =
        11 + head.length + tail.length := by
      rw [length_entry, Gate.capture, captured, List.length_append,
        Bytes.length_slice (flanks.head_inside inside), Bytes.length_slice flanks.inside,
        ← Nat.add_assoc]
    refine ⟨filled, _, ?_, offerInPlace_eq_offerPostcard forwarder gate record data now sized⟩
    intro slot
    exact (filled _ _).mpr ⟨Vector.length_toList, rfl⟩

/-- A gate that truncates at the highest offset, so that the end of its second stretch wraps
round. -/
def farGate : Gate := { Gate.plain .egress 3 4 4 with truncateAt := 18446744073709551615 }

theorem captured_in_bounds_farGate :
    farGate.readAt + 36 ≤ 44 ∧ farGate.captureSpans 44 = (⟨0, 4⟩, ⟨40, 40⟩) ∧
      farGate.Flanks 44 ⟨0, 4⟩ ⟨40, 40⟩ ∧
      ∃ fill : Vector UInt8 15 → Vector UInt8 15,
        (∀ slot, Postcard.fillSlot? (Postcard.Header.encode ⟨0, 0, 7, 0, 3, 0, 5⟩)
          (List.replicate 44 9) ⟨0, 4⟩ ⟨40, 40⟩ slot.toList = some (fill slot).toList) ∧
        ({ nodeId := 7 } : Forwarder).offerInPlace 15 fill =
          ({ nodeId := 7 } : Forwarder).offerPostcard farGate ⟨7, 0, 3, 0⟩ (List.replicate 44 9)
            5 := by
  have inside : farGate.readAt + 36 ≤ 44 := by decide
  rcases captured_in_bounds farGate inside (by decide) with
    ⟨head, tail, captured, flanks, -, -, -, queued⟩
  have spans : farGate.captureSpans 44 = (⟨0, 4⟩, ⟨40, 40⟩) := by decide
  cases spans.symm.trans captured
  rcases queued { nodeId := 7 } ⟨7, 0, 3, 0⟩ (List.replicate 44 9) 5 rfl with ⟨-, fill, filled, same⟩
  exact ⟨inside, spans, flanks, fill, filled, same⟩

end Forwarder

end InbandTelemetry
