import InbandTelemetry.Proofs.RingQueue
import InbandTelemetry.Proofs.Stamping

namespace InbandTelemetry

/-!
# Postcards on their way into the ring

A postcard is a header and the leading bytes of a packet, of which the block is
no part wherever it lies.  If the postcard is small enough it becomes the newest
entry of the ring, and whoever reads the entry gets header and bytes back.
-/

open Telemetry

/-! ## Reading a postcard back -/

namespace Postcard

/-- The packed fields of a header fit in four bits. -/
structure Header.Narrow (header : Header) : Prop where
  version_le : header.version ≤ 15
  nextProtocol_le : header.nextProtocol ≤ 15
  ingress_le : header.ingress ≤ 15
  egress_le : header.egress ≤ 15

/-- A header as it can be stored, with packed fields of four bits. -/
def Header.stored (header : Header) : Header :=
  { header with
    version := header.version % 16
    nextProtocol := header.nextProtocol % 16
    ingress := header.ingress % 16
    egress := header.egress % 16 }

theorem Header.Narrow.stored_eq {header : Header} (narrow : header.Narrow) :
    header.stored = header := by
  rw [stored, Bytes.mod_sixteen_of_le narrow.version_le,
    Bytes.mod_sixteen_of_le narrow.nextProtocol_le, Bytes.mod_sixteen_of_le narrow.ingress_le,
    Bytes.mod_sixteen_of_le narrow.egress_le]

/-- A header reads back as it was stored, whatever comes behind it. -/
theorem Header.decode_encode (header : Header) (rest : Bytes) :
    Header.decode (header.encode ++ rest) = .ok header.stored := by
  rw [encode, Bytes.ofWord32, Bytes.ofWord32]
  simp only [List.cons_append, List.nil_append, decode, Bytes.highNibble_packNibbles,
    Bytes.lowNibble_packNibbles, Bytes.word32_ofWord32, stored]

theorem Header.decode_encode_append {header : Header} (narrow : header.Narrow) (body : Bytes) :
    Header.decode (header.encode ++ body) = .ok header := by
  rw [header.decode_encode, narrow.stored_eq]

theorem decode_encode {postcard : Postcard} (narrow : postcard.header.Narrow) :
    decode postcard.encode = .ok postcard := by
  rw [encode, decode, Header.decode_encode_append narrow]
  have body : (postcard.header.encode ++ postcard.body).drop Header.length = postcard.body :=
    List.drop_left' postcard.header.length_encode
  rw [body]

end Postcard

/-! ## What is captured -/

namespace Gate

variable {gate : Gate} {data : Bytes}

/-- A block that lies in front of the truncation position is left out.  The sum of 64-bit
words that ends the second stretch does not wrap. -/
theorem captureSpans_of_front (inside : gate.readAt + 36 ≤ data.length)
    (small : gate.truncateAt + 36 < wordBound) (front : gate.readAt < gate.truncateAt) :
    gate.captureSpans data.length =
      (⟨0, gate.readAt⟩, ⟨gate.readAt + 36, min (gate.truncateAt + 36) data.length⟩) := by
  have start : wrapAdd gate.readAt Block.length = gate.readAt + 36 :=
    wrapAdd_of_lt (by rw [Block.length]; omega)
  have stop : wrapAdd gate.truncateAt Block.length = gate.truncateAt + 36 := wrapAdd_of_lt small
  have whole : min gate.readAt data.length = gate.readAt := Nat.min_eq_left (by omega)
  have ordered : gate.readAt + 36 ≤ min (gate.truncateAt + 36) data.length := by omega
  rw [captureSpans, if_pos front, start, stop]
  dsimp only
  rw [Nat.min_eq_left inside, whole, Nat.max_eq_left ordered]

/-- A gate captures the leading bytes of what a packet is without its block. -/
theorem capture_eq (inside : gate.readAt + 36 ≤ data.length)
    (small : gate.truncateAt + 36 < wordBound) :
    gate.capture data = (Bytes.without data gate.readAt 36).take gate.truncateAt := by
  have reached : (data.take gate.readAt).length = gate.readAt :=
    List.length_take_of_le (by omega)
  rw [capture, Bytes.without, List.take_append, reached, List.take_take]
  by_cases front : gate.readAt < gate.truncateAt
  · have head : Bytes.slice data ⟨0, gate.readAt⟩ =
        data.take (min gate.truncateAt gate.readAt) := by
      rw [Nat.min_eq_right (Nat.le_of_lt front)]
      rfl
    have tail : Bytes.slice data ⟨gate.readAt + 36, min (gate.truncateAt + 36) data.length⟩ =
        (data.drop (gate.readAt + 36)).take (gate.truncateAt - gate.readAt) := by
      apply List.take_eq_take_iff.mpr
      rw [Span.length, List.length_drop]
      dsimp only
      omega
    rw [captureSpans_of_front inside small front, ← head, ← tail]
  -- a block that lies behind the truncation position is not reached
  · have nothing : gate.truncateAt - gate.readAt = 0 := by omega
    have early : min gate.truncateAt gate.readAt = min gate.truncateAt data.length := by omega
    rw [captureSpans, if_neg front, nothing, early]
    rfl

/-- What a gate captures does not depend on the block at its read position, unless a packet
has more bytes than a 64-bit word can count. -/
theorem capture_overwrite {content : Bytes} (filled : content.length = 36)
    (inside : gate.readAt + 36 ≤ data.length) (short : data.length < wordBound) :
    gate.capture (Bytes.overwrite data gate.readAt content) = gate.capture data := by
  have fits : gate.readAt + content.length ≤ data.length := filled ▸ inside
  have reached : gate.readAt ≤ data.length := Nat.le_of_add_right_le inside
  have size : (Bytes.overwrite data gate.readAt content).length = data.length :=
    Bytes.length_overwrite fits
  rw [capture, capture, size, captureSpans]
  by_cases front : gate.readAt < gate.truncateAt
  · rw [if_pos front]
    have start : wrapAdd gate.readAt Block.length = gate.readAt + 36 :=
      wrapAdd_of_lt (Nat.lt_of_le_of_lt inside short)
    simp only [Bytes.slice, Bytes.window, Span.length, List.drop_zero, Nat.sub_zero]
    rw [start, Nat.min_eq_left inside, Bytes.take_overwrite (Nat.min_le_left _ _) reached,
      Bytes.drop_overwrite fits (Nat.le_of_eq (congrArg (gate.readAt + ·) filled))]
  · rw [if_neg front]
    have early : min gate.truncateAt data.length ≤ gate.readAt := by omega
    simp only [Bytes.slice, Bytes.window, Span.length, List.drop_zero, Nat.sub_zero,
      List.take_zero]
    rw [Bytes.take_overwrite early reached]

end Gate

/-! ## The ring takes a postcard -/

namespace Forwarder

/-- The bytes of a postcard on a packet. -/
def entry (forwarder : Forwarder) (gate : Gate) (record : HopRecord) (data : Bytes) (now : Nat) :
    Bytes :=
  (forwarder.postcardHeader gate record now).encode ++ gate.capture data

theorem length_entry (forwarder : Forwarder) (gate : Gate) (record : HopRecord) (data : Bytes)
    (now : Nat) : (forwarder.entry gate record data now).length = 11 + (gate.capture data).length := by
  rw [entry, List.length_append, Postcard.Header.length_encode, Postcard.Header.length]

/-- All that can become of a postcard.  One that is larger than a postcard may be touches
nothing, one that is larger than the store of the ring empties it, and every other
one becomes the newest entry and uses up a number. -/
theorem offerPostcard_cases {forwarder : Forwarder} (laid : forwarder.ring.IsLaidOut)
    (gate : Gate) (record : HopRecord) (data : Bytes) (now : Nat) :
    (forwarder.maxPostcardSize < 11 + (gate.capture data).length ∧
      forwarder.offerPostcard gate record data now = (.dropped 0, forwarder)) ∨
    (11 + (gate.capture data).length ≤ forwarder.maxPostcardSize ∧
      forwarder.ring.capacity < 11 + (gate.capture data).length ∧
      forwarder.offerPostcard gate record data now =
        (.dropped forwarder.ring.size, { forwarder with ring := forwarder.ring.clear })) ∨
    (11 + (gate.capture data).length ≤ forwarder.maxPostcardSize ∧
      11 + (gate.capture data).length ≤ forwarder.ring.capacity ∧
      ∃ evicted ring, forwarder.offerPostcard gate record data now =
          (.accepted evicted,
            { forwarder with ring, nextSequence := forwarder.nextSequence + 1 }) ∧
        ring.IsLaidOut ∧ evicted ≤ forwarder.ring.toList.length ∧
        ring.toList =
          forwarder.ring.toList.drop evicted ++ [forwarder.entry gate record data now]) := by
  rw [← forwarder.length_entry gate record data now]
  have size := forwarder.length_entry gate record data now
  generalize built : forwarder.entry gate record data now = entry at size ⊢
  rw [Forwarder.entry] at built
  by_cases large : forwarder.maxPostcardSize < entry.length
  · exact Or.inl ⟨large, by rw [offerPostcard, built, if_pos large]⟩
  · right
    have small := Nat.le_of_not_lt large
    rcases Ring.offer_cases laid entry with
      ⟨empty, -⟩ | ⟨high, dropped⟩ | ⟨fits, evicted, ring, accepted, kept, bounded, queued⟩
    · rw [empty, List.length_nil] at size
      omega
    · exact Or.inl ⟨small, high, by rw [offerPostcard, built, if_neg large, dropped]⟩
    · refine Or.inr ⟨small, fits, evicted, ring, ?_, kept, bounded, queued⟩
      rw [offerPostcard, built, if_neg large, accepted]

/-- A postcard that is no larger than a postcard may be, and than the store of the ring,
becomes the newest entry and uses up a number. -/
theorem offerPostcard_accepted {forwarder : Forwarder} {gate : Gate} {data : Bytes}
    (record : HopRecord) (now : Nat) (laid : forwarder.ring.IsLaidOut)
    (small : 11 + (gate.capture data).length ≤ forwarder.maxPostcardSize)
    (fits : 11 + (gate.capture data).length ≤ forwarder.ring.capacity) :
    ∃ evicted ring,
      forwarder.offerPostcard gate record data now =
        (.accepted evicted,
          { forwarder with ring, nextSequence := forwarder.nextSequence + 1 }) ∧
      ring.toList = forwarder.ring.toList.drop evicted ++
        [(forwarder.postcardHeader gate record now).encode ++ gate.capture data] := by
  rcases forwarder.offerPostcard_cases laid gate record data now with
    ⟨large, -⟩ | ⟨-, high, -⟩ | ⟨-, -, evicted, ring, accepted, -, -, queued⟩
  · omega
  · omega
  · exact ⟨evicted, ring, accepted, queued⟩

/-- The only packet of a batch reports its hop, and the postcard is accepted. -/
theorem process_alone {forwarder later : Forwarder} {id : GateId} {gate : Gate}
    {packet : Packet} {block : Block} {record : HopRecord} {now evicted : Nat}
    (registered : forwarder.gates.find? id = some gate)
    (carried : Block.at? packet.data gate.readAt = some block) {stamp : Stamp}
    (stamped : gate.stamp forwarder.nodeId packet.metadata.openRecord now block = stamp)
    (reported : stamp.report = some record)
    (offered : forwarder.offerPostcard gate record (gate.stampedData packet stamp) now =
      (.accepted evicted, later)) :
    (forwarder.process id [packet] now).1.postcards = 1 ∧
      (forwarder.process id [packet] now).1.postcardsDropped = 0 ∧
      (forwarder.process id [packet] now).1.evicted = evicted ∧
      (forwarder.process id [packet] now).2.ring = later.ring := by
  have passed := Gate.stampPacket_eq carried forwarder.nodeId now
  rw [stamped] at passed
  have first : (forwarder.passPacket gate now packet).postcards = 1 ∧
      (forwarder.passPacket gate now packet).postcardsDropped = 0 ∧
      (forwarder.passPacket gate now packet).evicted = evicted ∧
      (forwarder.passPacket gate now packet).forwarder.ring = later.ring := by
    rw [passPacket, passed]
    dsimp only
    rw [reported]
    dsimp only
    rw [offered]
    exact ⟨rfl, rfl, Nat.zero_add evicted, rfl⟩
  -- the empty rest of the batch adds nothing
  rw [process, registered]
  exact first

end Forwarder

end InbandTelemetry
