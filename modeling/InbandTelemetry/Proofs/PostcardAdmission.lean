import InbandTelemetry.Proofs.BatchSplitting
import InbandTelemetry.Proofs.PostcardDelivery

namespace InbandTelemetry

/-!
# What becomes of one postcard

An egress gate makes a postcard of every packet whose block asks for one, whatever the
records of the block are.  The header names the node and the gate, and the tag of the
ingress gate if the hop completes its record.  The body is what the gate captures of the
packet, before anything in it is moved.  Two limits decide whether the postcard comes into
the ring.
-/

open Telemetry

namespace Gate

variable {gate : Gate} {block : Block}

/-- What a gate captures of a packet that it has stamped is the packet without its block, up to
the truncation position. -/
theorem capture_stampPacket_of_bounded {packet : Packet}
    (carried : Block.at? packet.data gate.readAt = some block)
    (bounded : gate.truncateAt + 36 < wordBound) (nodeId : UInt8) (now : Nat) :
    gate.capture (Forwarder.stampPacket gate nodeId now packet).packet.data =
      (Bytes.without packet.data gate.readAt 36).take gate.truncateAt := by
  let stamp := gate.stamp nodeId packet.metadata.openRecord now block
  rcases stampedData_spec carried stamp with ⟨size, -, rest⟩
  have inside := Block.inside_of_at? carried
  rw [← size] at inside
  calc
    gate.capture (Forwarder.stampPacket gate nodeId now packet).packet.data =
        gate.capture (gate.stampedData packet stamp) := by rw [stampPacket_eq carried]
    _ = (Bytes.without (gate.stampedData packet stamp) gate.readAt 36).take gate.truncateAt :=
      capture_eq inside bounded
    _ = (Bytes.without packet.data gate.readAt 36).take gate.truncateAt := by rw [rest]

end Gate

namespace Forwarder

/-- The header of the postcard about a packet with a block that leaves a forwarder. -/
def leavingHeader (forwarder : Forwarder) (gate : Gate) (now : Nat) (packet : Packet)
    (block : Block) : Postcard.Header where
  version := 0
  nextProtocol := gate.nextProtocol
  nodeId := forwarder.nodeId
  ingress :=
    (block.pending? forwarder.nodeId packet.metadata.openRecord).elim 0 HopRecord.ingress
  egress := gate.reportId
  sequence := forwarder.nextSequence
  leaveTime := UInt32.ofNat now

section Packet

variable {forwarder : Forwarder} {gate : Gate} {packet : Packet} {block : Block}

theorem postcardHeader_begun (leaves : gate.direction = .egress) (now : Nat) :
    forwarder.postcardHeader gate
        (gate.begun forwarder.nodeId packet.metadata.openRecord block) now =
      forwarder.leavingHeader gate now packet block := by
  rcases Gate.begun_of_egress leaves forwarder.nodeId packet.metadata.openRecord block with
    ⟨egress, ingress⟩
  rw [postcardHeader, leavingHeader, egress, ingress, Postcard.version]

/-- The fields of the header fit in their bits if the gate is checked. -/
theorem narrow_leavingHeader (checked : gate.Checked) (now : Nat) :
    (forwarder.leavingHeader gate now packet block).Narrow :=
  ⟨Nat.zero_le 15, checked.nextProtocol_le, Block.ingress_pending_le, checked.reportId_le⟩

/-- A packet that asks for a postcard passes an egress gate: the forwarder offers the postcard
to its ring and counts the answer. -/
theorem passPacket_of_flagged (leaves : gate.direction = .egress)
    (carried : Block.at? packet.data gate.readAt = some block)
    (flagged : block.header.postcard = true) (now : Nat) :
    let record := gate.begun forwarder.nodeId packet.metadata.openRecord block
    let data := (stampPacket gate forwarder.nodeId now packet).packet.data
    let offered := forwarder.offerPostcard gate record data now
    forwarder.passPacket gate now packet =
      Passage.countOffer
        { forwarder := offered.2, batch := [gate.forward forwarder.nodeId now packet] }
        offered.1 := by
  have exported : gate.exports block = true := by
    rw [Gate.exports, flagged, Gate.isEgress, leaves]
    rfl
  have reported : (stampPacket gate forwarder.nodeId now packet).report =
      some (gate.begun forwarder.nodeId packet.metadata.openRecord block) := by
    simp only [Gate.stampPacket_eq carried, Gate.report_stamp, if_pos exported]
  rw [passPacket, reported]
  rfl

end Packet

/-! ## The last packet of a batch -/

section Batch

variable {forwarder : Forwarder} {gate : Gate}

theorem capacity_offerPostcard (forwarder : Forwarder) (gate : Gate) (record : HopRecord)
    (data : Bytes) (now : Nat) :
    (forwarder.offerPostcard gate record data now).2.ring.capacity = forwarder.ring.capacity := by
  have kept (entry : Bytes) : (forwarder.ring.offer entry).2.capacity = forwarder.ring.capacity :=
    forwarder.ring.capacity_act (.offer entry)
  unfold offerPostcard
  dsimp only
  split
  · rfl
  · split
    all_goals
      rename_i taken
      rw [← kept, taken]

theorem capacity_passPacket (forwarder : Forwarder) (gate : Gate) (now : Nat) (packet : Packet) :
    (forwarder.passPacket gate now packet).forwarder.ring.capacity = forwarder.ring.capacity := by
  unfold passPacket
  dsimp only
  split
  · rfl
  · rw [(countOffer_batch _ _).2]
    exact capacity_offerPostcard _ _ _ _ _

/-- A batch does not change the size of the store. -/
theorem capacity_passBatch (forwarder : Forwarder) (gate : Gate) (now : Nat) (batch : Batch) :
    (forwarder.passBatch gate now batch).forwarder.ring.capacity = forwarder.ring.capacity := by
  induction batch generalizing forwarder with
  | nil => rfl
  | cons packet rest ih => exact (ih _).trans (capacity_passPacket forwarder gate now packet)

/-- What one more packet adds to the accounts of a batch. -/
structure Adds (first whole : Outcome × Forwarder) (postcards dropped evicted : Nat) : Prop where
  postcards_eq : whole.1.postcards = first.1.postcards + postcards
  postcardsDropped_eq : whole.1.postcardsDropped = first.1.postcardsDropped + dropped
  evicted_eq : whole.1.evicted = first.1.evicted + evicted
  nextSequence_eq : whole.2.nextSequence = first.2.nextSequence + UInt32.ofNat postcards

/-- The last packet of a batch meets the forwarder that the others have left behind. -/
theorem process_concat {id : GateId} (laid : forwarder.ring.IsLaidOut)
    (registered : forwarder.gates.find? id = some gate) (earlier : Batch) (packet : Packet)
    (now : Nat) :
    let first := forwarder.process id earlier now
    let whole := forwarder.process id (earlier ++ [packet]) now
    let last := first.2.passPacket gate now packet
    whole.2.ring = last.forwarder.ring ∧
      Adds first whole last.postcards last.postcardsDropped last.evicted := by
  intro first whole last
  have kept : first.2.ring.IsLaidOut := (process_postcards laid id earlier now).1.laid
  have balanced := balanced_passPacket kept gate now packet
  rcases process_recount registered earlier now with ⟨gates, -, between, -⟩
  rcases process_accounts registered earlier now with ⟨-, -, postcards, evicted, dropped⟩
  rcases process_accounts registered (earlier ++ [packet]) now with
    ⟨ring, number, allPostcards, allEvicted, allDropped⟩
  rw [passBatch_append] at ring number allPostcards allEvicted allDropped
  -- the gates, which the batch has counted, have no part in what follows
  rcases passPacket_recount (forwarder.passBatch gate now earlier).forwarder gates gate
    gate.counters now packet with ⟨passed, lastPostcards, lastEvicted, lastDropped⟩
  rw [← between] at passed lastPostcards lastEvicted lastDropped
  have passed : last.forwarder = _ := passed
  refine ⟨?_, ?_, ?_, ?_, ?_⟩
  · rw [passed]
    exact ring
  · exact allPostcards.trans (congrArg₂ (· + ·) postcards.symm lastPostcards.symm)
  · exact allDropped.trans (congrArg₂ (· + ·) dropped.symm lastDropped.symm)
  · exact allEvicted.trans (congrArg₂ (· + ·) evicted.symm lastEvicted.symm)
  · have counted := balanced.turnover.counted
    rw [← balanced.postcards] at counted
    rw [← counted, passed]
    exact number

/-- What becomes of a postcard, told by the accounts and the forwarder without its packet and
with it.  It is larger than a postcard may be, or larger than the store of the ring, or it
comes into the ring. -/
inductive Settles (first whole : Outcome × Forwarder) (postcard : Postcard) : Prop where
  | refused (large : first.2.maxPostcardSize < postcard.size) (adds : Adds first whole 0 1 0)
      (ring_eq : whole.2.ring = first.2.ring)
  | lost (small : postcard.size ≤ first.2.maxPostcardSize)
      (large : first.2.ring.capacity < postcard.size)
      (adds : Adds first whole 0 1 first.2.ring.size) (toList_eq : whole.2.ring.toList = [])
  | queued (small : postcard.size ≤ first.2.maxPostcardSize)
      (fits : postcard.size ≤ first.2.ring.capacity) (evicted : Nat)
      (bounded : evicted ≤ first.2.ring.toList.length) (adds : Adds first whole 1 0 evicted)
      (toList_eq : whole.2.ring.toList =
        first.2.ring.toList.drop evicted ++ [postcard.encode])

/-- The postcard on the last packet of a batch, with whatever the gate captures. -/
theorem settles_concat (laid : forwarder.ring.IsLaidOut) {id : GateId}
    (registered : forwarder.gates.find? id = some gate) (leaves : gate.direction = .egress)
    {packet : Packet} {block : Block} (carried : Block.at? packet.data gate.readAt = some block)
    (flagged : block.header.postcard = true) (earlier : Batch) (now : Nat) :
    let first := forwarder.process id earlier now
    Settles first (forwarder.process id (earlier ++ [packet]) now)
      ⟨first.2.leavingHeader gate now packet block,
        gate.capture (stampPacket gate first.2.nodeId now packet).packet.data⟩ := by
  intro first
  rcases process_concat laid registered earlier packet now with ⟨ring, adds⟩
  have kept : first.2.ring.IsLaidOut := (process_postcards laid id earlier now).1.laid
  have written := @postcardHeader_begun first.2 gate packet block leaves now
  rw [passPacket_of_flagged leaves carried flagged now] at ring adds
  rcases offerPostcard_cases kept gate
      (gate.begun first.2.nodeId packet.metadata.openRecord block)
      (stampPacket gate first.2.nodeId now packet).packet.data now with
    ⟨large, dropped⟩ | ⟨small, high, dropped⟩ | ⟨small, fits, evicted, later, accepted, -, bounded,
      queued⟩
  · rw [dropped] at ring adds
    exact .refused large adds ring
  · rw [dropped, Passage.countOffer] at ring adds
    simp only [Nat.zero_add] at adds
    exact .lost small high adds (congrArg Ring.toList ring)
  · rw [accepted, Passage.countOffer] at ring adds
    simp only [Nat.zero_add] at adds
    rw [entry, written] at queued
    exact .queued small fits evicted bounded adds ((congrArg Ring.toList ring).trans queued)

end Batch

/-- A packet asks for a postcard at an egress gate, behind the other packets of a batch.  The
header of the postcard is what the node, the gate and the pending record call for, and its
body is the packet without the block, up to the truncation position.  Its size alone
decides whether the postcard is dropped or becomes the newest entry of the ring. -/
theorem postcard_admission {forwarder : Forwarder} (reachable : forwarder.ring.Reachable)
    {id : GateId} {gate : Gate} (registered : forwarder.gates.find? id = some gate)
    (leaves : gate.direction = .egress) (bounded : gate.truncateAt + 36 < wordBound)
    {packet : Packet} {block : Block} (carried : Block.at? packet.data gate.readAt = some block)
    (flagged : block.header.postcard = true) (earlier : Batch) (now : Nat) :
    let first := forwarder.process id earlier now
    let whole := forwarder.process id (earlier ++ [packet]) now
    let rest := Bytes.without packet.data gate.readAt 36
    let postcard : Postcard :=
      ⟨first.2.leavingHeader gate now packet block, rest.take gate.truncateAt⟩
    postcard.size = 11 + min gate.truncateAt rest.length ∧
      (gate.Checked → Postcard.decode postcard.encode = .ok postcard) ∧
      first.2.nodeId = forwarder.nodeId ∧
      first.2.maxPostcardSize = forwarder.maxPostcardSize ∧
      first.2.ring.capacity = forwarder.ring.capacity ∧
      Settles first whole postcard := by
  intro first whole rest postcard
  rcases process_recount registered earlier now with ⟨gates, -, between, -⟩
  rcases forwarder.forwarder_passBatch gate now earlier with ⟨ring, nextSequence, passed⟩
  have capacity := capacity_passBatch forwarder gate now earlier
  rw [passed] at between capacity
  have between : first.2 = _ := between
  refine ⟨?_, ?_, ?_, ?_, ?_, ?_⟩
  · simp only [postcard, Postcard.size, Postcard.Header.length, List.length_take]
  · intro checked
    exact Postcard.decode_encode (narrow_leavingHeader checked now)
  · rw [between]
  · rw [between]
  · rw [between]
    exact capacity
  · have settled := settles_concat reachable.isLaidOut registered leaves carried flagged earlier now
    dsimp only at settled
    rw [Gate.capture_stampPacket_of_bounded carried bounded] at settled
    exact settled

/-- A gate that captures three bytes of a packet. -/
def briefGate : Gate := { Gate.plain .egress 6 2 0 with truncateAt := 3 }

/-- A forwarder whose ring has room for two postcards of the gate. -/
def snug : Forwarder where
  nodeId := 7
  maxPostcardSize := 14
  gates := .only briefGate
  ring := .withCapacity 30

/-- A full block that asks for a postcard, behind two bytes and in front of two more. -/
def fullPacket : Packet where
  data := [1, 2] ++ (Block.fresh ⟨0, 0, true, 7⟩).bytes ++ [3, 4]

/-- The third postcard of a batch takes the place of the first one, with the number two. -/
theorem postcard_admission_fullPacket :
    let first := snug.process 0 [fullPacket, fullPacket] 5
    let whole := snug.process 0 [fullPacket, fullPacket, fullPacket] 5
    whole.1.postcards = first.1.postcards + 1 ∧
      whole.2.ring.toList = first.2.ring.toList.drop 1 ++
        [Postcard.encode ⟨⟨0, 0, 7, 0, 6, 2, 5⟩, [1, 2, 3]⟩] := by
  intro first whole
  have carried : Block.at? fullPacket.data 2 = some (Block.fresh ⟨0, 0, true, 7⟩) := by decide
  have described : (⟨first.2.leavingHeader briefGate 5 fullPacket (Block.fresh ⟨0, 0, true, 7⟩),
      (Bytes.without fullPacket.data 2 36).take 3⟩ : Postcard) =
        ⟨⟨0, 0, 7, 0, 6, 2, 5⟩, [1, 2, 3]⟩ := by
    decide
  have registered : snug.gates.find? 0 = some briefGate := rfl
  rcases postcard_admission ⟨30, [], rfl⟩ registered rfl (by decide) carried rfl
      [fullPacket, fullPacket] 5 with
    ⟨-, -, -, limit, capacity, settled⟩
  have settled : Settles first whole ⟨⟨0, 0, 7, 0, 6, 2, 5⟩, [1, 2, 3]⟩ :=
    (congrArg (Settles first whole) described).mp settled
  rcases settled with ⟨large, -, -⟩ | ⟨-, large, -, -⟩ | ⟨-, -, evicted, -, adds, newest⟩
  · rw [limit] at large
    contradiction
  · rw [capacity] at large
    contradiction
  · have counted : 1 = 0 + evicted := adds.evicted_eq
    rw [Nat.zero_add] at counted
    subst counted
    exact ⟨adds.postcards_eq, newest⟩

end Forwarder

end InbandTelemetry
