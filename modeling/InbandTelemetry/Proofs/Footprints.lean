import Mathlib.Data.List.Forall2
import InbandTelemetry.Proofs.Rearrangements

namespace InbandTelemetry

/-!
# What a batch leaves alone

A gate changes the packets of a batch one by one and in place.  None of them grows or
shrinks, none comes without its times, and one without a block keeps every byte.  The
only note that a gate writes is the one about the open record.  In the forwarder a
batch touches the ring, the next number and the counts of its gate; the gate itself is
read as it was before the batch, and no other gate is involved.
-/

open Telemetry

namespace Gate

variable {gate : Gate} {nodeId : UInt8} {now : Nat} {packet : Packet} {block : Block}

/-! ## Lengths -/

theorem length_moveBlock (gate : Gate) (data : Bytes) :
    (gate.moveBlock data).length = data.length := by
  unfold moveBlock
  split
  · rename_i moved success
    exact Bytes.length_of_moveWindow success
  · rfl

/-- An overlay is written over bytes that are there. -/
theorem length_applyOverlay (addressable : ∀ overlay ∈ gate.overlay, overlay.Addressable)
    (data : Bytes) : (gate.applyOverlay data).length = data.length := by
  unfold applyOverlay
  split
  · rfl
  · rename_i overlay laid
    dsimp only
    split
    · rename_i tested
      simp only [Bool.and_eq_true, decide_eq_true_eq] at tested
      exact Bytes.length_overwrite ((addressable overlay laid).fits tested.1 tested.2)
    · rfl

theorem length_forward (addressable : ∀ overlay ∈ gate.overlay, overlay.Addressable)
    (nodeId : UInt8) (now : Nat) (packet : Packet) :
    (gate.forward nodeId now packet).data.length = packet.data.length := by
  rw [forward_eq]
  split
  · rfl
  · rename_i block carried
    calc
      (gate.relocate (gate.stampedData packet _)).length =
          (gate.moveBlock (gate.stampedData packet _)).length :=
        length_applyOverlay addressable _
      _ = (gate.stampedData packet _).length := length_moveBlock gate _
      _ = packet.data.length := (stampedData_spec carried _).1

/-! ## One packet -/

/-- An ingress gate opens the record with an index in the block of a packet.  The record comes
behind those that are there, it is counted, and it names the node and the gate. -/
structure OpensRecord (gate : Gate) (nodeId : UInt8) (now : Nat) (packet : Packet)
    (index : Nat) : Prop where
  room : index < 7
  before : ∃ block, Block.at? packet.data gate.readAt = some block ∧ block.count = index
  behind : ∃ block record,
    Block.at? (Forwarder.stampPacket gate nodeId now packet).packet.data gate.readAt = some block ∧
      block.count = index + 1 ∧ block.record? index = some record ∧ record.nodeId = nodeId ∧
      record.ingress = gate.reportId % 16

/-- What a gate leaves alone in a packet, and what becomes of the note about the open record. -/
structure LeavesAlone (gate : Gate) (nodeId : UInt8) (now : Nat) (packet passed : Packet) :
    Prop where
  length_eq : passed.data.length = packet.data.length
  data_eq : Block.at? packet.data gate.readAt = none → passed.data = packet.data
  arrival_eq : passed.metadata.arrival = packet.metadata.arrival
  departure_eq : passed.metadata.departure = packet.metadata.departure
  batchSize_eq : passed.metadata.batchSize = packet.metadata.batchSize
  closed : gate.direction = .egress → passed.metadata.openRecord = none
  noted : gate.direction = .ingress →
    passed.metadata.openRecord = packet.metadata.openRecord ∨
      ∃ index, passed.metadata.openRecord = some index ∧ gate.OpensRecord nodeId now packet index

theorem opensRecord_of_room (enters : gate.direction = .ingress)
    (carried : Block.at? packet.data gate.readAt = some block)
    (room : block.count < Block.maxRecords) :
    gate.OpensRecord nodeId now packet block.count := by
  refine ⟨room, ⟨block, carried, rfl⟩, ?_⟩
  let written := block.putRecord block.count (gate.opening nodeId now block.header) room
  have found := at?_stampedData carried nodeId packet.metadata.openRecord now
  rw [stamp_ingress_of_room enters room] at found
  have counted : (UInt8.ofNat (block.count + 1)).toNat = block.count + 1 := by
    have small : block.count < 7 := room
    simp only [UInt8.toNat_ofNat']
    omega
  refine ⟨written.setCount (UInt8.ofNat (block.count + 1)),
    (gate.opening nodeId now block.header).stored, ?_, ?_, ?_, rfl, rfl⟩
  · simp only [stampPacket_eq carried, stamp_ingress_of_room enters room]
    exact found
  · simp only [Block.count_setCount, counted]
  · simp only [written, Block.record?_setCount, Block.record?_putRecord_self]

theorem leavesAlone_forward (addressable : ∀ overlay ∈ gate.overlay, overlay.Addressable)
    (nodeId : UInt8) (now : Nat) (packet : Packet) :
    gate.LeavesAlone nodeId now packet (gate.forward nodeId now packet) := by
  rcases gate.metadata_forward nodeId now packet with ⟨openRecord, notes⟩
  refine ⟨length_forward addressable nodeId now packet, ?_, ?_, ?_, ?_, ?_, ?_⟩
  · intro absent
    simp only [forward_eq, absent]
  · rw [notes]
  · rw [notes]
  · rw [notes]
  · intro leaves
    exact openRecord_forward_of_egress leaves nodeId now
  · intro enters
    by_cases opens : ∃ block, Block.at? packet.data gate.readAt = some block ∧
        block.count < Block.maxRecords
    · rcases opens with ⟨block, carried, room⟩
      exact Or.inr ⟨block.count, openRecord_forward_of_room enters carried room nodeId now,
        opensRecord_of_room enters carried room⟩
    · left
      apply openRecord_forward_of_idle enters
      intro block carried room
      exact opens ⟨block, carried, room⟩

end Gate

/-! ## A batch -/

namespace Forwarder

theorem totalBytes_of_leavesAlone {gate : Gate} {nodeId : UInt8} {now : Nat}
    {batch passed : Batch} (alone : List.Forall₂ (gate.LeavesAlone nodeId now) batch passed) :
    passed.totalBytes = batch.totalBytes := by
  induction alone with
  | nil => rfl
  | cons first _ ih => simp only [Batch.totalBytes, first.length_eq, ih]

theorem leavesAlone_process {forwarder : Forwarder} {id : GateId} {gate : Gate}
    (registered : forwarder.gates.find? id = some gate)
    (addressable : ∀ overlay ∈ gate.overlay, overlay.Addressable) (batch : Batch) (now : Nat) :
    List.Forall₂ (gate.LeavesAlone forwarder.nodeId now) batch
      (forwarder.process id batch now).1.batch := by
  rw [process_batch registered, List.forall₂_map_right_iff, List.forall₂_same]
  intro packet _
  exact Gate.leavesAlone_forward addressable forwarder.nodeId now packet

/-- The forwarder behind a batch has another ring, another next number and another count of
the batch's gate. -/
theorem forwarder_process_of_registered {forwarder : Forwarder} {id : GateId} {gate : Gate}
    (registered : forwarder.gates.find? id = some gate) (batch : Batch) (now : Nat) :
    ∃ ring nextSequence, (forwarder.process id batch now).2 =
      { forwarder with
        ring, nextSequence
        gates := forwarder.gates.modify id fun gate =>
          { gate with
            counters := gate.counters.account batch.length
              (forwarder.process id batch now).1.batch.totalBytes now } } := by
  rcases forwarder.forwarder_passBatch gate now batch with ⟨ring, nextSequence, passed⟩
  refine ⟨ring, nextSequence, ?_⟩
  simp only [process, registered, passed]

/-- A batch on a gate that is not registered is dropped whole, and nothing happens to the
forwarder.  On a registered gate no packet is dropped and none is changed more than a
gate may.  The gate has counted the batch, and otherwise all gates, the node and the
largest size of a postcard are what they were. -/
theorem process_leaves {forwarder : Forwarder} {id : GateId}
    (addressable : ∀ gate ∈ forwarder.gates.find? id,
      ∀ overlay ∈ gate.overlay, overlay.Addressable)
    (batch : Batch) (now : Nat) :
    let outcome := (forwarder.process id batch now).1
    let later := (forwarder.process id batch now).2
    (forwarder.gates.find? id = none →
      outcome =
          { gate := id, batch := [], postcards := 0, evicted := 0, postcardsDropped := 0,
            dropped := batch.length } ∧
        later = forwarder) ∧
    ∀ gate, forwarder.gates.find? id = some gate →
      outcome.gate = id ∧ outcome.dropped = 0 ∧
      List.Forall₂ (gate.LeavesAlone forwarder.nodeId now) batch outcome.batch ∧
      later.nodeId = forwarder.nodeId ∧ later.maxPostcardSize = forwarder.maxPostcardSize ∧
      later.gates.find? id =
        some { gate with
          counters := gate.counters.account batch.length batch.totalBytes now } ∧
      ∀ other, other ≠ id → later.gates.find? other = forwarder.gates.find? other := by
  intro outcome later
  constructor
  · intro absent
    simp only [outcome, later, process, absent, and_self]
  · intro gate registered
    have alone := leavesAlone_process registered (addressable gate registered) batch now
    have total := totalBytes_of_leavesAlone alone
    rcases forwarder_process_of_registered registered batch now with
      ⟨ring, nextSequence, touched⟩
    rw [total] at touched
    have changed : later = { forwarder with ring, nextSequence, gates := _ } := touched
    rw [changed]
    refine ⟨?_, ?_, alone, rfl, rfl, ?_, ?_⟩
    · simp only [outcome, process, registered]
    · simp only [outcome, process, registered]
    · simp only [GateTable.find?_modify, if_true, registered, Option.map_some]
    · intro other different
      simp only [GateTable.find?_modify, if_neg different]

/-- A packet with a block, and one without that comes with the note of an open record. -/
def mixedBatch : Batch := [betweenBytes, { data := [1, 2, 3], metadata.openRecord := some 4 }]

theorem process_leaves_mixedBatch :
    let result := farForwarder.process 0 mixedBatch 5
    List.Forall₂ (farOverlay.LeavesAlone 7 5) mixedBatch result.1.batch ∧
      result.2.gates.find? 0 = some { farOverlay with counters := ⟨2, 42, some 5, 0⟩ } := by
  intro result
  have addressable : ∀ gate ∈ farForwarder.gates.find? 0,
      ∀ overlay ∈ gate.overlay, overlay.Addressable := by
    rintro gate ⟨rfl⟩ overlay ⟨rfl⟩
    exact ⟨by decide, by decide⟩
  rcases (process_leaves addressable mixedBatch 5).2 farOverlay rfl with
    ⟨-, -, alone, -, -, counted, -⟩
  exact ⟨alone, counted.trans (by decide)⟩

end Forwarder

end InbandTelemetry
