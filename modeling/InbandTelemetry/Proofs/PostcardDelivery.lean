import Mathlib.Data.List.Forall2
import Mathlib.Data.List.Induction
import InbandTelemetry.Proofs.PostcardAccounts
import InbandTelemetry.Proofs.PostcardStreams

namespace InbandTelemetry

/-!
# From the ring to a collector

Postcards come into the ring one after the other and leave it in the same order, some
of them evicted and the others in packets.  A packet holds a whole postcard, which is
small enough for a frame, so that a collector reads all of them from the stream of
their frames.  What it misses between two numbers has been evicted.
-/

open Telemetry

namespace Postcard

/-- The number of a postcard, as it counts up from zero. -/
def number (postcard : Postcard) : Nat := postcard.header.sequence.toNat

/-- Strings that are all postcards are the postcards one after the other. -/
theorem exists_of_forall {good : Postcard → Prop} {raws : List Bytes}
    (each : ∀ raw ∈ raws, ∃ postcard : Postcard, raw = postcard.encode ∧ good postcard) :
    ∃ postcards : List Postcard, raws = postcards.map encode ∧
      ∀ postcard ∈ postcards, good postcard := by
  induction raws with
  | nil => exact ⟨[], rfl, nofun⟩
  | cons raw rest ih =>
      rcases List.forall_mem_cons.mp each with ⟨⟨postcard, rfl, holds⟩, others⟩
      rcases ih others with ⟨postcards, rfl, allHold⟩
      exact ⟨postcard :: postcards, rfl, List.forall_mem_cons.mpr ⟨holds, allHold⟩⟩

/-- The number of the postcard that a string holds, and zero if it holds none. -/
def rawNumber (raw : Bytes) : Nat := (number? raw).elim 0 UInt32.toNat

theorem map_rawNumber_encode (postcards : List Postcard) :
    (postcards.map encode).map rawNumber = postcards.map number := by
  rw [List.map_map]
  apply List.map_congr_left
  intro postcard _
  rw [Function.comp_apply, rawNumber, encode, number?_encode]
  rfl

end Postcard

namespace Gate

/-! ## What a postcard says -/

/-- An egress gate writes its own tag into a record.  The other tag is that of the pending
record, or there is none yet. -/
theorem begun_of_egress {gate : Gate} (leaves : gate.direction = .egress) (nodeId : UInt8)
    (openRecord : Option Nat) (block : Block) :
    (gate.begun nodeId openRecord block).egress = gate.reportId ∧
      (gate.begun nodeId openRecord block).ingress =
        (block.pending? nodeId openRecord).elim 0 HopRecord.ingress := by
  rw [begun_of_pending leaves, label, leaves]
  cases block.pending? nodeId openRecord with
  | none => exact ⟨rfl, rfl⟩
  | some record => exact ⟨rfl, rfl⟩

/-- A postcard is about a packet that has passed a gate: its header names the node and the
gate, and its body is what the gate has captured. -/
structure Describes (gate : Gate) (nodeId : UInt8) (now : Nat) (packet : Packet)
    (postcard : Postcard) : Prop where
  asked : gate.asks packet = true
  version_eq : postcard.header.version = 0
  nextProtocol_eq : postcard.header.nextProtocol = gate.nextProtocol
  nodeId_eq : postcard.header.nodeId = nodeId
  egress_eq : postcard.header.egress = gate.reportId
  leaveTime_eq : postcard.header.leaveTime = UInt32.ofNat now
  body_eq : postcard.body =
    gate.capture (Forwarder.stampPacket gate nodeId now packet).packet.data
  unstamped : packet.data.length < wordBound → postcard.body = gate.capture packet.data

/-- A record that a gate reports about a packet bears its tag, and its tags fit in four bits. -/
theorem report_stampPacket {gate : Gate} (checked : gate.Checked) {nodeId : UInt8} {now : Nat}
    {packet : Packet} {record : HopRecord}
    (reported : (Forwarder.stampPacket gate nodeId now packet).report = some record) :
    gate.asks packet = true ∧ record.egress = gate.reportId ∧ record.ingress ≤ 15 ∧
      record.egress ≤ 15 := by
  have asked : gate.asks packet = true := by
    rw [← isSome_report_stampPacket gate nodeId now packet, reported]
    rfl
  have leaves : gate.direction = .egress :=
    of_decide_eq_true (Bool.and_eq_true_iff.mp asked).1
  cases carried : Block.at? packet.data gate.readAt with
  | none =>
      rw [stampPacket_of_absent carried] at reported
      cases reported
  | some block =>
      rw [stampPacket_eq carried] at reported
      dsimp only at reported
      rw [report_stamp] at reported
      split at reported
      · cases reported
        rcases begun_of_egress leaves nodeId packet.metadata.openRecord block with ⟨tag, other⟩
        exact ⟨asked, tag, other ▸ Block.ingress_pending_le, tag ▸ checked.reportId_le⟩
      · cases reported

/-- What a gate captures of a packet that it has stamped is what it would capture of the packet
before. -/
theorem capture_stampPacket (gate : Gate) (nodeId : UInt8) (now : Nat) {packet : Packet}
    (short : packet.data.length < wordBound) :
    gate.capture (Forwarder.stampPacket gate nodeId now packet).packet.data =
      gate.capture packet.data := by
  cases carried : Block.at? packet.data gate.readAt with
  | none => rw [stampPacket_of_absent carried]
  | some block =>
      rw [stampPacket_eq carried]
      exact capture_overwrite (Block.length_eq _) (Block.inside_of_at? carried) short

end Gate

namespace Forwarder

/-! ## What is evicted -/

/-- The postcards that give way when a packet passes a gate. -/
def evictedBy (forwarder : Forwarder) (gate : Gate) (now : Nat) (packet : Packet) : List Bytes :=
  let stamped := stampPacket gate forwarder.nodeId now packet
  match stamped.report with
  | none => []
  | some record =>
      forwarder.ring.toList.take
        (forwarder.offerPostcard gate record stamped.packet.data now).1.evicted

/-- The postcards that give way when a batch passes a gate, in order. -/
def evictedByBatch (forwarder : Forwarder) (gate : Gate) (now : Nat) : Batch → List Bytes
  | [] => []
  | packet :: rest =>
      forwarder.evictedBy gate now packet ++
        (forwarder.passPacket gate now packet).forwarder.evictedByBatch gate now rest

/-- The postcards that give way when a batch is processed. -/
def evictedOn (forwarder : Forwarder) (id : GateId) (batch : Batch) (now : Nat) : List Bytes :=
  match forwarder.gates.find? id with
  | none => []
  | some gate => forwarder.evictedByBatch gate now batch

theorem evictedBy_eq {forwarder : Forwarder} (laid : forwarder.ring.IsLaidOut) (gate : Gate)
    (now : Nat) (packet : Packet) :
    forwarder.evictedBy gate now packet =
      (forwarder.ring.toList ++ forwarder.queuedBy gate now packet).take
        (forwarder.passPacket gate now packet).evicted := by
  rw [evictedBy, queuedBy, passPacket]
  dsimp only
  cases (stampPacket gate forwarder.nodeId now packet).report with
  | none => rfl
  | some record =>
      generalize (stampPacket gate forwarder.nodeId now packet).packet.data = data
      dsimp only
      rcases offerPostcard_cases laid gate record data now with
        ⟨-, dropped⟩ | ⟨-, -, dropped⟩ | ⟨-, -, evicted, ring, accepted, -, bounded, -⟩
      · rw [dropped]
        rfl
      · rw [dropped]
        change _ = (forwarder.ring.toList ++ []).take (0 + forwarder.ring.size)
        rw [List.append_nil, Nat.zero_add]
        rfl
      · rw [accepted]
        change _ = (forwarder.ring.toList ++ [_]).take (0 + evicted)
        rw [Nat.zero_add, List.take_append_of_le_length bounded]
        rfl

/-- What leaves the ring in two turnovers is what leaves it in both together. -/
theorem Turnover.take_append_take {forwarder later : Forwarder} {accepted : List Bytes}
    {gone : Nat} (turnover : Turnover forwarder later accepted gone) (added : List Bytes)
    (lost : Nat) :
    (forwarder.ring.toList ++ accepted).take gone ++ (later.ring.toList ++ added).take lost =
      (forwarder.ring.toList ++ (accepted ++ added)).take (gone + lost) := by
  rw [turnover.queued, ← List.drop_append_of_le_length turnover.bounded, ← List.append_assoc,
    List.take_add, List.take_append_of_le_length turnover.bounded]

theorem evictedByBatch_eq {forwarder : Forwarder} (laid : forwarder.ring.IsLaidOut) (gate : Gate)
    (now : Nat) (batch : Batch) :
    forwarder.evictedByBatch gate now batch =
      (forwarder.ring.toList ++ forwarder.queuedByBatch gate now batch).take
        (forwarder.passBatch gate now batch).evicted := by
  induction batch generalizing forwarder with
  | nil => rfl
  | cons packet rest ih =>
      have first := balanced_passPacket laid gate now packet
      rw [evictedByBatch, queuedByBatch, passBatch, evictedBy_eq laid, ih first.turnover.laid]
      exact first.turnover.take_append_take _ _

/-- What gives way is what a batch counts as evicted: the oldest of the postcards that were in
the ring or have come into it. -/
theorem evictedOn_eq {forwarder : Forwarder} (laid : forwarder.ring.IsLaidOut) (id : GateId)
    (batch : Batch) (now : Nat) :
    forwarder.evictedOn id batch now =
      (forwarder.ring.toList ++ forwarder.queuedOn id batch now).take
        (forwarder.process id batch now).1.evicted := by
  rw [evictedOn, queuedOn, process]
  cases forwarder.gates.find? id with
  | none => rfl
  | some gate => exact evictedByBatch_eq laid gate now batch

/-! ## Where a postcard comes from -/

/-- A postcard that is too large is not accepted. -/
theorem length_entry_of_isAccepted {forwarder : Forwarder} {gate : Gate} {record : HopRecord}
    {data : Bytes} {now : Nat}
    (accepted : (forwarder.offerPostcard gate record data now).1.isAccepted = true) :
    (forwarder.entry gate record data now).length ≤ forwarder.maxPostcardSize := by
  apply Nat.le_of_not_lt
  intro large
  rw [entry] at large
  rw [offerPostcard, if_pos large] at accepted
  cases accepted

/-- A postcard is exported when a packet passes a gate: it bears the number that is next then,
and it is what the packet leaves in the ring. -/
structure Queues (forwarder : Forwarder) (gate : Gate) (now : Nat) (packet : Packet)
    (postcard : Postcard) : Prop where
  sequence_eq : postcard.header.sequence = forwarder.nextSequence
  queued : forwarder.queuedBy gate now packet = [postcard.encode]

theorem queuedBy_of_report {forwarder : Forwarder} {gate : Gate} {now : Nat} {packet : Packet}
    {record : HopRecord}
    (reported : (stampPacket gate forwarder.nodeId now packet).report = some record) :
    let data := (stampPacket gate forwarder.nodeId now packet).packet.data
    forwarder.queuedBy gate now packet =
      if (forwarder.offerPostcard gate record data now).1.isAccepted then
        [forwarder.entry gate record data now]
      else [] := by
  rw [queuedBy, reported]

/-- An entry that a packet leaves in the ring is a postcard about the packet, which is exported
then, and it is small enough. -/
theorem exists_of_mem_queuedBy {forwarder : Forwarder} {gate : Gate} (checked : gate.Checked)
    {now : Nat} {packet : Packet} {raw : Bytes}
    (queued : raw ∈ forwarder.queuedBy gate now packet) :
    ∃ postcard : Postcard, raw = postcard.encode ∧ postcard.header.Narrow ∧
      postcard.size ≤ forwarder.maxPostcardSize ∧
      gate.Describes forwarder.nodeId now packet postcard ∧
      forwarder.Queues gate now packet postcard := by
  cases reported : (stampPacket gate forwarder.nodeId now packet).report with
  | none =>
      rw [queuedBy, reported] at queued
      contradiction
  | some record =>
      have whole := queuedBy_of_report reported
      dsimp only at whole
      rw [whole] at queued
      split at queued
      · rename_i accepted
        rw [if_pos accepted] at whole
        rcases Gate.report_stampPacket checked reported with ⟨asked, tag, ingress, egress⟩
        refine ⟨⟨forwarder.postcardHeader gate record now, _⟩, List.mem_singleton.mp queued,
          ⟨Nat.zero_le 15, checked.nextProtocol_le, ingress, egress⟩, ?_,
          ⟨asked, rfl, rfl, rfl, tag, rfl, rfl, gate.capture_stampPacket forwarder.nodeId now⟩,
          rfl, whole⟩
        rw [← Postcard.length_encode]
        exact length_entry_of_isAccepted accepted
      · contradiction

/-- An entry that a batch leaves in the ring is exported when one of its packets passes, behind
the packets that come before it. -/
theorem exists_of_mem_queuedByBatch {forwarder : Forwarder} {gate : Gate} (checked : gate.Checked)
    {now : Nat} {batch : Batch} {raw : Bytes}
    (queued : raw ∈ forwarder.queuedByBatch gate now batch) :
    ∃ earlier packet later, batch = earlier ++ packet :: later ∧
      ∃ postcard : Postcard, raw = postcard.encode ∧ postcard.header.Narrow ∧
        postcard.size ≤ forwarder.maxPostcardSize ∧
        gate.Describes forwarder.nodeId now packet postcard ∧
        (forwarder.passBatch gate now earlier).forwarder.Queues gate now packet postcard := by
  induction batch generalizing forwarder with
  | nil => contradiction
  | cons packet rest ih =>
      rcases List.mem_append.mp queued with first | behind
      · exact ⟨[], packet, rest, rfl, exists_of_mem_queuedBy checked first⟩
      · rcases ih behind with
          ⟨earlier, other, later, rfl, postcard, content, narrow, small, described, queues⟩
        rcases forwarder.forwarder_passPacket gate now packet with ⟨ring, nextSequence, passed⟩
        rw [passed] at small described
        exact ⟨packet :: earlier, other, later, rfl, postcard, content, narrow, small, described,
          queues⟩

/-! ## What leaves the ring on a run -/

/-- The postcards that are evicted in a call. -/
def losing (forwarder : Forwarder) : Call → List Bytes
  | .configure _ => []
  | .process id batch now => forwarder.evictedOn id batch now
  | .emit .. => []

/-- The packets that are emitted in a call. -/
def sending (forwarder : Forwarder) : Call → Batch
  | .configure _ => []
  | .process .. => []
  | .emit allocate allocator limit => (forwarder.emitPostcards allocate allocator limit).batch

/-- A ledger with the postcards that have left the ring: those that were evicted, and the
packets that were made of the others. -/
structure Shipment where
  ledger : Ledger
  lost : List Bytes := []
  sent : Batch := []

namespace Shipment

def enter (shipment : Shipment) (call : Call) : Shipment where
  ledger := shipment.ledger.enter call
  lost := shipment.lost ++ shipment.ledger.forwarder.losing call
  sent := shipment.sent ++ shipment.ledger.forwarder.sending call

/-- The shipment of a run, the first call first. -/
def after (shipment : Shipment) (calls : List Call) : Shipment := calls.foldl enter shipment

/-- The entries that have left the ring, in order. -/
def left (shipment : Shipment) (start : Forwarder) : List Bytes :=
  (start.ring.toList ++ shipment.ledger.accepted).take
    (shipment.ledger.evicted + shipment.ledger.emitted)

/-- Every entry that has left the ring was evicted or sent, and what was sent was sent in
order. -/
structure Settled (start : Forwarder) (shipment : Shipment) : Prop where
  balanced : Ledger.Balanced start shipment.ledger
  divided : (shipment.lost ++ shipment.sent.map Packet.data).Perm (shipment.left start)
  ordered : (shipment.sent.map Packet.data).Sublist (shipment.left start)

/-- What leaves the ring in a call was evicted in the call, or was sent in it. -/
theorem left_enter {start : Forwarder} {shipment : Shipment}
    (balanced : Ledger.Balanced start shipment.ledger) (call : Call) :
    (shipment.enter call).left start =
      shipment.left start ++
        (shipment.ledger.forwarder.losing call ++
          (shipment.ledger.forwarder.sending call).map Packet.data) := by
  have turnover := balanced.turnover
  cases call with
  | configure gates => exact (List.append_nil _).symm
  | process id batch now =>
      have gone := turnover.take_append_take (shipment.ledger.forwarder.queuedOn id batch now)
        (shipment.ledger.forwarder.process id batch now).1.evicted
      rw [losing, evictedOn_eq turnover.laid, sending, List.map_nil, List.append_nil]
      refine Eq.trans ?_ gone.symm
      rw [Nat.add_right_comm]
      rfl
  | emit allocate allocator limit =>
      let emission := shipment.ledger.forwarder.emitPostcards allocate allocator limit
      rcases shipment.ledger.forwarder.emitPostcards_spec allocate allocator limit with
        ⟨-, oldest, -⟩
      have gone := turnover.take_append_take [] emission.batch.length
      rw [List.append_nil, List.append_nil] at gone
      rw [losing, sending, oldest, List.nil_append]
      refine Eq.trans ?_ gone.symm
      rw [Nat.add_assoc]
      rfl

theorem Settled.enter {start : Forwarder} {shipment : Shipment}
    (settled : Settled start shipment) (call : Call) : Settled start (shipment.enter call) := by
  have left := left_enter settled.balanced call
  refine ⟨settled.balanced.enter call, ?_, ?_⟩
  · rw [left, Shipment.enter, List.map_append, List.append_assoc]
    refine ((List.perm_append_comm_assoc _ _ _).append_left _).trans ?_
    rw [← List.append_assoc]
    exact settled.divided.append_right _
  · rw [left, Shipment.enter, List.map_append]
    exact settled.ordered.append (List.sublist_append_right _ _)

theorem Settled.after {start : Forwarder} {shipment : Shipment}
    (settled : Settled start shipment) (calls : List Call) :
    Settled start (shipment.after calls) := by
  induction calls generalizing shipment with
  | nil => exact settled
  | cons call later ih => exact ih (settled.enter call)

end Shipment

/-- The shipment of a run from an unused forwarder. -/
def shipment (nodeId : UInt8) (maxPostcardSize capacity : Nat) (calls : List Call) : Shipment :=
  Shipment.after { ledger := { forwarder := unused nodeId maxPostcardSize capacity } } calls

theorem settled_shipment (nodeId : UInt8) (maxPostcardSize capacity : Nat) (calls : List Call) :
    Shipment.Settled (unused nodeId maxPostcardSize capacity)
      (shipment nodeId maxPostcardSize capacity calls) := by
  apply Shipment.Settled.after
  exact ⟨balanced_ledger nodeId maxPostcardSize capacity [], .refl _, .refl _⟩

/-! ## Where the entries of a run come from -/

/-- A forwarder of a node whose gates are configured. -/
structure Serves (nodeId : UInt8) (maxPostcardSize : Nat) (forwarder : Forwarder) : Prop where
  nodeId_eq : forwarder.nodeId = nodeId
  maxPostcardSize_eq : forwarder.maxPostcardSize = maxPostcardSize
  configured : forwarder.gates.Configured

theorem Serves.enter {nodeId : UInt8} {maxPostcardSize : Nat} {ledger : Ledger}
    (serves : Serves nodeId maxPostcardSize ledger.forwarder) (call : Call)
    (configured : ∀ gates, call = .configure gates → gates.Configured) :
    Serves nodeId maxPostcardSize (ledger.enter call).forwarder := by
  cases call with
  | configure gates => exact ⟨serves.nodeId_eq, serves.maxPostcardSize_eq, configured gates rfl⟩
  | process id batch now =>
      rw [Ledger.enter, process]
      cases registered : ledger.forwarder.gates.find? id with
      | none => exact serves
      | some gate =>
          rcases ledger.forwarder.forwarder_passBatch gate now batch with
            ⟨ring, nextSequence, passed⟩
          let counters := fun before : Gate => before.counters.account batch.length
            (ledger.forwarder.passBatch gate now batch).batch.totalBytes now
          dsimp only
          rw [passed]
          exact ⟨serves.nodeId_eq, serves.maxPostcardSize_eq,
            @GateTable.Configured.count _ id counters serves.configured⟩
  | emit allocate allocator limit =>
      rcases ledger.forwarder.emitPostcards_spec allocate allocator limit with ⟨-, -, left⟩
      rw [Ledger.enter, left]
      exact ⟨serves.nodeId_eq, serves.maxPostcardSize_eq, serves.configured⟩

section Run

variable (nodeId : UInt8) (maxPostcardSize capacity : Nat)

theorem ledger_append (calls later : List Call) :
    ledger nodeId maxPostcardSize capacity (calls ++ later) =
      (ledger nodeId maxPostcardSize capacity calls).after later := List.foldl_append

theorem ledger_shipment (calls : List Call) :
    (shipment nodeId maxPostcardSize capacity calls).ledger =
      ledger nodeId maxPostcardSize capacity calls := by
  induction calls using List.reverseRecOn with
  | nil => rfl
  | append_singleton calls call ih =>
      rw [ledger_append, ← ih, shipment, Shipment.after, List.foldl_append]
      rfl

/-- A run of calls exports a postcard: at some point of the run a gate that was registered then
has processed a batch, and the postcard is about a packet of the batch.  It was exported
when this packet passed, with the number that was next behind the packets before it. -/
def Exports (calls : List Call) (postcard : Postcard) : Prop :=
  ∃ before id earlier packet later now after gate,
    calls = before ++ .process id (earlier ++ packet :: later) now :: after ∧
      let forwarder := (ledger nodeId maxPostcardSize capacity before).forwarder
      forwarder.gates.find? id = some gate ∧ gate.Describes nodeId now packet postcard ∧
        (forwarder.passBatch gate now earlier).forwarder.Queues gate now packet postcard

variable {nodeId maxPostcardSize capacity} in
theorem Exports.append {calls : List Call} {postcard : Postcard}
    (exported : Exports nodeId maxPostcardSize capacity calls postcard) (more : List Call) :
    Exports nodeId maxPostcardSize capacity (calls ++ more) postcard := by
  rcases exported with ⟨before, id, earlier, packet, later, now, after, gate, rfl, event⟩
  refine ⟨before, id, earlier, packet, later, now, after ++ more, gate, ?_, event⟩
  rw [List.append_assoc, List.cons_append]

variable {calls : List Call}
  (configured : ∀ gates, Call.configure gates ∈ calls → gates.Configured)

include configured

theorem serves_ledger :
    Serves nodeId maxPostcardSize (ledger nodeId maxPostcardSize capacity calls).forwarder := by
  induction calls using List.reverseRecOn with
  | nil => exact ⟨rfl, rfl, .empty⟩
  | append_singleton calls call ih =>
      rw [ledger_append]
      apply (ih fun gates member => configured gates (List.mem_append_left _ member)).enter
      rintro gates rfl
      exact configured gates (List.mem_append_right _ (List.mem_singleton_self _))

/-- Every entry that the ring accepts on a run is a postcard that the run exports, and it is
small enough. -/
theorem exports_of_mem_accepted {raw : Bytes}
    (accepted : raw ∈ (ledger nodeId maxPostcardSize capacity calls).accepted) :
    ∃ postcard : Postcard, raw = postcard.encode ∧ postcard.header.Narrow ∧
      postcard.size ≤ maxPostcardSize ∧
      Exports nodeId maxPostcardSize capacity calls postcard := by
  induction calls using List.reverseRecOn with
  | nil => contradiction
  | append_singleton calls call ih =>
      have before : ∀ gates, Call.configure gates ∈ calls → gates.Configured :=
        fun gates member => configured gates (List.mem_append_left _ member)
      have earlier : raw ∈ (ledger nodeId maxPostcardSize capacity calls).accepted →
          ∃ postcard : Postcard, raw = postcard.encode ∧ postcard.header.Narrow ∧
            postcard.size ≤ maxPostcardSize ∧
            Exports nodeId maxPostcardSize capacity (calls ++ [call]) postcard := by
        intro member
        rcases ih before member with ⟨postcard, content, narrow, small, exported⟩
        exact ⟨postcard, content, narrow, small, exported.append [call]⟩
      rw [ledger_append] at accepted
      cases call with
      | configure gates => exact earlier accepted
      | emit allocate allocator limit => exact earlier accepted
      | process id batch now =>
          rcases List.mem_append.mp accepted with member | queued
          · exact earlier member
          · rw [queuedOn] at queued
            split at queued
            · contradiction
            · rename_i gate registered
              have serves := serves_ledger nodeId maxPostcardSize capacity before
              rcases exists_of_mem_queuedByBatch
                  (serves.configured.allChecked id gate registered) queued with
                ⟨first, packet, rest, rfl, postcard, content, narrow, small, described, queues⟩
              rw [serves.nodeId_eq] at described
              rw [serves.maxPostcardSize_eq] at small
              exact ⟨postcard, content, narrow, small, calls, id, first, packet, rest, now, [], gate,
                rfl, registered, described, queues⟩

end Run

/-! ## What a collector reads -/

namespace Shipment

variable {nodeId : UInt8} {maxPostcardSize capacity : Nat} {shipment : Shipment}

/-- As long as the numbers do not begin again, the entries that have left the ring are numbered
from zero on. -/
theorem map_rawNumber_left
    (balanced : Ledger.Balanced (unused nodeId maxPostcardSize capacity) shipment.ledger)
    (few : shipment.ledger.postcards < UInt32.size) :
    (shipment.left (unused nodeId maxPostcardSize capacity)).map Postcard.rawNumber =
      List.range (shipment.left (unused nodeId maxPostcardSize capacity)).length := by
  rw [balanced.postcards] at few
  have all : shipment.ledger.accepted.map Postcard.rawNumber =
      List.range shipment.ledger.accepted.length := by
    have parts : shipment.ledger.accepted.map Postcard.rawNumber =
        (shipment.ledger.accepted.map Postcard.number?).map
          fun number => number.elim 0 UInt32.toNat := by
      rw [List.map_map]
      rfl
    rw [parts, balanced.turnover.numbered_of_zero rfl, List.map_map, List.map_map]
    refine (List.map_congr_left ?_).trans (List.map_id _)
    intro index inside
    exact UInt32.toNat_ofNat_of_lt' (Nat.lt_trans (List.mem_range.mp inside) few)
  have fresh : (unused nodeId maxPostcardSize capacity).ring.toList = [] := rfl
  rw [left, fresh, List.nil_append, List.map_take, all, List.take_range, List.length_take]

/-- The numbers of the postcards that were sent increase, and those between them belong to the
postcards that were evicted. -/
theorem Settled.numbers (settled : Settled (unused nodeId maxPostcardSize capacity) shipment)
    (few : shipment.ledger.postcards < UInt32.size) {postcards evicted : List Postcard}
    (sent : shipment.sent.map Packet.data = postcards.map Postcard.encode)
    (lost : shipment.lost = evicted.map Postcard.encode) :
    (postcards.map Postcard.number).Pairwise (· < ·) ∧
      ((evicted ++ postcards).map Postcard.number).Perm
        (List.range (evicted.length + postcards.length)) := by
  have numbers := map_rawNumber_left settled.balanced few
  have ordered := settled.ordered.map Postcard.rawNumber
  have divided := settled.divided.map Postcard.rawNumber
  have total := settled.divided.length_eq
  rw [sent, Postcard.map_rawNumber_encode, numbers] at ordered
  rw [sent, lost, List.map_append, Postcard.map_rawNumber_encode, Postcard.map_rawNumber_encode,
    numbers] at divided
  rw [sent, lost, List.length_append, List.length_map, List.length_map] at total
  refine ⟨List.pairwise_lt_range.sublist ordered, ?_⟩
  rw [List.map_append, total]
  exact divided

end Shipment

/-- A node whose postcards are small enough for a frame, and whose gates are configured, runs
in any way.  Each packet that it emits can be framed.  Whoever takes the stream of the
frames, in pieces of any size, reads the postcards that the packets hold, in order, and
each of them is one that a gate of the node has exported, with the number that was next
when it did.  Before the numbers begin again, those of the postcards increase.  The numbers
that are left out belong to the postcards that were evicted: with these, every number from
zero on occurs once. -/
theorem shipment_delivered {nodeId : UInt8} {maxPostcardSize capacity : Nat} {calls : List Call}
    (framable : maxPostcardSize ≤ Postcard.maxFramed)
    (configured : ∀ gates, Call.configure gates ∈ calls → gates.Configured) :
    let shipment := shipment nodeId maxPostcardSize capacity calls
    ∃ (postcards evicted : List Postcard) (frames : List Bytes),
      shipment.sent.map Packet.data = postcards.map Postcard.encode ∧
        List.Forall₂ (fun packet framed => Postcard.frame packet.data = .ok framed)
          shipment.sent frames ∧
        (∀ pieces : List Bytes, pieces.flatten = frames.flatten →
          ({} : Postcard.Receiver).readPieces pieces = (.ok postcards, {})) ∧
        (∀ postcard ∈ postcards, Exports nodeId maxPostcardSize capacity calls postcard) ∧
        shipment.lost = evicted.map Postcard.encode ∧
        (shipment.ledger.postcards < UInt32.size →
          (postcards.map Postcard.number).Pairwise (· < ·) ∧
            ((evicted ++ postcards).map Postcard.number).Perm
              (List.range (evicted.length + postcards.length))) := by
  intro shipment
  let start := unused nodeId maxPostcardSize capacity
  have settled : Shipment.Settled start shipment :=
    settled_shipment nodeId maxPostcardSize capacity calls
  have entries : ∀ raw ∈ shipment.left start, ∃ postcard : Postcard, raw = postcard.encode ∧
      (postcard.Framable ∧ Exports nodeId maxPostcardSize capacity calls postcard) := by
    intro raw member
    have accepted : raw ∈ (ledger nodeId maxPostcardSize capacity calls).accepted := by
      rw [← ledger_shipment]
      exact List.mem_of_mem_take member
    rcases exports_of_mem_accepted nodeId maxPostcardSize capacity configured accepted with
      ⟨postcard, content, narrow, small, exported⟩
    exact ⟨postcard, content, ⟨narrow, Nat.le_trans small framable⟩, exported⟩
  rcases Postcard.exists_of_forall fun raw member =>
      entries raw (settled.ordered.subset member) with
    ⟨postcards, sent, delivered⟩
  rcases Postcard.exists_of_forall fun raw member =>
      entries raw (settled.divided.subset (List.mem_append_left _ member)) with
    ⟨evicted, lost, -⟩
  have framables := fun postcard member => (delivered postcard member).1
  rcases Postcard.exists_frames framables with ⟨frames, framed⟩
  refine ⟨postcards, evicted, frames, sent, ?_, ?_,
    fun postcard member => (delivered postcard member).2, lost,
    fun few => settled.numbers few sent lost⟩
  · have raws : List.Forall₂ (fun raw framed => Postcard.frame raw = .ok framed)
        (shipment.sent.map Packet.data) frames := by
      rw [sent, List.forall₂_map_left_iff]
      exact framed.imp fun _ _ first => first.1
    exact List.forall₂_map_left_iff.mp raws
  · intro pieces whole
    rw [Postcard.Receiver.readPieces_eq_ok_iff rfl, whole]
    exact Postcard.Receiver.reads_frames framables framed

/-- Three postcards of eleven bytes come into a ring that has room for two, and one leaves it
in a packet. -/
def threeForTwo : List Call :=
  [.configure (.only (.plain .egress 6 0 0)),
    .process 0 (List.replicate 3 { data := (Block.fresh .exporting).bytes }) 5,
    .emit .unlimited () 1]

theorem configured_threeForTwo :
    ∀ gates, Call.configure gates ∈ threeForTwo → gates.Configured := by
  intro gates member
  rcases List.mem_cons.mp member with same | later
  · cases same
    exact GateTable.configured_only (Gate.checked_plain (by decide))
  · simp only [List.mem_cons, reduceCtorEq, List.not_mem_nil, or_false] at later

theorem sent_threeForTwo :
    (shipment 7 11 22 threeForTwo).ledger.postcards = 3 ∧
      (shipment 7 11 22 threeForTwo).lost.map Postcard.number? = [some 0] ∧
      (shipment 7 11 22 threeForTwo).sent.map (Postcard.number? ·.data) = [some 1] := by
  decide

theorem shipment_delivered_threeForTwo :
    ∃ (postcards evicted : List Postcard) (frames : List Bytes),
      (shipment 7 11 22 threeForTwo).sent.map Packet.data = postcards.map Postcard.encode ∧
        ({} : Postcard.Receiver).readPieces [frames.flatten] = (.ok postcards, {}) ∧
        ((evicted ++ postcards).map Postcard.number).Perm
          (List.range (evicted.length + postcards.length)) := by
  rcases @shipment_delivered 7 11 22 threeForTwo (by decide) configured_threeForTwo with
    ⟨postcards, evicted, frames, sent, -, read, -, -, numbered⟩
  have few : (shipment 7 11 22 threeForTwo).ledger.postcards < UInt32.size := by
    rw [sent_threeForTwo.1]
    decide
  exact ⟨postcards, evicted, frames, sent, read _ (List.append_nil _), (numbered few).2⟩

end Forwarder

end InbandTelemetry
