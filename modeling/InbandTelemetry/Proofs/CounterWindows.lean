import Mathlib.Algebra.GroupWithZero.Nat
import InbandTelemetry.Node.Command
import InbandTelemetry.Proofs.Footprints

namespace InbandTelemetry

/-!
# What a gate has counted in a run

A gate counts the batches that come on it, and its counts start again when a batch comes
too long after their window was opened.  So what it has counted is read off from the
history of the batches: the window is a fold over their times, some of them start the
counts again, and those that came since the last of these are counted.  A rate that the
gate writes into a block is what it had counted in front of the current batch.
-/

open Telemetry

/-- A batch that comes on a gate, and when it comes, in microseconds. -/
structure Arrival where
  batch : Batch
  now : Nat

namespace Counters

/-! ## Windows -/

section Windows

variable (interval : Nat)

/-- When the window was opened in which an arrival leaves the counts.  The first arrival
opens one, and so does one that comes more than an interval after the current window
was opened.  An arrival from before that time opens none. -/
def nextWindow (opened : Option Nat) (arrival : Arrival) : Option Nat :=
  match opened with
  | none => some arrival.now
  | some start => some (if interval < arrival.now - start then arrival.now else start)

def windowStart? (arrivals : List Arrival) : Option Nat :=
  arrivals.foldl (nextWindow interval) none

/-- The arrival with an index comes too long after the window was opened, so that the
counts start again. -/
def Restarts (arrivals : List Arrival) (index : Nat) : Prop :=
  ∃ start arrival, windowStart? interval (arrivals.take index) = some start ∧
    arrivals[index]? = some arrival ∧ interval < arrival.now - start

/-- The arrivals from an index on are those behind the last one that started the counts
again, and all of them if none did. -/
structure CountsFrom (arrivals : List Arrival) (first : Nat) : Prop where
  begins : first = 0 ∨ ∃ index, index + 1 = first ∧ Restarts interval arrivals index
  latest : ∀ index, first ≤ index → ¬ Restarts interval arrivals index

/-- What has been counted if the arrivals from an index on are counted. -/
def tally (arrivals : List Arrival) (first : Nat) : Counters where
  packets := min counterLimit ((arrivals.drop first).map fun arrival => arrival.batch.length).sum
  bytes := min counterLimit ((arrivals.drop first).map fun arrival => arrival.batch.totalBytes).sum
  opened := windowStart? interval arrivals
  interval

variable {interval} {arrivals : List Arrival} {index first : Nat}

theorem windowStart?_concat (arrivals : List Arrival) (arrival : Arrival) :
    windowStart? interval (arrivals ++ [arrival]) =
      nextWindow interval (windowStart? interval arrivals) arrival :=
  List.foldl_concat ..

theorem lt_of_restarts (restarts : Restarts interval arrivals index) :
    index < arrivals.length := by
  rcases restarts with ⟨_, _, -, found, -⟩
  exact (List.getElem?_eq_some_iff.mp found).1

theorem restarts_concat_of_lt (earlier : index < arrivals.length) (arrival : Arrival) :
    Restarts interval (arrivals ++ [arrival]) index ↔ Restarts interval arrivals index := by
  rw [Restarts, List.take_append_of_le_length (Nat.le_of_lt earlier),
    List.getElem?_append_left earlier]
  rfl

theorem restarts_concat_self (arrivals : List Arrival) (arrival : Arrival) :
    Restarts interval (arrivals ++ [arrival]) arrivals.length ↔
      ∃ start, windowStart? interval arrivals = some start ∧ interval < arrival.now - start := by
  rw [Restarts, List.take_left, List.getElem?_concat_length]
  constructor
  · rintro ⟨start, _, opened, ⟨rfl⟩, late⟩
    exact ⟨start, opened, late⟩
  · rintro ⟨start, opened, late⟩
    exact ⟨start, arrival, opened, rfl, late⟩

theorem CountsFrom.first_le (counts : CountsFrom interval arrivals first) :
    first ≤ arrivals.length := by
  rcases counts.begins with rfl | ⟨index, rfl, restarts⟩
  · exact Nat.zero_le _
  · exact lt_of_restarts restarts

theorem countsFrom_nil : CountsFrom interval [] 0 :=
  ⟨Or.inl rfl, fun _ _ restarts => absurd (lt_of_restarts restarts) (Nat.not_lt_zero _)⟩

/-- An arrival that starts the counts again is not counted itself. -/
theorem CountsFrom.of_restarts {arrival : Arrival}
    (restarts : Restarts interval (arrivals ++ [arrival]) arrivals.length) :
    CountsFrom interval (arrivals ++ [arrival]) (arrivals.length + 1) := by
  refine ⟨Or.inr ⟨arrivals.length, rfl, restarts⟩, ?_⟩
  intro index behind again
  have inside := lt_of_restarts again
  rw [List.length_append, List.length_singleton] at inside
  omega

/-- Every other arrival is counted with those before it. -/
theorem CountsFrom.concat (counts : CountsFrom interval arrivals first) {arrival : Arrival}
    (goesOn : ¬ Restarts interval (arrivals ++ [arrival]) arrivals.length) :
    CountsFrom interval (arrivals ++ [arrival]) first := by
  refine ⟨?_, ?_⟩
  · rcases counts.begins with all | ⟨index, last, restarts⟩
    · exact Or.inl all
    · exact Or.inr ⟨index, last,
        (restarts_concat_of_lt (lt_of_restarts restarts) arrival).mpr restarts⟩
  · intro index behind restarts
    have inside := lt_of_restarts restarts
    rw [List.length_append, List.length_singleton] at inside
    -- an earlier arrival did what it did before, and the last one goes on with the window
    rcases Nat.lt_succ_iff_lt_or_eq.mp inside with earlier | rfl
    · exact counts.latest index behind ((restarts_concat_of_lt earlier arrival).mp restarts)
    · exact goesOn restarts

/-! ## One arrival -/

/-- A sum that stops at a limit after every summand is the whole sum, stopped once. -/
theorem min_min_add (limit total more : Nat) :
    min (min limit total + more) limit = min limit (total + more) := by
  omega

/-- Counting an arrival that goes on with a window. -/
theorem tally_concat (counts : CountsFrom interval arrivals first) (arrival : Arrival) :
    tally interval (arrivals ++ [arrival]) first =
      { tally interval arrivals first with
        packets := min ((tally interval arrivals first).packets + arrival.batch.length) counterLimit
        bytes := min ((tally interval arrivals first).bytes + arrival.batch.totalBytes) counterLimit
        opened := windowStart? interval (arrivals ++ [arrival]) } := by
  simp only [tally, List.drop_append_of_le_length counts.first_le, List.map_append, List.map_cons,
    List.map_nil, List.sum_append, List.sum_singleton, min_min_add]

/-- An arrival is counted in the history that it makes longer. -/
theorem account_tally (counts : CountsFrom interval arrivals first) (arrival : Arrival) :
    ∃ next, CountsFrom interval (arrivals ++ [arrival]) next ∧
      (tally interval arrivals first).account arrival.batch.length arrival.batch.totalBytes
          arrival.now =
        tally interval (arrivals ++ [arrival]) next := by
  by_cases restarts : Restarts interval (arrivals ++ [arrival]) arrivals.length
  · refine ⟨_, .of_restarts restarts, ?_⟩
    rcases (restarts_concat_self arrivals arrival).mp restarts with ⟨start, opened, late⟩
    have nothing : (arrivals ++ [arrival]).drop (arrivals.length + 1) = [] :=
      List.drop_of_length_le (Nat.le_of_eq List.length_append)
    simp only [account, tally, opened, if_pos late, windowStart?_concat, nextWindow, nothing]
    rfl
  · refine ⟨first, counts.concat restarts, ?_⟩
    rw [tally_concat counts, windowStart?_concat]
    cases opened : windowStart? interval arrivals with
    | none => simp only [account, tally, opened, nextWindow]
    | some start =>
        have soon : ¬ interval < arrival.now - start := fun late =>
          restarts ((restarts_concat_self arrivals arrival).mpr ⟨start, opened, late⟩)
        simp only [account, tally, opened, if_neg soon, nextWindow]

end Windows

end Counters

namespace Gate

/-! ## Rates -/

/-- Whether a metric is a rate that gates of this direction measure. -/
def measuresRate (gate : Gate) (metric : Metric) : Bool :=
  match gate.direction with
  | .ingress => metric.isIngressRate
  | .egress => metric.isEgressRate

/-- The count that a rate is read from. -/
def counted (gate : Gate) (metric : Metric) : Nat :=
  if metric.isByteRate then gate.counters.bytes else gate.counters.packets

theorem toNat_reading (count : Nat) : (reading count).toNat = min count 65535 := by
  rw [reading, UInt16.toNat_ofNat', Nat.mod_eq_of_lt (by omega)]

variable {gate : Gate} {nodeId : UInt8} {packet : Packet} {block : Block} {metric : Metric}

theorem measure_of_rate (rate : gate.measuresRate metric = true) (completing : Bool) (now : Nat)
    (value : UInt16) :
    gate.measure (some metric) completing now value = reading (gate.counted metric) := by
  rw [measuresRate] at rate
  cases side : gate.direction with
  | ingress =>
      rw [side] at rate
      have enters : gate.isIngress = true := decide_eq_true side
      cases metric with
      | latency | egressPacketRate | egressByteRate => contradiction
      | ingressPacketRate | ingressByteRate =>
          simp only [measure, enters, Metric.isIngressRate, if_true, counted]
  | egress =>
      rw [side] at rate
      have leaves : gate.isIngress = false := by
        rw [isIngress, side]
        rfl
      cases metric with
      | latency | ingressPacketRate | ingressByteRate => contradiction
      | egressPacketRate | egressByteRate =>
          simp only [measure, leaves, Metric.isIngressRate, if_true, counted]

theorem nodeId_begun (nodeId : UInt8) (openRecord : Option Nat) (block : Block) :
    (gate.begun nodeId openRecord block).nodeId = nodeId := by
  by_cases completing : gate.completes nodeId openRecord block = true
  · rcases begun_of_completes completing with ⟨_, old, -, -, -, own, -, resumed⟩
    rw [resumed, nodeId_label, own]
  · rw [(begun_of_not_completes completing).2, nodeId_label]
    rfl

/-- In a block that is not full a gate finds room for its record. -/
theorem recordIndex_lt_of_count_lt (nodeId : UInt8) (openRecord : Option Nat)
    (unfilled : block.count < Block.maxRecords) :
    gate.recordIndex nodeId openRecord block < Block.maxRecords := by
  rw [recordIndex]
  split
  · exact Nat.lt_of_le_of_lt (Nat.sub_le _ _) unfilled
  · exact unfilled

/-- A packet carries a block that asks for a rate of the gate, and in which the gate finds
room for its record.  The block may have become full when the record was opened. -/
structure MeetsRate (gate : Gate) (nodeId : UInt8) (packet : Packet) (block : Block)
    (metric : Metric) : Prop where
  carried : Block.at? packet.data gate.readAt = some block
  room : gate.recordIndex nodeId packet.metadata.openRecord block < Block.maxRecords
  kept : gate.exports block = false
  asked : block.header.metric? = some metric
  rate : gate.measuresRate metric = true

/-- A packet carries a stamped block in which the record of the gate has this value, or did
before the overlay of the gate was written over it. -/
def ShowsRate (gate : Gate) (nodeId : UInt8) (packet passed : Packet) (block : Block)
    (value : Nat) : Prop :=
  ∃ stamped record,
    stamped.record? (gate.recordIndex nodeId packet.metadata.openRecord block) = some record ∧
      record.nodeId = nodeId ∧ record.value.toNat = value ∧
      passed.data =
        gate.relocate (Bytes.overwrite packet.data gate.readAt (Block.bytes stamped)) ∧
      (gate.Spares (gate.leavesAt packet.data.length) →
        Block.at? passed.data (gate.leavesAt packet.data.length) = some stamped)

theorem showsRate_forward (meets : gate.MeetsRate nodeId packet block metric) (now : Nat) :
    gate.ShowsRate nodeId packet (gate.forward nodeId now packet) block
      (min 65535 (gate.counted metric)) := by
  let stamp := gate.stamp nodeId packet.metadata.openRecord now block
  have measured : gate.value nodeId packet.metadata.openRecord now block =
      reading (gate.counted metric) := by
    rw [value, meets.kept, if_neg Bool.false_ne_true, meets.asked, measure_of_rate meets.rate]
  have written := record?_stamp nodeId packet.metadata.openRecord now block meets.room
  have forwarded := gate.forward_eq nodeId now packet
  rw [meets.carried] at forwarded
  refine ⟨stamp.block, _, written, ?_, ?_, ?_, ?_⟩
  · exact nodeId_begun nodeId packet.metadata.openRecord block
  · rw [HopRecord.stored, measured, toNat_reading, Nat.min_comm]
  · rw [forwarded]
    rfl
  · intro spares
    exact at?_forward meets.carried spares nodeId now

/-- Between two states of a gate its configuration may have changed, but neither its
direction nor its counts. -/
structure Retains (gate later : Gate) : Prop where
  direction_eq : later.direction = gate.direction
  counters_eq : later.counters = gate.counters
  addressable : (∀ overlay ∈ gate.overlay, overlay.Addressable) →
    ∀ overlay ∈ later.overlay, overlay.Addressable

theorem Retains.refl (gate : Gate) : gate.Retains gate := ⟨rfl, rfl, id⟩

end Gate

/-! ## Commands -/

namespace GateTable

variable {table later : GateTable} {id other : GateId} {gate : Gate}

/-- A change of one gate that retains what it finds. -/
theorem retains_configure {change : Gate → Gate} (found : table.find? id = some gate)
    (success : table.configure other change = .ok later)
    (retains : ∀ gate : Gate, gate.Retains (change gate)) :
    ∃ next, later.find? id = some next ∧ gate.Retains next := by
  rw [configure] at success
  split at success
  · cases success
    rw [find?_modify, found]
    split
    · exact ⟨_, rfl, retains gate⟩
    · exact ⟨_, rfl, .refl gate⟩
  · contradiction

/-- A gate that is registered stays what it is when another one is. -/
theorem find?_register {direction : Direction} {reportId : UInt8} {interval : Nat}
    (found : table.find? id = some gate)
    (success : table.register other direction reportId interval = .ok later) :
    later.find? id = some gate := by
  rw [register] at success
  split at success
  · contradiction
  · split at success
    · rename_i absent
      cases success
      rw [find?_insert, if_neg, found]
      rintro rfl
      rw [found] at absent
      contradiction
    · contradiction

end GateTable

namespace Command

/-- The positions of overlays are 64-bit words. -/
def Addressable : Command → Prop
  | .setOverlay _ position _ => position < wordBound
  | _ => True

/-- A command that is carried out retains every gate, unless it removes all of them. -/
theorem retains_changeGates {command : Command} {gates later : GateTable} {id : GateId}
    {gate : Gate} (found : gates.find? id = some gate) (keeps : command ≠ .clearGates)
    (addressable : command.Addressable) (success : command.changeGates gates = .ok later) :
    ∃ next, later.find? id = some next ∧ gate.Retains next := by
  cases command with
  | addFlows | clearFlows =>
      cases success
      exact ⟨gate, found, .refl gate⟩
  | addGate other number reportId interval =>
      rw [changeGates] at success
      split at success
      · contradiction
      · exact ⟨gate, GateTable.find?_register found success, .refl gate⟩
  | setPositions other readAt writeAt =>
      exact GateTable.retains_configure found success fun _ => ⟨rfl, rfl, fun words => words⟩
  | setPostcard other truncateAt nextProtocol =>
      rw [changeGates, GateTable.setPostcard] at success
      split at success
      · contradiction
      · exact GateTable.retains_configure found success fun _ => ⟨rfl, rfl, fun words => words⟩
  | setOverlay other position content =>
      rw [changeGates, GateTable.setOverlay] at success
      split at success
      · contradiction
      · rename_i short
        refine GateTable.retains_configure found success fun _ => ⟨rfl, rfl, fun _ => ?_⟩
        intro overlay laid
        dsimp only at laid
        split at laid
        · cases laid
        · cases laid
          refine ⟨addressable, Nat.lt_of_le_of_lt (Nat.le_of_not_lt short) ?_⟩
          decide
  | clearGates => exact absurd rfl keeps

end Command

/-! ## Runs -/

namespace Forwarder

/-- A run of a forwarder in which a gate is in service, and the batches that have come on the
gate so far, the first one first. -/
inductive InService (id : GateId) (direction : Direction) (interval : Nat) :
    List Arrival → Forwarder → Prop where
  | registered {forwarder : Forwarder} {gates : GateTable} {reportId : UInt8} :
      forwarder.gates.register id direction reportId interval = .ok gates →
      InService id direction interval [] { forwarder with gates }
  | arrived {arrivals : List Arrival} {forwarder : Forwarder} (batch : Batch) (now : Nat) :
      InService id direction interval arrivals forwarder →
      InService id direction interval (arrivals ++ [⟨batch, now⟩])
        (forwarder.process id batch now).2
  | elsewhere {arrivals : List Arrival} {forwarder : Forwarder} {other : GateId} (batch : Batch)
      (now : Nat) : other ≠ id → InService id direction interval arrivals forwarder →
      InService id direction interval arrivals (forwarder.process other batch now).2
  /-- Postcards leave the ring, in an emission or a drain. -/
  | ringChanged {arrivals : List Arrival} {forwarder : Forwarder} (ring : Ring) :
      InService id direction interval arrivals forwarder →
      InService id direction interval arrivals { forwarder with ring }
  | commanded {arrivals : List Arrival} {forwarder : Forwarder} {command : Command}
      {gates : GateTable} : command ≠ .clearGates → command.Addressable →
      command.changeGates forwarder.gates = .ok gates →
      InService id direction interval arrivals forwarder →
      InService id direction interval arrivals { forwarder with gates }

/-- A batch on one gate leaves the others alone. -/
theorem find?_process_of_ne {id other : GateId} (different : other ≠ id) (forwarder : Forwarder)
    (batch : Batch) (now : Nat) :
    (forwarder.process other batch now).2.gates.find? id = forwarder.gates.find? id := by
  cases registered : forwarder.gates.find? other with
  | none => rw [process, registered]
  | some gate =>
      rcases forwarder_process_of_registered registered batch now with ⟨_, _, touched⟩
      rw [touched]
      dsimp only
      rw [GateTable.find?_modify, if_neg (Ne.symm different)]

/-- What holds of a gate in service. -/
structure Keeps (id : GateId) (direction : Direction) (interval : Nat)
    (arrivals : List Arrival) (forwarder : Forwarder) (gate : Gate) : Prop where
  found : forwarder.gates.find? id = some gate
  direction_eq : gate.direction = direction
  addressable : ∀ overlay ∈ gate.overlay, overlay.Addressable
  counts : ∃ first, Counters.CountsFrom interval arrivals first ∧
    gate.counters = Counters.tally interval arrivals first

section InService

variable {id : GateId} {direction : Direction} {interval : Nat} {arrivals : List Arrival}
variable {forwarder later : Forwarder} {gate next : Gate}

theorem Keeps.of_retains (keeps : Keeps id direction interval arrivals forwarder gate)
    (found : later.gates.find? id = some next) (retains : gate.Retains next) :
    Keeps id direction interval arrivals later next :=
  ⟨found, retains.direction_eq.trans keeps.direction_eq, retains.addressable keeps.addressable,
    retains.counters_eq ▸ keeps.counts⟩

theorem Keeps.arrived (keeps : Keeps id direction interval arrivals forwarder gate)
    (batch : Batch) (now : Nat) :
    Keeps id direction interval (arrivals ++ [⟨batch, now⟩]) (forwarder.process id batch now).2
      { gate with counters := gate.counters.account batch.length batch.totalBytes now } := by
  have words : ∀ gate ∈ forwarder.gates.find? id, ∀ overlay ∈ gate.overlay, overlay.Addressable := by
    rintro other same
    cases keeps.found.symm.trans same
    exact keeps.addressable
  rcases (process_leaves words batch now).2 gate keeps.found with ⟨-, -, -, -, -, counted, -⟩
  refine ⟨counted, keeps.direction_eq, keeps.addressable, ?_⟩
  rcases keeps.counts with ⟨first, counts, tallied⟩
  rcases Counters.account_tally counts ⟨batch, now⟩ with ⟨next, followed, added⟩
  exact ⟨next, followed, tallied ▸ added⟩

theorem exists_keeps (service : InService id direction interval arrivals forwarder) :
    ∃ gate, Keeps id direction interval arrivals forwarder gate := by
  induction service with
  | @registered forwarder gates reportId success =>
      rw [GateTable.register] at success
      split at success
      · contradiction
      · split at success
        · rename_i absent
          cases success
          refine ⟨.fresh direction reportId interval, ?_, rfl, ?_, 0, Counters.countsFrom_nil, rfl⟩
          · rw [GateTable.find?_insert, if_pos rfl]
          · intro overlay impossible
            cases impossible
        · contradiction
  | arrived batch now _ ih =>
      rcases ih with ⟨gate, keeps⟩
      exact ⟨_, keeps.arrived batch now⟩
  | elsewhere batch now different _ ih =>
      rcases ih with ⟨gate, keeps⟩
      refine ⟨gate, keeps.of_retains ?_ (.refl gate)⟩
      rw [find?_process_of_ne different, keeps.found]
  | ringChanged ring _ ih =>
      rcases ih with ⟨gate, keeps⟩
      exact ⟨gate, keeps.of_retains keeps.found (.refl gate)⟩
  | commanded keepsGates addressable success _ ih =>
      rcases ih with ⟨gate, keeps⟩
      rcases Command.retains_changeGates keeps.found keepsGates addressable success with
        ⟨next, found, retains⟩
      exact ⟨next, keeps.of_retains found retains⟩

/-- A gate in service has counted the batches since the last one that started its counts
again, and its window was opened when the last such batch came, or else the first one.
Whatever batch comes next, each of its packets that carries a block which asks for a rate
of the gate is handed on with the count before that batch, as far as 16 bits go. -/
theorem counts_reported (service : InService id direction interval arrivals forwarder) :
    ∃ gate first, forwarder.gates.find? id = some gate ∧ gate.direction = direction ∧
      Counters.CountsFrom interval arrivals first ∧
      gate.counters =
        { packets := min counterLimit
            ((arrivals.drop first).map fun arrival => arrival.batch.length).sum
          bytes := min counterLimit
            ((arrivals.drop first).map fun arrival => arrival.batch.totalBytes).sum
          opened := Counters.windowStart? interval arrivals
          interval } ∧
      ∀ (batch : Batch) (now index : Nat) (packet : Packet) (block : Block) (metric : Metric),
        batch[index]? = some packet → gate.MeetsRate forwarder.nodeId packet block metric →
        ∃ passed, (forwarder.process id batch now).1.batch[index]? = some passed ∧
          gate.ShowsRate forwarder.nodeId packet passed block
            (min 65535 (if metric.isByteRate then gate.counters.bytes
              else gate.counters.packets)) := by
  rcases exists_keeps service with ⟨gate, keeps⟩
  rcases keeps.counts with ⟨first, counts, tallied⟩
  refine ⟨gate, first, keeps.found, keeps.direction_eq, counts, tallied, ?_⟩
  intro batch now index packet block metric member meets
  refine ⟨gate.forward forwarder.nodeId now packet, ?_, Gate.showsRate_forward meets now⟩
  rw [process_batch keeps.found, List.getElem?_map, member, Option.map_some]

end InService

/-- The batches of a gate whose third one comes too late for its window, and whose second and
fourth ones come before it was opened. -/
def unevenArrivals : List Arrival :=
  [⟨[{ data := [1] }], 100⟩, ⟨[{ data := [2] }], 90⟩, ⟨[{ data := [3] }], 120⟩,
    ⟨[{ data := [4] }, { data := [5, 6] }], 60⟩]

/-- A forwarder with an ingress gate on which these batches have come. -/
def unevenForwarder : Forwarder :=
  let gates : GateTable := .only { Gate.fresh .ingress 3 10 with readAt := 0, writeAt := 0 }
  unevenArrivals.foldl (fun forwarder arrival => (forwarder.process 0 arrival.batch arrival.now).2)
    { nodeId := 7, ring := .withCapacity 0, gates }

theorem inService_unevenForwarder : InService 0 .ingress 10 unevenArrivals unevenForwarder := by
  have start : InService 0 .ingress 10 []
      { nodeId := 7, ring := .withCapacity 0, gates := .only (.fresh .ingress 3 10) } :=
    @InService.registered 0 .ingress 10 { nodeId := 7, ring := .withCapacity 0 } _ 3 rfl
  have placed := @InService.commanded 0 .ingress 10 [] _ (.setPositions 0 0 0) _ nofun trivial rfl
    start
  exact .arrived _ 60 (.arrived _ 120 (.arrived _ 90 (.arrived _ 100 placed)))

theorem counts_reported_unevenForwarder :
    ∃ passed block record,
      (unevenForwarder.process 0 [{ data := (Block.fresh (.request .ingressPacketRate)).bytes }]
        300).1.batch[0]? = some passed ∧
        Block.at? passed.data 0 = some block ∧ block.record? 0 = some record ∧
        record.value.toNat = 2 := by
  rcases counts_reported inService_unevenForwarder with ⟨gate, _, found, -, -, -, reported⟩
  have known : unevenForwarder.gates.find? 0 =
      some { Gate.fresh .ingress 3 10 with
        readAt := 0, writeAt := 0, counters := ⟨2, 3, some 120, 10⟩ } := by
    decide
  cases found.symm.trans known
  rcases reported [{ data := (Block.fresh (.request .ingressPacketRate)).bytes }] 300 0 _
      (Block.fresh (.request .ingressPacketRate)) .ingressPacketRate rfl
      ⟨by decide, Gate.recordIndex_lt_of_count_lt 7 none (by decide), by decide, by decide,
        by decide⟩ with
    ⟨passed, emerged, block, record, written, -, shown, -, carried⟩
  exact ⟨passed, block, record, emerged, carried nofun, written, shown⟩

end Forwarder

end InbandTelemetry
