import InbandTelemetry.Node.Access
import InbandTelemetry.Proofs.Stamping

namespace InbandTelemetry

/-!
# Moves of the driver

A move of the driver is one of six: it applies a command, drains for the last time
and stops, drains, stops because the consumer of the output is gone, takes hold
of a slot of the output, or processes a batch.  Where none of them is possible the
driver is still.  Only the last two have to do with batches, so that the path of
the batches through a node can be looked at without its commands and postcards.
-/

theorem Classifier.length_process (classifier : Classifier) (batch : Batch) :
    (classifier.process batch).batch.length = batch.length := by
  induction batch generalizing classifier with
  | nil => rfl
  | cons packet rest ih => exact congrArg Nat.succ (ih (classifier.tag packet).classifier)

/-- What a batch looks like from outside: its gate and how many packets it has. -/
def GatedBatch.shape (gated : GatedBatch) : GateId × Nat := (gated.gate, gated.batch.length)

namespace Node

/-! ## All moves -/

/-- The moves of a driver that runs.  A batch is processed at the two clock readings. -/
inductive Move (arrival departure : Nat) (node : Node) : Node → Prop where
  | command {command : Command} {rest : List Command} (waiting : node.commands = command :: rest) :
      Move arrival departure node ({ node with commands := rest }.applyCommand command)
  | finish (idle : node.commands = []) (released : node.owned = false) :
      Move arrival departure node { node.drain with running := false }
  | drain (idle : node.commands = []) (owned : node.owned = true) (due : node.drainDue = true) :
      Move arrival departure node { node.drain with drainDue := false }
  | giveUp (idle : node.commands = []) (owned : node.owned = true)
      (undue : node.drainDue = false) (unheld : node.slotHeld = false)
      (closed : node.output.closed = true) :
      Move arrival departure node { node with running := false }
  | hold (idle : node.commands = []) (owned : node.owned = true) (undue : node.drainDue = false)
      (unheld : node.slotHeld = false) (connected : node.output.closed = false)
      (room : 0 < node.output.free) :
      Move arrival departure node { node with slotHeld := true }
  | process {gated : GatedBatch} {rest : List GatedBatch} (idle : node.commands = [])
      (owned : node.owned = true) (undue : node.drainDue = false) (held : node.slotHeld = true)
      (waiting : node.input = gated :: rest) :
      Move arrival departure node
        ({ node with input := rest }.processBatch arrival departure gated)

variable {node next : Node} {arrival departure : Nat}

/-- Why a driver makes no move.  It has stopped, or there is neither a command for it nor a
drain due, and then it waits for room in the output, or with a slot in hand for a batch. -/
inductive Still (node : Node) : Prop where
  | stopped (stopped : node.running = false)
  | blocked (idle : node.commands = []) (owned : node.owned = true) (undue : node.drainDue = false)
      (unheld : node.slotHeld = false) (connected : node.output.closed = false)
      (full : node.output.free = 0)
  | starved (idle : node.commands = []) (owned : node.owned = true) (undue : node.drainDue = false)
      (held : node.slotHeld = true) (empty : node.input = [])

/-- What a driver that is asked to move answers. -/
inductive Advances (arrival departure : Nat) (node : Node) : Option Node → Prop where
  | still (still : node.Still) : Advances arrival departure node none
  | moved {next : Node} (running : node.running = true) (move : Move arrival departure node next) :
      Advances arrival departure node (some next)

theorem advances (node : Node) (arrival departure : Nat) :
    Advances arrival departure node (node.advance arrival departure) := by
  rw [advance]
  split
  · rename_i stops
    exact .still (.stopped (by simpa using stops))
  · rename_i runs
    have running : node.running = true := by simpa using runs
    split
    · rename_i command rest waiting
      exact .moved running (.command waiting)
    · rename_i idle
      split
      · rename_i released
        exact .moved running (.finish idle (by simpa using released))
      · rename_i kept
        have owned : node.owned = true := by simpa using kept
        split
        · rename_i due
          exact .moved running (.drain idle owned due)
        · rename_i quiet
          have undue : node.drainDue = false := eq_false_of_ne_true quiet
          split
          · rename_i free
            have unheld : node.slotHeld = false := by simpa using free
            split
            · rename_i closed
              exact .moved running (.giveUp idle owned undue unheld closed)
            · rename_i taking
              have connected : node.output.closed = false := eq_false_of_ne_true taking
              split
              · rename_i full
                exact .still (.blocked idle owned undue unheld connected full)
              · rename_i room
                have free : 0 < node.output.free := Nat.pos_of_ne_zero room
                exact .moved running (.hold idle owned undue unheld connected free)
          · rename_i taken
            have held : node.slotHeld = true := by simpa using taken
            split
            · rename_i empty
              exact .still (.starved idle owned undue held empty)
            · rename_i gated rest waiting
              exact .moved running (.process idle owned undue held waiting)

/-- Everything that the driver does is one of the moves. -/
theorem move_of_advance (moved : node.advance arrival departure = some next) :
    node.running = true ∧ Move arrival departure node next := by
  have advances := node.advances arrival departure
  rw [moved] at advances
  cases advances with
  | moved running move => exact ⟨running, move⟩

theorem still_of_advance (unmoved : node.advance arrival departure = none) : node.Still := by
  have advances := node.advances arrival departure
  rw [unmoved] at advances
  cases advances with
  | still still => exact still

/-- The clock has no part in whether a driver moves. -/
theorem advance_eq_none_iff : node.advance arrival departure = none ↔ node.Still := by
  refine ⟨still_of_advance, ?_⟩
  intro still
  rw [advance]
  cases still with
  | stopped stopped => rw [stopped, if_pos (by decide)]
  | blocked idle owned undue unheld connected full =>
      rw [idle, owned, undue, unheld, connected, full]
      exact ite_self none
  | starved idle owned undue held empty =>
      rw [idle, owned, undue, held, empty]
      exact ite_self none

/-! ## Polls -/

theorem runFrom_of_still {clock : Nat → Nat} {reading : Nat}
    (still : node.advance (clock reading) (clock (reading + 1)) = none) :
    node.runFrom clock reading = node := by
  rw [runFrom]
  split
  · rfl
  · rename_i moved
    rw [still] at moved
    contradiction

theorem runFrom_of_moved {clock : Nat → Nat} {reading : Nat}
    (moved : node.advance (clock reading) (clock (reading + 1)) = some next) :
    node.runFrom clock reading = next.runFrom clock (reading + 2) := by
  rw [runFrom]
  split
  · rename_i still
    rw [moved] at still
    contradiction
  · rename_i other same
    cases moved.symm.trans same
    rfl

/-- A driver that has run until it has to wait makes no further move. -/
theorem still_runFrom (node : Node) (clock : Nat → Nat) (reading : Nat) :
    (node.runFrom clock reading).Still := by
  induction reading, node using runFrom.induct clock with
  | case1 reading node unmoved =>
      rw [runFrom_of_still unmoved]
      exact still_of_advance unmoved
  | case2 reading node next moved ih =>
      rw [runFrom_of_moved moved]
      exact ih

theorem run_of_still (still : node.Still) (clock : Nat → Nat) : node.run clock = node :=
  runFrom_of_still (advance_eq_none_iff.mpr still)

/-! ## The path of the batches -/

/-- The part of a node that batches pass. -/
structure Traffic where
  input : List GatedBatch
  output : Outlet GatedBatch
  slotHeld : Bool
  batchesReceived : Nat
  packetsReceived : Nat
  packetsSent : Nat
  packetsDropped : Nat

def traffic (node : Node) : Traffic where
  input := node.input
  output := node.output
  slotHeld := node.slotHeld
  batchesReceived := node.statistics.batchesReceived
  packetsReceived := node.statistics.packetsReceived
  packetsSent := node.statistics.packetsSent
  packetsDropped := node.statistics.packetsDropped

@[simp] theorem traffic_applyCommand (node : Node) (command : Command) :
    (node.applyCommand command).traffic = node.traffic := by
  rw [applyCommand]
  split <;> rfl

@[simp] theorem traffic_drain (node : Node) : node.drain.traffic = node.traffic := by
  rw [drain]
  split <;> rfl

theorem length_noteArrival (node : Node) (batch : Batch) (now : Nat) :
    (node.noteArrival batch now).length = batch.length := by
  rw [noteArrival]
  split
  · exact List.length_map _
  · rfl

theorem length_noteDeparture (node : Node) (batch : Batch) (now : Nat) :
    (node.noteDeparture batch now).1.length = batch.length := by
  rw [noteDeparture]
  split
  · rfl
  · exact List.length_map _

/-- A batch on a gate that is not registered is dropped whole. -/
theorem traffic_processBatch_of_unregistered (node : Node) {gated : GatedBatch}
    (absent : node.forwarder.gates.find? gated.gate = none) :
    (node.processBatch arrival departure gated).traffic =
      { node.traffic with
        batchesReceived := node.statistics.batchesReceived + 1
        packetsReceived := node.statistics.packetsReceived + gated.batch.length
        packetsDropped := node.statistics.packetsDropped + gated.batch.length } := by
  rw [processBatch, absent]
  simp only [traffic, length_noteArrival]

/-- What the classifier makes of a batch on a gate. -/
def tagging (node : Node) (gate : Gate) (batch : Batch) : Classifier.Tagging :=
  if gate.isIngress then node.classifier.process batch else ⟨node.classifier, batch, 0⟩

theorem length_tagging (node : Node) (gate : Gate) (batch : Batch) :
    (node.tagging gate batch).batch.length = batch.length := by
  rw [tagging]
  split
  · exact node.classifier.length_process batch
  · rfl

/-- What leaves the node when a batch passes a registered gate. -/
def passed (node : Node) (arrival departure : Nat) (gate : Gate) (gated : GatedBatch) :
    GatedBatch :=
  let arrived := node.noteArrival gated.batch arrival
  let outcome := (node.forwarder.process gated.gate (node.tagging gate arrived).batch arrival).1
  ⟨outcome.gate, (node.noteDeparture outcome.batch departure).1⟩

/-- A batch leaves on the gate on which it came, with as many packets. -/
theorem shape_passed {gated : GatedBatch} {gate : Gate}
    (registered : node.forwarder.gates.find? gated.gate = some gate) :
    (node.passed arrival departure gate gated).shape = gated.shape := by
  have left (batch : Batch) :
      (node.forwarder.process gated.gate batch arrival).1.gate = gated.gate := by
    rw [Forwarder.process, registered]
  have length (batch : Batch) :
      (node.forwarder.process gated.gate batch arrival).1.batch.length = batch.length := by
    rw [Forwarder.process_batch registered]
    exact List.length_map _
  rw [GatedBatch.shape, passed]
  dsimp only
  rw [left, length_noteDeparture, length, length_tagging, length_noteArrival]
  rfl

theorem traffic_processBatch_of_registered (node : Node) {gated : GatedBatch} {gate : Gate}
    (registered : node.forwarder.gates.find? gated.gate = some gate) :
    (node.processBatch arrival departure gated).traffic =
      { node.traffic with
        output := node.output.push (node.passed arrival departure gate gated)
        slotHeld := false
        batchesReceived := node.statistics.batchesReceived + 1
        packetsReceived := node.statistics.packetsReceived + gated.batch.length
        packetsSent := node.statistics.packetsSent + gated.batch.length } := by
  have sent : (node.passed arrival departure gate gated).batch.length = gated.batch.length :=
    congrArg Prod.snd (shape_passed registered)
  have whole : (node.processBatch arrival departure gated).traffic =
      { node.traffic with
        output := node.output.push (node.passed arrival departure gate gated)
        slotHeld := false
        batchesReceived := node.statistics.batchesReceived + 1
        packetsReceived :=
          node.statistics.packetsReceived + (node.noteArrival gated.batch arrival).length
        packetsSent :=
          node.statistics.packetsSent +
            (node.passed arrival departure gate gated).batch.length } := by
    rw [processBatch, registered]
    rfl
  rw [whole, length_noteArrival, sent]

/-- What a move can do to the path of the batches: nothing, take hold of a slot, drop a
batch on a gate that is not registered, or let one pass on its gate. -/
inductive BatchMove (node : Node) : Traffic → Prop where
  | quiet : BatchMove node node.traffic
  | hold (free : 0 < node.output.free) : BatchMove node { node.traffic with slotHeld := true }
  | drop {gated : GatedBatch} {rest : List GatedBatch} (held : node.slotHeld = true)
      (waiting : node.input = gated :: rest)
      (unregistered : node.forwarder.gates.contains gated.gate = false) :
      BatchMove node
        { node.traffic with
          input := rest
          batchesReceived := node.statistics.batchesReceived + 1
          packetsReceived := node.statistics.packetsReceived + gated.batch.length
          packetsDropped := node.statistics.packetsDropped + gated.batch.length }
  | pass {gated passed : GatedBatch} {rest : List GatedBatch} (held : node.slotHeld = true)
      (waiting : node.input = gated :: rest)
      (registered : node.forwarder.gates.contains gated.gate = true)
      (same : passed.shape = gated.shape) :
      BatchMove node
        { node.traffic with
          input := rest
          output := node.output.push passed
          slotHeld := false
          batchesReceived := node.statistics.batchesReceived + 1
          packetsReceived := node.statistics.packetsReceived + gated.batch.length
          packetsSent := node.statistics.packetsSent + gated.batch.length }

theorem Move.batchMove (move : Move arrival departure node next) :
    node.BatchMove next.traffic := by
  cases move with
  | command =>
      rw [traffic_applyCommand]
      exact .quiet
  | finish =>
      have same : { node.drain with running := false }.traffic = node.traffic := node.traffic_drain
      rw [same]
      exact .quiet
  | drain =>
      have same : { node.drain with drainDue := false }.traffic = node.traffic :=
        node.traffic_drain
      rw [same]
      exact .quiet
  | giveUp => exact .quiet
  | hold _ _ _ _ _ free => exact .hold free
  | @process gated rest _ _ _ held waiting =>
      let left : Node := { node with input := rest }
      change node.BatchMove (left.processBatch arrival departure gated).traffic
      cases found : node.forwarder.gates.find? gated.gate with
      | none =>
          have absent : node.forwarder.gates.contains gated.gate = false := by
            rw [GateTable.contains, found]
            rfl
          rw [left.traffic_processBatch_of_unregistered found]
          exact .drop held waiting absent
      | some gate =>
          have present : node.forwarder.gates.contains gated.gate = true := by
            rw [GateTable.contains, found]
            rfl
          rw [left.traffic_processBatch_of_registered found]
          exact .pass held waiting present (shape_passed found)

end Node

end InbandTelemetry
