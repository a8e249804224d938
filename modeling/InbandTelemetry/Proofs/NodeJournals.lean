import InbandTelemetry.Proofs.DriverMoves

namespace InbandTelemetry

/-!
# Journals of a node

What can happen to a node is listed as data: what its owner and the consumers of
its outputs do, moves of the driver, and polls, in which the driver moves until
it has to wait.  A journal keeps what has been sent, what the driver has taken
and what has been delivered, so that no batch can get lost on its way unnoticed.
-/

/-- A batch that the driver has taken from the input, with what it found when it did. -/
structure Taking where
  gated : GatedBatch
  /-- Whether the gate was registered. -/
  registered : Bool
  /-- Whether a slot of the output was held. -/
  slotHeld : Bool

namespace Taking

/-- The number of packets in batches that were taken. -/
def packets : List Taking → Nat
  | [] => 0
  | taking :: later => taking.gated.batch.length + packets later

theorem packets_append (takings later : List Taking) :
    packets (takings ++ later) = packets takings + packets later := by
  induction takings with
  | nil => exact (Nat.zero_add _).symm
  | cons taking rest ih => rw [List.cons_append, packets, packets, ih, Nat.add_assoc]

end Taking

/-! ## Conservation -/

namespace Node.Traffic

/-- Nothing gets lost on the path of the batches: what was sent has been taken or waits,
and what was taken on a registered gate has been delivered or waits, unless the
consumer is gone.  Every packet is counted, and there is room for what waits and
for what the held slot is for. -/
structure Conserves (room : Nat) (sent : List GatedBatch) (taken : List Taking)
    (delivered : List GatedBatch) (traffic : Traffic) : Prop where
  arrived : sent = taken.map Taking.gated ++ traffic.input
  held : ∀ taking ∈ taken, taking.slotHeld = true
  left : traffic.output.closed = false →
    (delivered ++ traffic.output.waiting).map GatedBatch.shape =
      (taken.filter Taking.registered).map fun taking => taking.gated.shape
  batches : traffic.batchesReceived = taken.length
  packets : traffic.packetsReceived = Taking.packets taken
  dropped : traffic.packetsDropped =
    Taking.packets (taken.filter fun taking => !taking.registered)
  balanced : traffic.packetsReceived = traffic.packetsSent + traffic.packetsDropped
  room_eq : traffic.output.room = room
  bounded : traffic.output.waiting.length + traffic.slotHeld.toNat ≤ room

namespace Conserves

variable {room : Nat} {sent : List GatedBatch} {taken : List Taking}
  {delivered : List GatedBatch} {traffic : Traffic}

theorem send (conserves : Conserves room sent taken delivered traffic) (gated : GatedBatch) :
    Conserves room (sent ++ [gated]) taken delivered
      { traffic with input := traffic.input ++ [gated] } :=
  { conserves with
    arrived := by rw [conserves.arrived, List.append_assoc] }

theorem receive (conserves : Conserves room sent taken delivered traffic) {item : GatedBatch}
    {rest : List GatedBatch} (waiting : traffic.output.waiting = item :: rest) :
    Conserves room sent taken (delivered ++ [item])
      { traffic with output := { traffic.output with waiting := rest } } := by
  have left := conserves.left
  have bounded := conserves.bounded
  rw [waiting] at left bounded
  refine { conserves with left := ?_, bounded := ?_ }
  · rw [List.append_assoc]
    exact left
  · rw [List.length_cons] at bounded
    dsimp only
    omega

theorem take (conserves : Conserves room sent taken delivered traffic) :
    Conserves room sent taken delivered { traffic with output := traffic.output.take.2 } :=
  { conserves with }

/-- A consumer that goes away takes the claim with it that everything gets through. -/
theorem close (conserves : Conserves room sent taken delivered traffic) :
    Conserves room sent taken delivered { traffic with output := traffic.output.close } := by
  refine { conserves with left := nofun, bounded := ?_ }
  exact Nat.le_trans (Nat.add_le_add_right (Nat.zero_le _) _) conserves.bounded

theorem hold (conserves : Conserves room sent taken delivered traffic)
    (free : 0 < traffic.output.free) :
    Conserves room sent taken delivered { traffic with slotHeld := true } := by
  refine { conserves with bounded := ?_ }
  rw [Outlet.free, conserves.room_eq] at free
  change traffic.output.waiting.length + 1 ≤ room
  omega

section Process

variable {taking : Taking} {rest : List GatedBatch}

/-- What is taken is the oldest batch that waits. -/
theorem arrived_take (conserves : Conserves room sent taken delivered traffic)
    (waiting : traffic.input = taking.gated :: rest) :
    sent = (taken ++ [taking]).map Taking.gated ++ rest := by
  rw [conserves.arrived, waiting, List.map_append, List.append_assoc]
  rfl

theorem held_take (conserves : Conserves room sent taken delivered traffic)
    (held : taking.slotHeld = true) : ∀ each ∈ taken ++ [taking], each.slotHeld = true := by
  intro each member
  rcases List.mem_append.mp member with before | now
  · exact conserves.held each before
  · rwa [List.mem_singleton.mp now]

theorem batches_take (conserves : Conserves room sent taken delivered traffic) :
    traffic.batchesReceived + 1 = (taken ++ [taking]).length := by
  rw [List.length_append, conserves.batches]
  rfl

theorem packets_take (conserves : Conserves room sent taken delivered traffic) :
    traffic.packetsReceived + taking.gated.batch.length = Taking.packets (taken ++ [taking]) := by
  rw [Taking.packets_append, conserves.packets]
  rfl

/-- A batch that is dropped shows in the counts only. -/
theorem drop (conserves : Conserves room sent taken delivered traffic)
    (waiting : traffic.input = taking.gated :: rest) (held : taking.slotHeld = true)
    (unregistered : taking.registered = false) :
    Conserves room sent (taken ++ [taking]) delivered
      { traffic with
        input := rest
        batchesReceived := traffic.batchesReceived + 1
        packetsReceived := traffic.packetsReceived + taking.gated.batch.length
        packetsDropped := traffic.packetsDropped + taking.gated.batch.length } where
  arrived := conserves.arrived_take waiting
  held := conserves.held_take held
  left := by
    intro connected
    have none : [taking].filter Taking.registered = [] := by
      rw [List.filter_singleton, unregistered]
      rfl
    rw [List.filter_append, none, List.append_nil]
    exact conserves.left connected
  batches := conserves.batches_take
  packets := conserves.packets_take
  dropped := by
    have all : [taking].filter (fun taking => !taking.registered) = [taking] := by
      rw [List.filter_singleton, unregistered]
      rfl
    rw [List.filter_append, Taking.packets_append, all, conserves.dropped]
    rfl
  balanced := by
    have balanced := conserves.balanced
    dsimp only
    omega
  room_eq := conserves.room_eq
  bounded := conserves.bounded

/-- A batch that passes uses the held slot up. -/
theorem pass (conserves : Conserves room sent taken delivered traffic)
    (waiting : traffic.input = taking.gated :: rest) (held : taking.slotHeld = true)
    (registered : taking.registered = true) (holding : traffic.slotHeld = true)
    {passed : GatedBatch} (same : passed.shape = taking.gated.shape) :
    Conserves room sent (taken ++ [taking]) delivered
      { traffic with
        input := rest
        output := traffic.output.push passed
        slotHeld := false
        batchesReceived := traffic.batchesReceived + 1
        packetsReceived := traffic.packetsReceived + taking.gated.batch.length
        packetsSent := traffic.packetsSent + taking.gated.batch.length } where
  arrived := conserves.arrived_take waiting
  held := conserves.held_take held
  left := by
    have one : [taking].filter Taking.registered = [taking] := by
      rw [List.filter_singleton, registered]
      rfl
    rw [Outlet.push]
    split
    · rename_i closed
      intro connected
      rw [closed] at connected
      contradiction
    · intro connected
      calc
        (delivered ++ (traffic.output.waiting ++ [passed])).map GatedBatch.shape =
            (delivered ++ traffic.output.waiting).map GatedBatch.shape ++ [passed.shape] := by
          rw [← List.append_assoc, List.map_append]
          rfl
        _ = (taken.filter Taking.registered).map (fun taking => taking.gated.shape) ++
            [taking.gated.shape] := by
          rw [conserves.left connected, same]
        _ = ((taken ++ [taking]).filter Taking.registered).map fun taking =>
            taking.gated.shape := by
          rw [List.filter_append, one, List.map_append]
          rfl
  batches := conserves.batches_take
  packets := conserves.packets_take
  dropped := by
    have none : [taking].filter (fun taking => !taking.registered) = [] := by
      rw [List.filter_singleton, registered]
      rfl
    rw [List.filter_append, none, List.append_nil]
    exact conserves.dropped
  balanced := by
    have balanced := conserves.balanced
    dsimp only
    omega
  room_eq := by
    rw [Outlet.push]
    split
    · exact conserves.room_eq
    · exact conserves.room_eq
  bounded := by
    have bounded := conserves.bounded
    rw [holding, Bool.toNat_true] at bounded
    -- the room of the slot is what the batch needs
    rw [Outlet.push]
    split
    · exact Nat.le_of_succ_le bounded
    · rw [Bool.toNat_false, List.length_append]
      exact bounded

end Process

end Conserves

end Node.Traffic

/-! ## Histories -/

/-- What a consumer has received. -/
def Received.items {α : Type} : Received α → List α
  | .item found => [found]
  | _ => []

/-- A consumer receives the oldest item, or nothing and leaves everything as it was. -/
theorem Outlet.receive_cases {α : Type} (outlet : Outlet α) (producing : Bool) :
    ((outlet.receive producing).1.items = [] ∧ (outlet.receive producing).2 = outlet) ∨
    ∃ item rest, outlet.waiting = item :: rest ∧
      (outlet.receive producing).1.items = [item] ∧
      (outlet.receive producing).2 = { outlet with waiting := rest } := by
  rw [receive]
  split
  · exact Or.inl ⟨rfl, rfl⟩
  · split
    · rename_i item rest waiting
      exact Or.inr ⟨item, rest, waiting, rfl, rfl⟩
    · left
      split <;> exact ⟨rfl, rfl⟩

/-- The batches that have left the input between two states of a node. -/
def Node.takings (node next : Node) : List Taking :=
  (node.input.take (node.input.length - next.input.length)).map fun gated =>
    ⟨gated, node.forwarder.gates.contains gated.gate, node.slotHeld⟩

/-- What can happen to a node. -/
inductive Event where
  | submit (command : Command)
  | collect
  | send (gated : GatedBatch)
  | takeOutput
  | takePostcards
  | receive
  | receivePostcard
  | tick
  | dropOutput
  | dropPostcards
  | release
  /-- The driver makes a single move, as when its poll is cut short. -/
  | move (arrival departure : Nat)
  | poll (clock : Nat → Nat)

/-- A node, and what has become of its batches so far, oldest first. -/
structure Journal where
  node : Node
  /-- What the input has accepted. -/
  sent : List GatedBatch := []
  taken : List Taking := []
  /-- What the consumer of the output has received. -/
  delivered : List GatedBatch := []

namespace Journal

/-- The journal of a node to which nothing has happened yet. -/
def start (classifier : Classifier) (forwarder : Forwarder) (options : NodeOptions) : Journal :=
  { node := .start classifier forwarder options }

/-- Enter a move that leads to `next`. -/
def advanceTo (journal : Journal) (next : Node) : Journal :=
  { journal with node := next, taken := journal.taken ++ journal.node.takings next }

def move (journal : Journal) (arrival departure : Nat) : Journal :=
  match journal.node.advance arrival departure with
  | none => journal
  | some next => journal.advanceTo next

/-- Enter moves of the driver until it has to wait. -/
def poll (clock : Nat → Nat) (reading : Nat) (journal : Journal) : Journal :=
  match moved : journal.node.advance (clock reading) (clock (reading + 1)) with
  | none => journal
  | some next => poll clock (reading + 2) (journal.advanceTo next)
termination_by journal.node.pending
decreasing_by exact Node.pending_lt_of_advance moved

def happen (journal : Journal) : Event → Journal
  | .submit command =>
      match journal.node.submit command with
      | .ok node => { journal with node }
      | .error _ => journal
  | .collect => { journal with node := journal.node.collect.2 }
  | .send gated =>
      match journal.node.send gated with
      | .ok node => { journal with node, sent := journal.sent ++ [gated] }
      | .error _ => journal
  | .takeOutput => { journal with node := journal.node.takeOutput.2 }
  | .takePostcards => { journal with node := journal.node.takePostcards.2 }
  | .receive =>
      { journal with
        node := journal.node.receive.2
        delivered := journal.delivered ++ journal.node.receive.1.items }
  | .receivePostcard => { journal with node := journal.node.receivePostcard.2 }
  | .tick => { journal with node := journal.node.tick }
  | .dropOutput => { journal with node := journal.node.dropOutput }
  | .dropPostcards => { journal with node := journal.node.dropPostcards }
  | .release => { journal with node := journal.node.release }
  | .move arrival departure => journal.move arrival departure
  | .poll clock => journal.poll clock 0

/-- The journal of a history, the first event first. -/
def after (journal : Journal) (history : List Event) : Journal := history.foldl happen journal

/-! ## Polls -/

section Poll

variable {journal : Journal} {clock : Nat → Nat} {reading : Nat}

theorem poll_of_still
    (still : journal.node.advance (clock reading) (clock (reading + 1)) = none) :
    journal.poll clock reading = journal := by
  rw [poll]
  split
  · rfl
  · rename_i moved
    rw [still] at moved
    contradiction

theorem poll_of_moved {next : Node}
    (moved : journal.node.advance (clock reading) (clock (reading + 1)) = some next) :
    journal.poll clock reading = (journal.advanceTo next).poll clock (reading + 2) := by
  rw [poll]
  split
  · rename_i still
    rw [moved] at still
    contradiction
  · rename_i other same
    cases moved.symm.trans same
    rfl

/-- What every move keeps is kept by a poll. -/
theorem poll_keeps {Holds : Journal → Prop}
    (keeps : ∀ journal next arrival departure, Holds journal →
      journal.node.advance arrival departure = some next → Holds (journal.advanceTo next))
    (holds : Holds journal) : Holds (journal.poll clock reading) := by
  induction reading, journal using poll.induct clock with
  | case1 reading journal still =>
      rw [poll_of_still still]
      exact holds
  | case2 reading journal next moved ih =>
      rw [poll_of_moved moved]
      exact ih (keeps journal next _ _ holds moved)

/-- A poll in the journal is a run of the driver. -/
theorem node_poll (journal : Journal) (clock : Nat → Nat) (reading : Nat) :
    (journal.poll clock reading).node = journal.node.runFrom clock reading := by
  induction reading, journal using poll.induct clock with
  | case1 reading journal still =>
      rw [poll_of_still still, Node.runFrom_of_still still]
  | case2 reading journal next moved ih =>
      rw [poll_of_moved moved, ih, Node.runFrom_of_moved moved]
      rfl

/-- A history that ends with a poll leaves the node behind that run. -/
theorem node_after_poll (journal : Journal) (history : List Event) (clock : Nat → Nat) :
    (journal.after (history ++ [.poll clock])).node = (journal.after history).node.run clock := by
  rw [after, List.foldl_append]
  exact node_poll _ clock 0

end Poll

/-! ## What a history keeps -/

/-- Nothing gets lost in a node whose output has so much room. -/
def Conserved (room : Nat) (journal : Journal) : Prop :=
  Node.Traffic.Conserves room journal.sent journal.taken journal.delivered journal.node.traffic

namespace Conserved

variable {room : Nat} {journal : Journal} {next : Node}

theorem start (classifier : Classifier) (forwarder : Forwarder) (options : NodeOptions) :
    Conserved options.outputRoom (.start classifier forwarder options) :=
  ⟨rfl, nofun, fun _ => rfl, rfl, rfl, rfl, rfl, rfl, Nat.zero_le _⟩

/-- What leaves the path of the batches alone needs no entry. -/
theorem of_traffic (conserved : journal.Conserved room)
    (same : next.traffic = journal.node.traffic) : Conserved room { journal with node := next } := by
  rw [Conserved, same]
  exact conserved

/-- A move that leaves the input alone takes nothing. -/
theorem advanceTo_of_input (same : next.input = journal.node.input) :
    journal.advanceTo next = { journal with node := next } := by
  rw [advanceTo, Node.takings, same, Nat.sub_self, List.take_zero, List.map_nil, List.append_nil]

/-- A batch is taken where it stands in front of what is left. -/
theorem takings_of_input {gated : GatedBatch} {rest : List GatedBatch}
    (waiting : journal.node.input = gated :: rest) (left : next.input = rest) :
    journal.node.takings next =
      [⟨gated, journal.node.forwarder.gates.contains gated.gate, journal.node.slotHeld⟩] := by
  have one : (gated :: rest).length - rest.length = 1 := by
    rw [List.length_cons]
    omega
  rw [Node.takings, waiting, left, one]
  rfl

theorem advance (conserved : journal.Conserved room) {arrival departure : Nat}
    (moved : journal.node.advance arrival departure = some next) :
    (journal.advanceTo next).Conserved room := by
  have step := (Node.move_of_advance moved).2.batchMove
  generalize reached : next.traffic = traffic at step
  -- what the move leaves in the input decides what the journal enters as taken
  have input : next.input = traffic.input := congrArg Node.Traffic.input reached
  cases step with
  | quiet =>
      rw [advanceTo_of_input input]
      exact conserved.of_traffic reached
  | hold free =>
      rw [advanceTo_of_input input, Conserved, reached]
      exact Node.Traffic.Conserves.hold conserved free
  | drop held waiting unregistered =>
      rw [Conserved, advanceTo, takings_of_input waiting input, reached]
      exact Node.Traffic.Conserves.drop conserved waiting held unregistered
  | pass held waiting registered same =>
      rw [Conserved, advanceTo, takings_of_input waiting input, reached]
      refine Node.Traffic.Conserves.pass conserved ?_ held registered held same
      exact waiting

theorem poll (conserved : journal.Conserved room) (clock : Nat → Nat) (reading : Nat) :
    (journal.poll clock reading).Conserved room :=
  poll_keeps (fun _ _ _ _ conserved moved => advance conserved moved) conserved

/-- Whatever happens to a node, nothing gets lost. -/
theorem happen (conserved : journal.Conserved room) (event : Event) :
    (journal.happen event).Conserved room := by
  cases event with
  | submit command =>
      rw [Journal.happen, Node.submit]
      split
      · rename_i node accepted
        split at accepted
        · cases accepted
          exact conserved
        · contradiction
      · exact conserved
  | collect =>
      rw [Journal.happen, Node.collect]
      split <;> exact conserved
  | send gated =>
      rw [Journal.happen, Node.send]
      split
      · rename_i node accepted
        split at accepted
        · contradiction
        · split at accepted
          · cases accepted
            exact Node.Traffic.Conserves.send conserved gated
          · contradiction
      · exact conserved
  | takeOutput => exact Node.Traffic.Conserves.take conserved
  | takePostcards => exact conserved
  | receive =>
      rw [Journal.happen, Node.receive]
      dsimp only
      rcases journal.node.output.receive_cases journal.node.running with
        ⟨nothing, same⟩ | ⟨item, rest, waiting, received, left⟩
      · rw [nothing, same, List.append_nil]
        exact conserved
      · rw [received, left]
        exact Node.Traffic.Conserves.receive conserved waiting
  | receivePostcard => exact conserved
  | tick => exact conserved
  | dropOutput =>
      rw [Journal.happen, Node.dropOutput, Outlet.drop]
      split
      · exact Node.Traffic.Conserves.close conserved
      · exact conserved
  | dropPostcards => exact conserved
  | release =>
      rw [Journal.happen, Node.release, Outlet.abandon]
      split
      · exact conserved
      · exact Node.Traffic.Conserves.close conserved
  | move arrival departure =>
      rw [Journal.happen, Journal.move]
      split
      · exact conserved
      · rename_i next moved
        exact conserved.advance moved
  | poll clock => exact conserved.poll clock 0

theorem after (conserved : journal.Conserved room) (history : List Event) :
    (journal.after history).Conserved room := by
  induction history generalizing journal with
  | nil => exact conserved
  | cons event later ih => exact ih (conserved.happen event)

/-- While the output is full, the driver takes nothing and leaves the output alone. -/
theorem move_of_full (conserved : journal.Conserved room)
    (full : journal.node.output.waiting.length = room) (arrival departure : Nat) :
    (journal.move arrival departure).taken = journal.taken ∧
      (journal.move arrival departure).node.output = journal.node.output := by
  have bounded := conserved.bounded
  change journal.node.output.waiting.length + journal.node.slotHeld.toNat ≤ room at bounded
  have unheld : journal.node.slotHeld ≠ true := by
    intro held
    rw [held, Bool.toNat_true] at bounded
    omega
  rw [move]
  split
  · exact ⟨rfl, rfl⟩
  · rename_i next moved
    have step := (Node.move_of_advance moved).2.batchMove
    generalize reached : next.traffic = traffic at step
    have input : next.input = traffic.input := congrArg Node.Traffic.input reached
    have output : next.output = traffic.output := congrArg Node.Traffic.output reached
    cases step with
    | quiet | hold =>
        rw [advanceTo_of_input input]
        exact ⟨rfl, output⟩
    | drop held => exact absurd held unheld
    | pass held => exact absurd held unheld

end Conserved

/-- Whatever happens to a node, and in whatever order: a batch that was sent waits or has
been taken, and only with a slot held for it.  As long as the output has a consumer,
what has been delivered and what waits there is one batch for each one that was
taken on a registered gate, in order, on the same gate and with as many packets.
All others that were taken have been dropped whole, and every packet is counted.
The output never holds more than it has room for, and while it is full the driver
takes nothing. -/
theorem batches_conserved (classifier : Classifier) (forwarder : Forwarder)
    (options : NodeOptions) (history : List Event) :
    let journal := (start classifier forwarder options).after history
    let node := journal.node
    journal.sent = journal.taken.map Taking.gated ++ node.input ∧
      (∀ taking ∈ journal.taken, taking.slotHeld = true) ∧
      (node.output.closed = false →
        (journal.delivered ++ node.output.waiting).map GatedBatch.shape =
          (journal.taken.filter Taking.registered).map fun taking => taking.gated.shape) ∧
      node.statistics.batchesReceived = journal.taken.length ∧
      node.statistics.packetsReceived = Taking.packets journal.taken ∧
      node.statistics.packetsDropped =
        Taking.packets (journal.taken.filter fun taking => !taking.registered) ∧
      node.statistics.packetsReceived =
        node.statistics.packetsSent + node.statistics.packetsDropped ∧
      node.output.waiting.length ≤ options.outputRoom ∧
      (node.output.waiting.length = options.outputRoom → ∀ arrival departure,
        (journal.move arrival departure).taken = journal.taken ∧
          (journal.move arrival departure).node.output = node.output) := by
  intro journal node
  have conserved : journal.Conserved options.outputRoom :=
    (Conserved.start classifier forwarder options).after history
  exact ⟨conserved.arrived, conserved.held, conserved.left, conserved.batches, conserved.packets,
    conserved.dropped, conserved.balanced, Nat.le_of_add_right_le conserved.bounded,
    conserved.move_of_full⟩

/-- A gate is registered, and three batches come, the first one on another gate.  The
driver makes more moves than it finds. -/
def threeBatches : List Event :=
  [.submit (.addIngress 3 5 0), .send ⟨4, [{ data := [1] }]⟩,
    .send ⟨3, [{ data := [2] }, { data := [3] }]⟩, .send ⟨3, [{ data := [4] }]⟩] ++
    List.replicate 5 (.move 10 20)

theorem conserved_threeBatches :
    let journal := (start {} { ring := .withCapacity 64 } { outputRoom := 1 }).after threeBatches
    (journal.delivered ++ journal.node.output.waiting).map GatedBatch.shape = [(3, 2)] ∧
      journal.node.statistics.packetsReceived = 3 ∧
      journal.node.statistics.packetsDropped = 1 ∧
      journal.node.output.waiting.length = 1 ∧
      ∀ arrival departure, (journal.move arrival departure).taken = journal.taken := by
  intro journal
  have full : journal.node.output.waiting.length = 1 := by decide
  rcases batches_conserved {} { ring := .withCapacity 64 } { outputRoom := 1 } threeBatches with
    ⟨-, -, left, -, packets, dropped, -, -, still⟩
  refine ⟨(left (by decide)).trans (by decide), packets.trans (by decide),
    dropped.trans (by decide), full, ?_⟩
  intro arrival departure
  exact (still full arrival departure).1

end Journal

end InbandTelemetry
