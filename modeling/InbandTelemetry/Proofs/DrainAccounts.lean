import InbandTelemetry.Proofs.NodeSteps
import InbandTelemetry.Proofs.PostcardAccounts

namespace InbandTelemetry

/-!
# Postcards on their way out of a node

A drain takes postcards out of the ring and then sends them.  So it must not take more
than the output has room for, or some would be lost in between.  It does not: every
postcard that a drain takes is sent, and it takes none if nobody is there to receive.
Along a history of a node, the postcards that were queued have been evicted, have been
sent or are in the ring.
-/

namespace Outlet

variable {α : Type}

/-- Add an item if there is a consumer and room. -/
def trySend? (outlet : Outlet α) (item : α) : Option (Outlet α) :=
  if outlet.closed || outlet.free == 0 then none else some (outlet.push item)

/-- Items for which there is room are sent one after the other, and none is refused. -/
theorem foldlM_trySend? {outlet : Outlet α} (connected : outlet.closed = false) {items : List α}
    (room : items.length ≤ outlet.free) :
    items.foldlM trySend? outlet =
      some { outlet with waiting := outlet.waiting ++ items } := by
  induction items generalizing outlet with
  | nil =>
      rw [List.append_nil]
      rfl
  | cons item rest ih =>
      rw [List.length_cons] at room
      have first : outlet.trySend? item =
          some { outlet with waiting := outlet.waiting ++ [item] } := by
        have some_room : (outlet.free == 0) = false := beq_false_of_ne (by omega)
        rw [trySend?, connected, some_room, Bool.or_self, if_neg (by decide), push, connected,
          if_neg (by decide)]
      have smaller : rest.length ≤
          free { outlet with waiting := outlet.waiting ++ [item] } := by
        simp only [free, List.length_append, List.length_singleton] at room ⊢
        omega
      have others := @ih { outlet with waiting := outlet.waiting ++ [item] } connected smaller
      rw [List.foldlM_cons, first, Option.bind_eq_bind, Option.bind_some, others,
        List.append_assoc, List.singleton_append]

/-- What can be sent is what would be added. -/
theorem foldl_push_of_foldlM_trySend? {outlet later : Outlet α} {items : List α}
    (sent : items.foldlM trySend? outlet = some later) : items.foldl push outlet = later := by
  induction items generalizing outlet with
  | nil => exact Option.some.inj sent
  | cons item rest ih =>
      rw [List.foldlM_cons, Option.bind_eq_bind, Option.bind_eq_some_iff] at sent
      rcases sent with ⟨next, first, others⟩
      rw [trySend?] at first
      split at first
      · contradiction
      · cases first
        exact ih others

end Outlet

namespace Forwarder

/-- With packets for all of them, an emission moves as many postcards as it may and as there
are. -/
theorem length_emitPostcards_unlimited (forwarder : Forwarder) (limit : Nat) :
    (forwarder.emitPostcards .unlimited () limit).batch.length = min limit forwarder.ring.size := by
  rw [emitPostcards_unlimited]
  exact forwarder.length_oldestPackets limit

end Forwarder

namespace Node

/-! ## One drain -/

/-- The number of postcards that a drain takes. -/
def drainable (node : Node) : Nat :=
  if node.postcards.closed then 0
  else min (min node.drainLimit node.postcards.free) node.forwarder.ring.size

/-- A drain takes the oldest postcards out of the ring and sends each of them. -/
theorem drain_eq (node : Node) :
    ∃ batch : Batch, batch.length = node.drainable ∧
      batch.map Packet.data = node.forwarder.ring.toList.take node.drainable ∧
      batch.foldlM Outlet.trySend? node.postcards = some node.drain.postcards ∧
      node.drain =
        { node with
          forwarder := { node.forwarder with
            ring := { node.forwarder.ring with
              queue := node.forwarder.ring.queue.drop node.drainable } }
          postcards := { node.postcards with waiting := node.postcards.waiting ++ batch }
          statistics := { node.statistics with
            postcardsSent := node.statistics.postcardsSent + node.drainable } } := by
  cases gone : node.postcards.closed with
  | true =>
      have none : node.drainable = 0 := if_pos gone
      have same : node.drain = node := if_pos gone
      refine ⟨[], none.symm, by rw [none]; rfl, by rw [same]; rfl, ?_⟩
      rw [same, none, List.append_nil]
      rfl
  | false =>
      have number : node.drainable =
          min (min node.drainLimit node.postcards.free) node.forwarder.ring.size :=
        if_neg (by simp [gone])
      let limit := min node.drainLimit node.postcards.free
      rcases node.forwarder.emitPostcards_spec .unlimited () limit with ⟨-, oldest, left⟩
      have size := node.forwarder.length_emitPostcards_unlimited limit
      rw [← number] at size
      rw [size] at oldest left
      have room : (node.forwarder.emitPostcards .unlimited () limit).batch.length ≤
          node.postcards.free := by
        omega
      have sent := Outlet.foldlM_trySend? gone room
      have whole : node.drain =
          { node with
            forwarder := (node.forwarder.emitPostcards .unlimited () limit).forwarder
            postcards :=
              (node.forwarder.emitPostcards .unlimited () limit).batch.foldl Outlet.push
                node.postcards
            statistics := { node.statistics with
              postcardsSent := node.statistics.postcardsSent +
                (node.forwarder.emitPostcards .unlimited () limit).batch.length } } := by
        rw [drain, gone]
        rfl
      rw [Outlet.foldl_push_of_foldlM_trySend? sent, left, size] at whole
      refine ⟨_, size, oldest, ?_, whole⟩
      rw [sent, whole]

/-! ## The accounts of a node -/

/-- What a node counts agrees with what its ring has accepted since `start` and with what it
has sent, and what it has sent are some of the postcards that have left the ring, in
order. -/
structure Accounts (start : Forwarder) (accepted : List Bytes) (sent : List Packet)
    (forwarder : Forwarder) (statistics : NodeStatistics) : Prop where
  turnover : start.Turnover forwarder accepted (statistics.postcardsEvicted + sent.length)
  generated : statistics.postcardsGenerated = accepted.length
  counted : statistics.postcardsSent = sent.length
  ordered : (sent.map Packet.data).Sublist
    (accepted.take (statistics.postcardsEvicted + sent.length))

/-- The postcards that a step sends. -/
def Step.sentPostcards (step : Step) : List Packet :=
  step.after.postcards.waiting.drop step.before.postcards.waiting.length

theorem Step.sentPostcards_of_le {step : Step}
    (fewer : step.after.postcards.waiting.length ≤ step.before.postcards.waiting.length) :
    step.sentPostcards = [] := List.drop_eq_nil_of_le fewer

/-- A step sends nothing, or it sends the oldest postcards of the ring and leaves the others
there, no more than a drain may take and the output has room for. -/
def Step.SendsOldest (step : Step) : Prop :=
  step.sentPostcards = [] ∨
    step.before.postcards.closed = false ∧
      step.sentPostcards.length ≤ min step.before.drainLimit step.before.postcards.free ∧
      step.sentPostcards.map Packet.data ++ step.after.forwarder.ring.toList =
        step.before.forwarder.ring.toList

section Accounts

variable {start : Forwarder} {accepted : List Bytes} {sent : List Packet} {node next : Node}
  {arrival departure : Nat}

/-- Some of the oldest postcards leave the ring and are sent. -/
theorem Accounts.drain (empty : start.ring.toList = [])
    (accounts : Accounts start accepted sent node.forwarder node.statistics) {batch : Batch}
    (size : batch.length = node.drainable)
    (oldest : batch.map Packet.data = node.forwarder.ring.toList.take node.drainable)
    (drained : node.drain =
      { node with
        forwarder := { node.forwarder with
          ring := { node.forwarder.ring with
            queue := node.forwarder.ring.queue.drop node.drainable } }
        postcards := { node.postcards with waiting := node.postcards.waiting ++ batch }
        statistics := { node.statistics with
          postcardsSent := node.statistics.postcardsSent + node.drainable } }) :
    Accounts start accepted (sent ++ batch) node.drain.forwarder node.drain.statistics := by
  have queued := accounts.turnover.queued
  rw [empty, List.nil_append] at queued
  have few : node.drainable ≤ node.forwarder.ring.toList.length := by
    rw [← size, ← List.length_map Packet.data, oldest]
    exact List.length_take_le' _ _
  have leaves : node.forwarder.Turnover
      { node.forwarder with
        ring := { node.forwarder.ring with
          queue := node.forwarder.ring.queue.drop node.drainable } } [] node.drainable :=
    .of_drop (Ring.isLaidOut_drop accounts.turnover.laid _) few (Ring.toList_drop _ _) rfl
  have whole := accounts.turnover.trans leaves
  rw [List.append_nil, Nat.add_assoc] at whole
  rw [drained]
  refine ⟨?_, accounts.generated, ?_, ?_⟩
  · rw [List.length_append, size]
    exact whole
  · rw [List.length_append, size, ← accounts.counted]
  · rw [List.map_append, oldest, queued, List.length_append, size, ← Nat.add_assoc,
      List.take_add]
    exact accounts.ordered.append (List.Sublist.refl _)

/-- Postcards come into the ring, and some of the oldest ones are evicted. -/
theorem Accounts.turn {forwarder later : Forwarder} {statistics counts : NodeStatistics}
    {added : List Bytes} {evicted : Nat}
    (accounts : Accounts start accepted sent forwarder statistics)
    (turnover : forwarder.Turnover later added evicted)
    (generated : counts.postcardsGenerated = statistics.postcardsGenerated + added.length)
    (gone : counts.postcardsEvicted = statistics.postcardsEvicted + evicted)
    (counted : counts.postcardsSent = statistics.postcardsSent) :
    Accounts start (accepted ++ added) sent later counts := by
  have whole := accounts.turnover.trans turnover
  rw [Nat.add_right_comm, ← gone] at whole
  refine ⟨whole, ?_, counted.trans accounts.counted, ?_⟩
  · rw [generated, accounts.generated, List.length_append]
  · rw [List.take_append]
    apply accounts.ordered.trans
    refine (List.take_sublist_take_left ?_).trans (List.sublist_append_left _ _)
    omega

theorem Accounts.processBatch (accounts : Accounts start accepted sent node.forwarder
    node.statistics) (gated : GatedBatch) :
    ∃ added, Accounts start (accepted ++ added) sent
      (node.processBatch arrival departure gated).forwarder
      (node.processBatch arrival departure gated).statistics := by
  rw [Node.processBatch]
  dsimp only
  cases registered : node.forwarder.gates.find? gated.gate with
  | none => exact ⟨[], accounts.turn (.refl accounts.turnover.laid) rfl rfl rfl⟩
  | some gate =>
      rcases Forwarder.process_postcards accounts.turnover.laid gated.gate
        (node.tagging gate (node.noteArrival gated.batch arrival)).batch arrival with
        ⟨turnover, counted, -⟩
      exact ⟨_, accounts.turn turnover (congrArg _ counted) rfl rfl⟩

theorem postcards_processBatch (node : Node) (gated : GatedBatch) :
    (node.processBatch arrival departure gated).postcards = node.postcards := by
  rw [Node.processBatch]
  dsimp only
  split <;> rfl

theorem postcards_applyCommand (node : Node) (command : Command) :
    (node.applyCommand command).postcards = node.postcards := by
  rw [applyCommand]
  split <;> rfl

/-- What a move does to the postcards, and what it counts. -/
theorem Accounts.move (empty : start.ring.toList = [])
    (accounts : Accounts start accepted sent node.forwarder node.statistics)
    (move : Move arrival departure node next) :
    let step : Step := ⟨node, .move arrival departure, next⟩
    (∃ added, Accounts start (accepted ++ added) (sent ++ step.sentPostcards) next.forwarder
        next.statistics) ∧ step.SendsOldest := by
  intro step
  have quiet (same : next.postcards = node.postcards) : step.sentPostcards = [] :=
    Step.sentPostcards_of_le (Nat.le_of_eq (congrArg (fun outlet => outlet.waiting.length) same))
  have kept : Accounts start (accepted ++ []) sent node.forwarder node.statistics := by
    rw [List.append_nil]
    exact accounts
  -- what both kinds of drain have in common
  have drains (drained : next.forwarder = node.drain.forwarder ∧
      next.postcards = node.drain.postcards ∧ next.statistics = node.drain.statistics) :
      (∃ added, Accounts start (accepted ++ added) (sent ++ step.sentPostcards) next.forwarder
        next.statistics) ∧ step.SendsOldest := by
    rcases node.drain_eq with ⟨batch, size, oldest, -, whole⟩
    have paid := accounts.drain empty size oldest whole
    rcases drained with ⟨forwarder, postcards, statistics⟩
    have sends : step.sentPostcards = batch := by
      change next.postcards.waiting.drop node.postcards.waiting.length = batch
      rw [postcards, whole]
      exact List.drop_left
    rw [forwarder, statistics, sends]
    refine ⟨⟨[], by rw [List.append_nil]; exact paid⟩, ?_⟩
    rw [Step.SendsOldest, sends]
    cases gone : node.postcards.closed with
    | true =>
        rw [drainable, if_pos gone] at size
        exact Or.inl (List.eq_nil_of_length_eq_zero size)
    | false =>
        right
        refine ⟨rfl, ?_, ?_⟩
        · rw [size, drainable, if_neg (by simp [gone])]
          exact Nat.min_le_left _ _
        · rw [oldest, forwarder, whole, Ring.toList_drop]
          exact List.take_append_drop _ _
  cases move with
  | @command command rest =>
      have none := quiet (postcards_applyCommand _ command)
      rw [none, List.append_nil]
      refine ⟨⟨[], ?_⟩, Or.inl none⟩
      rw [applyCommand]
      split
      · exact ⟨kept.turnover.with_gates _, kept.generated, kept.counted, kept.ordered⟩
      · exact kept
      · exact kept
  | finish => exact drains ⟨rfl, rfl, rfl⟩
  | drain => exact drains ⟨rfl, rfl, rfl⟩
  | giveUp | hold =>
      have none := quiet rfl
      rw [none, List.append_nil]
      exact ⟨⟨[], kept⟩, Or.inl none⟩
  | @process gated rest =>
      have none := quiet (postcards_processBatch _ gated)
      rw [none, List.append_nil]
      let left : Node := { node with input := rest }
      have same : Accounts start accepted sent left.forwarder left.statistics := accounts
      exact ⟨same.processBatch gated, Or.inl none⟩

end Accounts

/-- The accounts of a history from `start` on. -/
def Accounted (start : Forwarder) (past : List Step) (node : Node) : Prop :=
  (∃ accepted, Accounts start accepted (past.flatMap Step.sentPostcards) node.forwarder
    node.statistics) ∧ ∀ step ∈ past, step.SendsOldest

section Accounted

variable {start : Forwarder} {past : List Step} {node : Node}

theorem Accounted.append {step : Step} (accounted : Accounted start past node)
    (paid : ∃ accepted, Accounts start accepted
      (past.flatMap Step.sentPostcards ++ step.sentPostcards) step.after.forwarder
      step.after.statistics)
    (sends : step.SendsOldest) : Accounted start (past ++ [step]) step.after := by
  rw [Accounted, List.flatMap_append, List.flatMap_singleton]
  exact ⟨paid, List.forall_mem_append.mpr ⟨accounted.2, List.forall_mem_singleton.mpr sends⟩⟩

/-- A step that leaves the forwarder and the counts alone, and sends nothing. -/
theorem Accounted.quiet {step : Step} (accounted : Accounted start past node)
    (engine : step.after.engine = node.engine) (none : step.sentPostcards = []) :
    Accounted start (past ++ [step]) step.after := by
  rcases accounted.1 with ⟨accepted, accounts⟩
  have forwarder : step.after.forwarder = node.forwarder := congrArg Engine.forwarder engine
  have statistics : step.after.statistics = node.statistics := congrArg Engine.statistics engine
  refine accounted.append ⟨accepted, ?_⟩ (Or.inl none)
  rw [none, List.append_nil, forwarder, statistics]
  exact accounts

/-- Every step keeps the accounts. -/
theorem inductive_accounted (empty : start.ring.toList = []) :
    Journal.Inductive (Accounted start) where
  served _ _ _ _ _ served accounted :=
    accounted.quiet served.engine (Step.sentPostcards_of_le served.postcards)
  still _ _ _ _ accounted := accounted.quiet rfl (Step.sentPostcards_of_le (Nat.le_refl _))
  moved _ _ _ _ _ moved accounted := by
    rcases accounted.1 with ⟨accepted, accounts⟩
    rcases accounts.move empty (move_of_advance moved).2 with ⟨⟨added, paid⟩, sends⟩
    exact accounted.append ⟨_, paid⟩ sends

end Accounted

/-- The numbers of the postcards that were sent, and that they increase until they wrap
round. -/
theorem Accounts.numbers {start forwarder : Forwarder} {accepted : List Bytes}
    {sent : List Packet} {statistics : NodeStatistics}
    (accounts : Accounts start accepted sent forwarder statistics)
    (first : start.nextSequence = 0) :
    ∃ numbers : List UInt32,
      sent.map (fun packet => Postcard.number? packet.data) = numbers.map some ∧
        (statistics.postcardsGenerated < UInt32.size → numbers.Pairwise (· < ·)) := by
  have some_of_them := (accounts.ordered.trans (List.take_sublist _ _)).map Postcard.number?
  rw [accounts.turnover.numbered_of_zero first, List.map_map] at some_of_them
  rcases List.sublist_map_iff.mp some_of_them with ⟨numbers, chosen, same⟩
  refine ⟨numbers, same, ?_⟩
  intro few
  apply List.Pairwise.sublist chosen
  rw [List.pairwise_map]
  rw [accounts.generated] at few
  refine List.pairwise_lt_range.imp_of_mem ?_
  intro earlier later _ inside before
  have bound := List.mem_range.mp inside
  rw [UInt32.lt_iff_toNat_lt, UInt32.toNat_ofNat_of_lt' (by omega),
    UInt32.toNat_ofNat_of_lt' (by omega)]
  exact before

/-- A drain takes nothing if the output is full or has no consumer. -/
theorem drain_of_unable {node : Node}
    (unable : node.postcards.closed = true ∨ node.postcards.free = 0) :
    node.drain.forwarder.ring = node.forwarder.ring := by
  rcases node.drain_eq with ⟨_, -, -, -, drained⟩
  have none : node.drainable = 0 := by
    rw [drainable]
    rcases unable with gone | full
    · rw [if_pos gone]
    · rw [full, Nat.min_zero, Nat.zero_min, ite_self]
  rw [drained, none]
  rfl

/-- Whatever happens to a node that is started with an empty ring: the postcards that were
queued have been evicted, have been sent or wait in the ring.  What a step sends are the
oldest postcards of the ring, in order, so that the numbers of all that was sent
increase until they wrap round.  A drain at any time takes as many postcards as it may,
as there are and as the output has room for, and none of those it sends is refused.  It
takes none if the output is full or has no consumer. -/
theorem postcards_conserved (classifier : Classifier) (forwarder : Forwarder)
    (options : NodeOptions) (history : List Event) (empty : forwarder.ring.queue = [])
    (first : forwarder.nextSequence = 0) :
    let journal := Journal.start classifier forwarder options
    let node := (journal.after history).node
    let ring := node.forwarder.ring
    let sent := (journal.course history).flatMap Step.sentPostcards
    node.statistics.postcardsGenerated =
        node.statistics.postcardsEvicted + node.statistics.postcardsSent + ring.size ∧
      node.statistics.postcardsSent = sent.length ∧
      (∀ step ∈ journal.course history, step.SendsOldest) ∧
      (∃ numbers : List UInt32,
        sent.map (fun packet => Postcard.number? packet.data) = numbers.map some ∧
          (node.statistics.postcardsGenerated < UInt32.size → numbers.Pairwise (· < ·))) ∧
      node.drain.forwarder.ring.toList = ring.toList.drop node.drainable ∧
      (∃ batch : Batch, batch.map Packet.data = ring.toList.take node.drainable ∧
        batch.foldlM Outlet.trySend? node.postcards = some node.drain.postcards) ∧
      (node.postcards.closed = true ∨ node.postcards.free = 0 →
        node.drain.forwarder.ring = ring) := by
  have nothing : forwarder.ring.toList = [] := by
    rw [Ring.toList, empty]
    rfl
  have laid : forwarder.ring.IsLaidOut := by
    rw [Ring.IsLaidOut, empty]
    exact LaidOut.nil
  have started : Accounted forwarder [] (Journal.start classifier forwarder options).node :=
    ⟨⟨[], .refl laid, rfl, rfl, List.Sublist.refl _⟩, List.forall_mem_nil _⟩
  have accounted := (inductive_accounted nothing).after started history
  rw [List.nil_append] at accounted
  intro journal node ring sent
  rcases accounted with ⟨⟨accepted, accounts⟩, sends⟩
  rcases node.drain_eq with ⟨batch, size, oldest, sending, drained⟩
  have balanced : node.statistics.postcardsGenerated =
      node.statistics.postcardsEvicted + node.statistics.postcardsSent + ring.size := by
    rw [accounts.generated, accounts.counted]
    exact accounts.turnover.accepted_eq nothing
  have left : node.drain.forwarder.ring.toList = ring.toList.drop node.drainable := by
    rw [drained]
    exact Ring.toList_drop _ _
  exact ⟨balanced, accounts.counted, sends, accounts.numbers first, left,
    ⟨batch, oldest, sending⟩, drain_of_unable⟩

/-- A gate is registered and three packets ask for postcards, two of which the ring has room
for.  Then two drains are due. -/
def threePostcards : List Event :=
  [.submit (.addEgress 0 6 0), .submit (.setPositions 0 0 0),
    .send ⟨0, List.replicate 3 { data := (Telemetry.Block.fresh .exporting).bytes }⟩] ++
    List.replicate 4 (.move 0 0) ++ [.tick, .move 0 0, .tick, .move 0 0]

/-- The node to which this happens.  Its output has room for one postcard. -/
def smallOutput : Journal := .start {} (.unused 7 11 22) { postcardRoom := 1 }

/-- The second drain finds the output full and takes nothing. -/
theorem conserved_threePostcards :
    let node := (smallOutput.after threePostcards).node
    let sent := (smallOutput.course threePostcards).flatMap Step.sentPostcards
    node.statistics.postcardsGenerated = 3 ∧ sent.length = 1 ∧
      node.drain.forwarder.ring = node.forwarder.ring := by
  have conserved :=
    postcards_conserved {} (.unused 7 11 22) { postcardRoom := 1 } threePostcards rfl rfl
  have evicted : (smallOutput.after threePostcards).node.statistics.postcardsEvicted = 1 := by
    decide
  have delivered : (smallOutput.after threePostcards).node.statistics.postcardsSent = 1 := by
    decide
  have queued : (smallOutput.after threePostcards).node.forwarder.ring.size = 1 := by decide
  have full : (smallOutput.after threePostcards).node.postcards.free = 0 := by decide
  rw [← smallOutput] at conserved
  -- the numbers are known now, and the run is not to be computed again
  generalize smallOutput = journal at *
  rcases conserved with ⟨balanced, counted, -, -, -, -, still⟩
  rw [evicted, delivered, queued] at balanced
  exact ⟨balanced, counted.symm.trans delivered, still (Or.inr full)⟩

end Node

end InbandTelemetry
