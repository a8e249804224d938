import InbandTelemetry.Proofs.Configurations
import InbandTelemetry.Proofs.DrainAccounts

namespace InbandTelemetry

/-!
# Commands and batches in order

Commands and batches reach a node on two ways, and a timer makes it drain.  In whatever
order the driver meets them, it applies the commands in the order in which they were
sent, and it takes no batch while a command waits.  So every batch is processed under
the setup that all commands sent before have left, and batches leave the outline of
the setup as it is.  A driver that has run until it has to wait has applied every command.
-/

/-! ## What a batch touches -/

namespace Forwarder

/-- A batch touches the ring, the next number and the counts of a gate, and nothing else of a
forwarder. -/
theorem forwarder_process (forwarder : Forwarder) (id : GateId) (batch : Batch) (now : Nat) :
    ∃ gates ring nextSequence,
      (forwarder.process id batch now).2 = { forwarder with gates, ring, nextSequence } ∧
        gates.outline = forwarder.gates.outline := by
  rw [process]
  split
  · exact ⟨_, _, _, rfl, rfl⟩
  · rename_i gate registered
    rcases forwarder.forwarder_passBatch gate now batch with ⟨ring, nextSequence, passed⟩
    dsimp only
    rw [passed]
    refine ⟨_, _, _, rfl, GateTable.outline_modify_of_blank _ _ ?_⟩
    intro gate
    rw [Gate.blank, Counters.interval_account]
    rfl

end Forwarder

theorem TimingStatistics.interval_record (statistics : TimingStatistics) (batch : Batch) (now : Nat) :
    (statistics.record batch now).2.interval = statistics.interval := by
  cases batch with
  | nil => rfl
  | cons first rest =>
      rw [TimingStatistics.record]
      split
      · rfl
      · split <;> rfl

theorem Outlet.room_push {α : Type} (outlet : Outlet α) (item : α) :
    (outlet.push item).room = outlet.room := by
  rw [push]
  split <;> rfl

namespace Node

/-- The setup of a node. -/
def setup (node : Node) : Setup := ⟨node.classifier, node.forwarder.gates⟩

/-- What becomes of a node when its driver processes a batch at two readings of the clock.  A
batch on a gate that is not registered shows in the counts only.  Otherwise the classifier of
the setup tags it, if the gate is an ingress gate, and the forwarder takes what comes of that
through the gate.  What leaves the gate goes into the output, where the held slot was for it.
The batch is stamped when it comes and when it leaves, if times are measured. -/
inductive Handled (arrival departure : Nat) (node : Node) (gated : GatedBatch) : Node → Prop where
  | dropped (unregistered : node.setup.gates.find? gated.gate = none) :
      Handled arrival departure node gated
        { node with
          statistics :=
            { node.statistics with
              batchesReceived := node.statistics.batchesReceived + 1
              packetsReceived := node.statistics.packetsReceived + gated.batch.length
              packetsDropped := node.statistics.packetsDropped + gated.batch.length } }
  | passed {gate : Gate} {tagging : Classifier.Tagging} {outcome : Forwarder.Outcome}
      {forwarder : Forwarder} {left : Batch} {timing : Option TimingStatistics}
      (registered : node.setup.gates.find? gated.gate = some gate)
      (tagged : gate.isIngress = true →
        node.setup.classifier.process (node.noteArrival gated.batch arrival) = tagging)
      (untagged : gate.isIngress = false →
        ⟨node.setup.classifier, node.noteArrival gated.batch arrival, 0⟩ = tagging)
      (forwarded : { node.forwarder with gates := node.setup.gates }.process gated.gate
        tagging.batch arrival = (outcome, forwarder))
      (noted : node.noteDeparture outcome.batch departure = (left, timing)) :
      Handled arrival departure node gated
        { node with
          classifier := tagging.classifier
          forwarder, timing
          output := node.output.push ⟨gated.gate, left⟩
          slotHeld := false
          statistics :=
            { node.statistics with
              batchesReceived := node.statistics.batchesReceived + 1
              packetsReceived := node.statistics.packetsReceived + gated.batch.length
              packetsSent := node.statistics.packetsSent + gated.batch.length
              packetsTagged := node.statistics.packetsTagged + tagging.tagged
              postcardsGenerated := node.statistics.postcardsGenerated + outcome.postcards
              postcardsEvicted := node.statistics.postcardsEvicted + outcome.evicted
              postcardsDropped := node.statistics.postcardsDropped + outcome.postcardsDropped } }

/-- Between two states of a node a batch has been processed.  It may have touched the places
in the rotations, the counts of the gates, the ring, the next number, what is measured
and counted, and the output with the slot that was held.  Nothing else has changed. -/
def Processed (node next : Node) : Prop :=
  ∃ classifier gates ring nextSequence timing output slotHeld statistics,
    next =
      { node with
        classifier
        forwarder := { node.forwarder with gates, ring, nextSequence }
        timing, output, slotHeld, statistics } ∧
      next.setup.outline = node.setup.outline ∧
      timing.map TimingStatistics.interval = node.timing.map TimingStatistics.interval ∧
      output.room = node.output.room

theorem interval_noteDeparture (node : Node) (batch : Batch) (now : Nat) :
    (node.noteDeparture batch now).2.map TimingStatistics.interval =
      node.timing.map TimingStatistics.interval := by
  rw [noteDeparture]
  split
  · rename_i unmeasured
    rw [unmeasured]
  · rename_i statistics measured
    rw [measured]
    exact congrArg some (statistics.interval_record _ now)

theorem unwound_tagging (node : Node) (gate : Gate) (batch : Batch) :
    (node.tagging gate batch).classifier.unwound = node.classifier.unwound := by
  rw [tagging]
  split
  · exact node.classifier.unwound_process batch
  · rfl

theorem handled_processBatch (node : Node) (arrival departure : Nat) (gated : GatedBatch) :
    node.Handled arrival departure gated (node.processBatch arrival departure gated) := by
  rw [processBatch]
  dsimp only
  split
  · rename_i unregistered
    rw [length_noteArrival]
    exact .dropped unregistered
  · rename_i gate registered
    have shape : (node.passed arrival departure gate gated).shape = gated.shape :=
      shape_passed registered
    have out : (node.passed arrival departure gate gated).gate = gated.gate :=
      congrArg Prod.fst shape
    have sent : (node.passed arrival departure gate gated).batch.length = gated.batch.length :=
      congrArg Prod.snd shape
    rw [passed] at out sent
    dsimp only at out sent
    rw [tagging] at out sent
    rw [out, sent, length_noteArrival]
    exact .passed registered (fun enters => (if_pos enters).symm)
      (fun leaves => (if_neg (by simp [leaves])).symm) rfl rfl

theorem processed_processBatch (node : Node) (arrival departure : Nat) (gated : GatedBatch) :
    node.Processed (node.processBatch arrival departure gated) := by
  rw [processBatch]
  dsimp only
  split
  · exact ⟨_, _, _, _, _, _, _, _, rfl, rfl, rfl, rfl⟩
  · rename_i gate registered
    let batch := node.noteArrival gated.batch arrival
    rcases node.forwarder.forwarder_process gated.gate (node.tagging gate batch).batch arrival with
      ⟨gates, ring, nextSequence, processed, counted⟩
    rw [tagging] at processed
    rw [processed]
    exact ⟨_, _, _, _, _, _, _, _, rfl, Prod.ext (node.unwound_tagging gate batch) counted,
      node.interval_noteDeparture _ departure, Outlet.room_push _ _⟩

/-- A command that is applied. -/
theorem applyCommand_eq (node : Node) (command : Command) :
    node.applyCommand command =
      { node with
        classifier := (node.setup.apply command).2.classifier
        forwarder := { node.forwarder with gates := (node.setup.apply command).2.gates }
        answers := node.answers ++ [(node.setup.apply command).1] } := by
  rcases node.setup.apply_cases command with ⟨gates, apply⟩ | ⟨flows, apply⟩
  · rw [setup] at gates apply
    rw [applyCommand, gates, setup, apply]
    cases Command.changeFlows node.classifier command <;> rfl
  · rw [setup] at flows apply
    rw [applyCommand, flows, setup, apply]
    cases Command.changeGates node.forwarder.gates command <;> rfl

/-! ## What a step has to do with the setup -/

namespace Step

/-- The commands that a step sends. -/
def submitted (step : Step) : List Command := step.before.submitted step.event

/-- The commands that leave the queue in a step. -/
def applied (step : Step) : List Command :=
  step.before.commands.take (step.before.commands.length - step.after.commands.length)

/-- The answers that a step gives. -/
def answered (step : Step) : List (Except ConfigError Unit) :=
  step.after.answers.drop step.before.answers.length

/-- A step applies the first command that waits, and one that is refused changes nothing but
the two queues.  Or it takes a batch, while no command waits, and processes it under the
setup that it finds.  Or it has nothing to do with the setup. -/
inductive Role (step : Step) : Prop where
  | command {command : Command} {rest : List Command}
      (waiting : step.before.commands = command :: rest)
      (after : step.after =
        { step.before with
          commands := rest
          classifier := (step.before.setup.apply command).2.classifier
          forwarder := { step.before.forwarder with
            gates := (step.before.setup.apply command).2.gates }
          answers := step.before.answers ++ [(step.before.setup.apply command).1] })
      (refused : ∀ fault, (step.before.setup.apply command).1 = .error fault →
        step.after =
          { step.before with
            commands := rest, answers := step.before.answers ++ [.error fault] })
  | batch {arrival departure : Nat} {gated : GatedBatch} {rest : List GatedBatch}
      (moved : step.event = .move arrival departure) (idle : step.before.commands = [])
      (waiting : step.before.input = gated :: rest)
      (handled : Handled arrival departure { step.before with input := rest } gated step.after)
      (processed : Processed { step.before with input := rest } step.after)
  | aside (setup : step.after.setup = step.before.setup) (applied : step.applied = [])
      (answered : step.answered = [])
      (input : step.before.input.length ≤ step.after.input.length)

theorem applied_of_le {step : Step}
    (more : step.before.commands.length ≤ step.after.commands.length) : step.applied = [] := by
  rw [applied, Nat.sub_eq_zero_of_le more, List.take_zero]

theorem answered_of_le {step : Step}
    (fewer : step.after.answers.length ≤ step.before.answers.length) : step.answered = [] :=
  List.drop_eq_nil_of_le fewer

/-- What happens between moves has nothing to do with the setup. -/
theorem aside_of_served {node next : Node} {event : Event} (served : node.Served event next) :
    let step : Step := ⟨node, event, next⟩
    step.after.setup = step.before.setup ∧ step.applied = [] ∧ step.answered = [] := by
  have classifier : next.classifier = node.classifier :=
    congrArg Engine.classifier served.engine
  have forwarder : next.forwarder = node.forwarder := congrArg Engine.forwarder served.engine
  refine ⟨?_, applied_of_le ?_, answered_of_le served.answers⟩
  · rw [setup, setup, classifier, forwarder]
  · rw [served.commands, List.length_append]
    exact Nat.le_add_right _ _

/-- A command that is applied, as a step. -/
theorem role_command {node : Node} {command : Command} {rest : List Command}
    (waiting : node.commands = command :: rest) (arrival departure : Nat) :
    Role ⟨node, .move arrival departure, { node with commands := rest }.applyCommand command⟩ := by
  have after := applyCommand_eq { node with commands := rest } command
  refine .command waiting after ?_
  intro fault refused
  have same : (node.setup.apply command).2 = node.setup := Setup.apply_of_error refused
  change { node with commands := rest }.applyCommand command = _
  rw [after]
  change { node with
    commands := rest
    classifier := (node.setup.apply command).2.classifier
    forwarder := { node.forwarder with gates := (node.setup.apply command).2.gates }
    answers := node.answers ++ [(node.setup.apply command).1] } = _
  rw [same, refused]
  rfl

end Step

/-! ## Commands in the order in which they were sent -/

/-- The commands that left the queue are the ones that were sent first, in order.  They have
been answered, and have left the setup, as if they had been applied one after the other
from `first` on.  A driver that has stopped leaves no command behind. -/
structure Serial (first : Setup) (past : List Step) (node : Node) : Prop where
  queued : past.flatMap Step.submitted = past.flatMap Step.applied ++ node.commands
  answered : past.flatMap Step.answered = (first.replay (past.flatMap Step.applied)).1
  configured : node.setup.outline = (first.replay (past.flatMap Step.applied)).2.outline
  stopped : node.running = false → node.commands = []
  roles : ∀ step ∈ past, step.Role

section Serial

variable {first : Setup} {past : List Step} {step : Step}

/-- A step that applies no command keeps the order. -/
theorem Serial.skip (serial : Serial first past step.before) (role : step.Role)
    (outline : step.after.setup.outline = step.before.setup.outline)
    (commands : step.after.commands = step.before.commands ++ step.submitted)
    (none : step.applied = []) (silent : step.answered = [])
    (stopped : step.after.running = false → step.after.commands = []) :
    Serial first (past ++ [step]) step.after := by
  have applied : (past ++ [step]).flatMap Step.applied = past.flatMap Step.applied := by
    rw [List.flatMap_append, List.flatMap_singleton, none, List.append_nil]
  have roles : ∀ other ∈ past ++ [step], other.Role :=
    List.forall_mem_append.mpr ⟨serial.roles, List.forall_mem_singleton.mpr role⟩
  refine ⟨?_, ?_, ?_, stopped, roles⟩
  · rw [applied, List.flatMap_append, List.flatMap_singleton, serial.queued, commands,
      List.append_assoc]
  · rw [applied, List.flatMap_append, List.flatMap_singleton, silent, List.append_nil,
      serial.answered]
  · rw [applied, outline, serial.configured]

/-- A step of the driver that leaves the setup and the queues alone keeps the order. -/
theorem Serial.aside (serial : Serial first past step.before)
    (setup : step.after.setup = step.before.setup)
    (commands : step.after.commands = step.before.commands)
    (answers : step.after.answers = step.before.answers)
    (input : step.after.input = step.before.input) (unsent : step.submitted = [])
    (stopped : step.after.running = false → step.after.commands = []) :
    Serial first (past ++ [step]) step.after := by
  have none := Step.applied_of_le (Nat.le_of_eq (congrArg List.length commands.symm))
  have silent := Step.answered_of_le (Nat.le_of_eq (congrArg List.length answers))
  have whole : step.after.commands = step.before.commands ++ step.submitted := by
    rw [commands, unsent, List.append_nil]
  exact serial.skip
    (.aside setup none silent (Nat.le_of_eq (congrArg List.length input.symm)))
    (congrArg Setup.outline setup) whole none silent stopped

/-- A command that is applied is the one that was sent next. -/
theorem Serial.apply (serial : Serial first past step.before) (role : step.Role)
    {command : Command} {rest : List Command} (waiting : step.before.commands = command :: rest)
    (left : step.after.commands = rest) (unsent : step.submitted = [])
    (answers : step.after.answers = step.before.answers ++ [(step.before.setup.apply command).1])
    (setup : step.after.setup = (step.before.setup.apply command).2)
    (runs : step.after.running = true) : Serial first (past ++ [step]) step.after := by
  have one : step.applied = [command] := by
    have single : (command :: rest).length - rest.length = 1 := by
      rw [List.length_cons]
      omega
    rw [Step.applied, waiting, left, single]
    rfl
  have given : step.answered = [(step.before.setup.apply command).1] := by
    rw [Step.answered, answers]
    exact List.drop_left
  have applied : (past ++ [step]).flatMap Step.applied =
      past.flatMap Step.applied ++ [command] := by
    rw [List.flatMap_append, List.flatMap_singleton, one]
  have roles : ∀ other ∈ past ++ [step], other.Role :=
    List.forall_mem_append.mpr ⟨serial.roles, List.forall_mem_singleton.mpr role⟩
  rcases Setup.apply_of_outline serial.configured command with ⟨sameAnswer, sameOutline⟩
  refine ⟨?_, ?_, ?_, ?_, roles⟩
  · rw [applied, List.flatMap_append, List.flatMap_singleton, unsent, List.append_nil,
      serial.queued, waiting, left, List.append_assoc, List.singleton_append]
  · rw [applied, Setup.replay_concat, List.flatMap_append, List.flatMap_singleton, given,
      serial.answered, sameAnswer]
  · rw [applied, Setup.replay_concat, setup, sameOutline]
  · intro stopped
    rw [runs] at stopped
    contradiction

theorem submitted_of_stopped {node : Node} (stopped : node.running = false) (event : Event) :
    node.submitted event = [] := by
  cases event with
  | submit command => exact if_neg (by simp [stopped])
  | _ => rfl

theorem Serial.move {node next : Node} {arrival departure : Nat} (running : node.running = true)
    (serial : Serial first past node) (move : Move arrival departure node next) :
    Serial first (past ++ [⟨node, .move arrival departure, next⟩]) next := by
  cases move with
  | @command command rest waiting =>
      have after := applyCommand_eq { node with commands := rest } command
      exact serial.apply (Step.role_command waiting arrival departure) waiting
        (congrArg Node.commands after) rfl (congrArg Node.answers after)
        (congrArg Node.setup after) ((congrArg Node.running after).trans running)
  | finish idle =>
      rcases node.drain_eq with ⟨_, -, -, -, drained⟩
      rw [drained]
      exact serial.aside rfl rfl rfl rfl rfl fun _ => idle
  | drain idle =>
      rcases node.drain_eq with ⟨_, -, -, -, drained⟩
      rw [drained]
      exact serial.aside rfl rfl rfl rfl rfl fun _ => idle
  | giveUp idle => exact serial.aside rfl rfl rfl rfl rfl fun _ => idle
  | hold idle => exact serial.aside rfl rfl rfl rfl rfl fun _ => idle
  | @process gated rest idle _ _ _ waiting =>
      have handled := handled_processBatch { node with input := rest } arrival departure gated
      have processed := processed_processBatch { node with input := rest } arrival departure gated
      have role := @Step.Role.batch ⟨node, .move arrival departure, _⟩ arrival departure gated rest
        rfl idle waiting handled processed
      rcases processed with ⟨classifier, gates, ring, nextSequence, timing, output, slotHeld,
        statistics, after, outline, -, -⟩
      have commands := congrArg Node.commands after
      have answers := congrArg Node.answers after
      refine serial.skip role outline (commands.trans (List.append_nil _).symm)
        (Step.applied_of_le (Nat.le_of_eq (congrArg List.length commands.symm)))
        (Step.answered_of_le (Nat.le_of_eq (congrArg List.length answers))) ?_
      intro _
      exact commands.trans idle

end Serial

/-- Every step keeps the order. -/
theorem inductive_serial (first : Setup) : Journal.Inductive (Serial first) where
  served _ node next event _ served serial := by
    rcases Step.aside_of_served served with ⟨setup, none, silent⟩
    refine serial.skip (.aside setup none silent served.input) (congrArg Setup.outline setup)
      served.commands none silent ?_
    intro stopped
    have before : node.running = false :=
      (congrArg Engine.running served.engine).symm.trans stopped
    change next.commands = []
    rw [served.commands, serial.stopped before, submitted_of_stopped before]
    rfl
  still _ node arrival departure serial := by
    refine serial.aside rfl rfl rfl rfl rfl ?_
    exact serial.stopped
  moved _ _ _ _ _ moved serial := by
    rcases move_of_advance moved with ⟨running, move⟩
    exact serial.move running move

/-! ## At rest -/

/-- A driver that makes no move has applied every command. -/
theorem Serial.commands_of_still {first : Setup} {past : List Step} {node : Node}
    (serial : Serial first past node) (still : node.Still) : node.commands = [] := by
  cases still with
  | stopped stopped => exact serial.stopped stopped
  | blocked idle => exact idle
  | starved idle => exact idle

section Course

variable (classifier : Classifier) (forwarder : Forwarder) (options : NodeOptions)
  (history : List Event)

/-- The order holds behind every history, and it has held in front of every step. -/
theorem serial_course :
    let journal := Journal.start classifier forwarder options
    Journal.Throughout (Serial journal.node.setup) (journal.course history)
      (journal.after history).node := by
  intro journal
  have started : Serial journal.node.setup [] journal.node :=
    ⟨rfl, rfl, rfl, fun _ => rfl, List.forall_mem_nil _⟩
  have once : Journal.Throughout (Serial journal.node.setup) [] journal.node := by
    refine ⟨started, ?_⟩
    intro earlier step later impossible
    exact absurd impossible.symm (List.append_ne_nil_of_right_ne_nil _ (List.cons_ne_nil _ _))
  have throughout := (inductive_serial journal.node.setup).throughout.after once history
  rwa [List.nil_append] at throughout

/-- A poll sends no commands, so what has been sent behind it was sent before. -/
theorem submitted_course_poll (journal : Journal) (clock : Nat → Nat) :
    (journal.course (history ++ [.poll clock])).flatMap Step.submitted =
      (journal.course history).flatMap Step.submitted := by
  rw [Journal.course_append, List.flatMap_append, Journal.course, Journal.course, Journal.steps,
    List.append_nil]
  exact (congrArg _ Journal.submitted_polled).trans (List.append_nil _)

/-- Whatever has happened to a node: when its driver has run until it has to wait, no command
waits, and every packet that came in has gone out or been dropped.  Another run finds
nothing to do, at whatever time. -/
theorem rest_of_run (clock : Nat → Nat) :
    let node := ((Journal.start classifier forwarder options).after history).node.run clock
    node.Still ∧ node.commands = [] ∧
      node.statistics.packetsReceived =
        node.statistics.packetsSent + node.statistics.packetsDropped ∧
      ∀ later, node.run later = node := by
  intro node
  have still : node.Still := still_runFrom _ clock 0
  have serial := (serial_course classifier forwarder options (history ++ [.poll clock])).1
  have conserved := (Journal.Conserved.start classifier forwarder options).after
    (history ++ [.poll clock])
  rw [Journal.node_after_poll] at serial
  rw [Journal.Conserved, Journal.node_after_poll] at conserved
  exact ⟨still, serial.commands_of_still still, conserved.balanced, run_of_still still⟩

end Course

/-- Whatever happens to a node, and in whatever order: the commands that have been applied
are the ones that were sent first, each of them once, and the others wait.  They have
been answered as if they had been applied one after the other, and the setup that each
step finds is the one that they leave, but for what packets touch.  A driver that has
stopped leaves no command behind, and one that has run until it has to wait has applied
and answered all that were sent.  A step applies the first command that waits, and
changes nothing if that is refused, or it takes a batch while no command waits, processes
it under the setup that it finds and leaves the outline of the setup as it is, or it has
nothing to do with the setup. -/
theorem commands_in_order (classifier : Classifier) (forwarder : Forwarder)
    (options : NodeOptions) (history : List Event) :
    let journal := Journal.start classifier forwarder options
    let first := journal.node.setup
    let course := journal.course history
    let node := (journal.after history).node
    course.flatMap Step.submitted = course.flatMap Step.applied ++ node.commands ∧
      course.flatMap Step.answered = (first.replay (course.flatMap Step.applied)).1 ∧
      node.setup.outline = (first.replay (course.flatMap Step.applied)).2.outline ∧
      (node.running = false → node.commands = []) ∧
      (∀ clock,
        let polled := journal.course (history ++ [.poll clock])
        (journal.after (history ++ [.poll clock])).node = node.run clock ∧
          (node.run clock).commands = [] ∧
          polled.flatMap Step.applied = course.flatMap Step.submitted ∧
          polled.flatMap Step.answered = (first.replay (course.flatMap Step.submitted)).1) ∧
      ∀ earlier step later, course = earlier ++ step :: later →
        step.Role ∧
          earlier.flatMap Step.submitted =
            earlier.flatMap Step.applied ++ step.before.commands ∧
          step.before.setup.outline =
            (first.replay (earlier.flatMap Step.applied)).2.outline := by
  intro journal first course node
  rcases serial_course classifier forwarder options history with ⟨serial, before⟩
  refine ⟨serial.queued, serial.answered, serial.configured, serial.stopped, ?_, ?_⟩
  · intro clock polled
    have reached := journal.node_after_poll history clock
    have idle := (rest_of_run classifier forwarder options history clock).2.1
    have last := (serial_course classifier forwarder options (history ++ [.poll clock])).1
    -- all that was sent before the poll has left the queue behind it
    have all : polled.flatMap Step.applied = course.flatMap Step.submitted := by
      have queued := last.queued
      rw [reached, idle, List.append_nil, submitted_course_poll] at queued
      exact queued.symm
    refine ⟨reached, idle, all, ?_⟩
    rw [← all]
    exact last.answered
  · intro earlier step later found
    have held := before earlier step later found
    have member : step ∈ course := by
      rw [found]
      exact List.mem_append_right _ List.mem_cons_self
    exact ⟨serial.roles step member, held.queued, held.configured⟩

end Node

end InbandTelemetry
