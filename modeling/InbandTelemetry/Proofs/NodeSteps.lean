import InbandTelemetry.Proofs.NodeJournals

namespace InbandTelemetry

/-!
# Steps of a history

A poll is a run of moves, and everything else that can happen to a node is a single
step.  The course of a history lists its steps, so that what a node gave out or took in
on the way can be read off from it.  Only the moves of the driver change what the node
runs on: its flows, its gates and its ring, and what it has counted.
-/

namespace Event

/-- Whether the driver moves in an event. -/
def isDriven : Event → Bool
  | .move _ _ | .poll _ => true
  | _ => false

end Event

namespace Node

/-! ## What only the driver changes -/

/-- The part of a node that belongs to its driver. -/
structure Engine where
  drainLimit : Nat
  classifier : Classifier
  forwarder : Forwarder
  timing : Option TimingStatistics
  running : Bool
  statistics : NodeStatistics

def engine (node : Node) : Engine where
  drainLimit := node.drainLimit
  classifier := node.classifier
  forwarder := node.forwarder
  timing := node.timing
  running := node.running
  statistics := node.statistics

/-- The commands that an event sends.  A driver that has stopped accepts none. -/
def submitted (node : Node) : Event → List Command
  | .submit command => if node.running then [command] else []
  | _ => []

/-- All that can happen to a node between moves: commands and batches come in, answers and
postcards are collected, and the part that belongs to the driver stays as it is. -/
structure Served (node : Node) (event : Event) (next : Node) : Prop where
  engine : next.engine = node.engine
  commands : next.commands = node.commands ++ node.submitted event
  answers : next.answers.length ≤ node.answers.length
  input : node.input.length ≤ next.input.length
  postcards : next.postcards.waiting.length ≤ node.postcards.waiting.length

/-- One step of a history. -/
structure Step where
  before : Node
  event : Event
  after : Node

end Node

namespace Outlet

variable {α : Type}

theorem length_waiting_receive_le (outlet : Outlet α) (producing : Bool) :
    (outlet.receive producing).2.waiting.length ≤ outlet.waiting.length := by
  rcases outlet.receive_cases producing with ⟨-, same⟩ | ⟨item, rest, waiting, -, left⟩
  · exact Nat.le_of_eq (congrArg (fun outlet => outlet.waiting.length) same)
  · rw [left, waiting]
    exact Nat.le_succ _

theorem length_waiting_drop_le (outlet : Outlet α) :
    outlet.drop.waiting.length ≤ outlet.waiting.length := by
  rw [drop]
  split
  · exact Nat.zero_le _
  · exact Nat.le_refl _

theorem length_waiting_abandon_le (outlet : Outlet α) :
    outlet.abandon.waiting.length ≤ outlet.waiting.length := by
  rw [abandon]
  split
  · exact Nat.le_refl _
  · exact Nat.zero_le _

end Outlet

namespace Journal

/-! ## Events between moves -/

theorem served_happen (journal : Journal) {event : Event} (idle : event.isDriven = false) :
    journal.node.Served event (journal.happen event).node := by
  have quiet : journal.node.commands = journal.node.commands ++ [] :=
    (List.append_nil _).symm
  have same : ∀ {count : Nat}, count ≤ count := Nat.le_refl _
  cases event with
  | submit command =>
      rw [happen, Node.submit]
      by_cases runs : journal.node.running = true
      · rw [if_pos runs]
        refine ⟨rfl, ?_, same, same, same⟩
        rw [Node.submitted, if_pos runs]
      · rw [if_neg runs]
        refine ⟨rfl, ?_, same, same, same⟩
        rw [Node.submitted, if_neg runs]
        exact quiet
  | collect =>
      rw [happen, Node.collect]
      split
      · exact ⟨rfl, quiet, same, same, same⟩
      · rename_i answer rest waiting
        refine ⟨rfl, quiet, ?_, same, same⟩
        rw [waiting]
        exact Nat.le_succ _
  | send gated =>
      rw [happen, Node.send]
      split
      · rename_i node accepted
        split at accepted
        · contradiction
        · split at accepted
          · cases accepted
            refine ⟨rfl, quiet, same, ?_, same⟩
            rw [List.length_append]
            exact Nat.le_add_right _ _
          · contradiction
      · exact ⟨rfl, quiet, same, same, same⟩
  | receivePostcard =>
      exact ⟨rfl, quiet, same, same,
        journal.node.postcards.length_waiting_receive_le journal.node.running⟩
  | dropPostcards =>
      exact ⟨rfl, quiet, same, same, journal.node.postcards.length_waiting_drop_le⟩
  | release => exact ⟨rfl, quiet, same, same, journal.node.postcards.length_waiting_abandon_le⟩
  | takeOutput | takePostcards | receive | tick | dropOutput =>
      exact ⟨rfl, quiet, same, same, same⟩
  | move | poll => contradiction

/-! ## The course of a history -/

/-- The moves of a poll. -/
def polled (clock : Nat → Nat) (reading : Nat) (journal : Journal) : List Node.Step :=
  match moved : journal.node.advance (clock reading) (clock (reading + 1)) with
  | none => []
  | some next =>
      ⟨journal.node, .move (clock reading) (clock (reading + 1)), next⟩ ::
        polled clock (reading + 2) (journal.advanceTo next)
termination_by journal.node.pending
decreasing_by exact Node.pending_lt_of_advance moved

/-- The steps of an event, oldest first. -/
def steps (journal : Journal) : Event → List Node.Step
  | .poll clock => journal.polled clock 0
  | event => [⟨journal.node, event, (journal.happen event).node⟩]

/-- The steps of a history, oldest first. -/
def course (journal : Journal) : List Event → List Node.Step
  | [] => []
  | event :: later => journal.steps event ++ (journal.happen event).course later

section Course

variable {journal : Journal} {clock : Nat → Nat} {reading : Nat}

theorem polled_of_still
    (still : journal.node.advance (clock reading) (clock (reading + 1)) = none) :
    journal.polled clock reading = [] := by
  rw [polled]
  split
  · rfl
  · rename_i moved
    rw [still] at moved
    contradiction

theorem polled_of_moved {next : Node}
    (moved : journal.node.advance (clock reading) (clock (reading + 1)) = some next) :
    journal.polled clock reading =
      ⟨journal.node, .move (clock reading) (clock (reading + 1)), next⟩ ::
        (journal.advanceTo next).polled clock (reading + 2) := by
  rw [polled]
  split
  · rename_i still
    rw [moved] at still
    contradiction
  · rename_i other same
    cases moved.symm.trans same
    rfl

theorem course_append (history later : List Event) :
    journal.course (history ++ later) =
      journal.course history ++ (journal.after history).course later := by
  induction history generalizing journal with
  | nil => rfl
  | cons event rest ih =>
      rw [List.cons_append, course, ih, course, List.append_assoc]
      rfl

/-- A poll sends no commands. -/
theorem submitted_polled :
    (journal.polled clock reading).flatMap (fun step => step.before.submitted step.event) = [] := by
  induction reading, journal using Journal.poll.induct clock with
  | case1 reading journal still =>
      rw [polled_of_still still]
      rfl
  | case2 reading journal next moved ih =>
      rw [polled_of_moved moved, List.flatMap_cons, ih]
      rfl

end Course

/-- What holds of the steps so far and of the node that they have led to, for every history
that is run step by step. -/
structure Inductive (Holds : List Node.Step → Node → Prop) : Prop where
  /-- Whatever happens between the moves of the driver keeps it. -/
  served : ∀ past (node next : Node) event, event.isDriven = false →
    node.Served event next → Holds past node → Holds (past ++ [⟨node, event, next⟩]) next
  /-- A move that finds nothing to do keeps it. -/
  still : ∀ past node arrival departure, Holds past node →
    Holds (past ++ [⟨node, .move arrival departure, node⟩]) node
  moved : ∀ past (node next : Node) arrival departure,
    node.advance arrival departure = some next → Holds past node →
    Holds (past ++ [⟨node, .move arrival departure, next⟩]) next

namespace Inductive

variable {Holds : List Node.Step → Node → Prop} (kept : Inductive Holds)

include kept

theorem poll {journal : Journal} {past : List Node.Step} (holds : Holds past journal.node)
    (clock : Nat → Nat) (reading : Nat) :
    Holds (past ++ journal.polled clock reading) (journal.poll clock reading).node := by
  induction reading, journal using Journal.poll.induct clock generalizing past with
  | case1 reading journal still =>
      rw [polled_of_still still, poll_of_still still, List.append_nil]
      exact holds
  | case2 reading journal next moved ih =>
      rw [polled_of_moved moved, poll_of_moved moved, List.append_cons]
      exact ih (kept.moved past journal.node next _ _ moved holds)

theorem happen {journal : Journal} {past : List Node.Step} (holds : Holds past journal.node)
    (event : Event) : Holds (past ++ journal.steps event) (journal.happen event).node := by
  cases event with
  | move arrival departure =>
      change Holds (past ++ [⟨journal.node, _, (journal.move arrival departure).node⟩])
        (journal.move arrival departure).node
      rw [Journal.move]
      split
      · exact kept.still past journal.node arrival departure holds
      · rename_i next moved
        exact kept.moved past journal.node next arrival departure moved holds
  | poll clock => exact kept.poll holds clock 0
  | submit | collect | send | takeOutput | takePostcards | receive | receivePostcard | tick
  | dropOutput | dropPostcards | release =>
      exact kept.served past journal.node _ _ rfl (journal.served_happen rfl) holds

/-- What every step keeps holds after every history. -/
theorem after {journal : Journal} {past : List Node.Step} (holds : Holds past journal.node)
    (history : List Event) :
    Holds (past ++ journal.course history) (journal.after history).node := by
  induction history generalizing journal past with
  | nil =>
      rw [course, List.append_nil]
      exact holds
  | cons event later ih =>
      rw [course, ← List.append_assoc]
      exact ih (kept.happen holds event)

end Inductive

/-- It holds now, and it held in front of every step so far. -/
def Throughout (Holds : List Node.Step → Node → Prop) (past : List Node.Step) (node : Node) :
    Prop :=
  Holds past node ∧ ∀ earlier step later, past = earlier ++ step :: later →
    Holds earlier step.before

theorem Throughout.append {Holds : List Node.Step → Node → Prop} {past : List Node.Step}
    {step : Node.Step} (throughout : Throughout Holds past step.before)
    (holds : Holds (past ++ [step]) step.after) :
    Throughout Holds (past ++ [step]) step.after := by
  refine ⟨holds, ?_⟩
  intro earlier other later same
  rcases List.eq_nil_or_concat later with rfl | ⟨between, last, rfl⟩
  · rcases List.append_inj' same rfl with ⟨rfl, one⟩
    cases one
    exact throughout.1
  · rw [List.concat_eq_append, ← List.cons_append, ← List.append_assoc] at same
    exact throughout.2 earlier other between (List.append_inj' same rfl).1

/-- What every step keeps has held in front of every step. -/
theorem Inductive.throughout {Holds : List Node.Step → Node → Prop} (kept : Inductive Holds) :
    Inductive (Throughout Holds) where
  served past node next event idle served holds :=
    holds.append (kept.served past node next event idle served holds.1)
  still past node arrival departure holds :=
    holds.append (kept.still past node arrival departure holds.1)
  moved past node next arrival departure moved holds :=
    holds.append (kept.moved past node next arrival departure moved holds.1)

end Journal

end InbandTelemetry
