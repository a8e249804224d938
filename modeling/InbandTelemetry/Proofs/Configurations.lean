import InbandTelemetry.Node.Command
import InbandTelemetry.Proofs.Rotations

namespace InbandTelemetry

/-!
# Configurations

The flows and the gates of a node are its setup, which commands change one after the
other.  Packets touch it, too: they turn the rotations of the flows and are counted by
the gates.  The outline of a setup leaves out what packets touch.  How a command is
answered, and the outline that it leaves behind, depend on the outline alone.
-/

/-! ## Gates without their counts -/

/-- A gate that has counted nothing yet. -/
def Gate.blank (gate : Gate) : Gate :=
  { gate with counters := { interval := gate.counters.interval } }

theorem Counters.interval_account (counters : Counters) (packets bytes now : Nat) :
    (counters.account packets bytes now).interval = counters.interval := by
  rw [account]
  split
  · rfl
  · dsimp only
    split <;> rfl

namespace GateTable

/-- The gates of a table without their counts. -/
def outline (table : GateTable) : List (GateId × Gate) :=
  table.entries.map fun entry => (entry.1, entry.2.blank)

theorem lookup_outline (table : GateTable) (id : GateId) :
    table.outline.lookup id = (table.find? id).map Gate.blank := by
  rw [outline, find?]
  induction table.entries with
  | nil => rfl
  | cons entry rest ih =>
      rw [List.map_cons, List.lookup_cons, List.lookup_cons, ih]
      cases id == entry.1 <;> rfl

/-- A change that does not look at the counts can be made in the outline. -/
theorem outline_modify (table : GateTable) (id : GateId) {change : Gate → Gate}
    (blind : ∀ gate, (change gate).blank = change gate.blank) :
    (table.modify id change).outline =
      table.outline.map fun entry => if entry.1 = id then (entry.1, change entry.2) else entry := by
  rw [outline, modify, outline, List.map_map, List.map_map]
  apply List.map_congr_left
  intro entry _
  simp only [Function.comp_apply]
  split
  · rw [blind]
  · rfl

/-- A change of the counts does not show in the outline. -/
theorem outline_modify_of_blank (table : GateTable) (id : GateId) {change : Gate → Gate}
    (counts : ∀ gate, (change gate).blank = gate.blank) :
    (table.modify id change).outline = table.outline := by
  rw [outline, modify, outline, List.map_map]
  apply List.map_congr_left
  intro entry _
  simp only [Function.comp_apply]
  split
  · rw [counts]
  · rfl

section Outline

variable {first second : GateTable} (same : first.outline = second.outline)

include same

theorem contains_of_outline (id : GateId) : first.contains id = second.contains id := by
  have blank (table : GateTable) : table.contains id = (table.outline.lookup id).isSome := by
    rw [contains, lookup_outline, Option.isSome_map]
  rw [blank first, blank second, same]

theorem configure_of_outline (id : GateId) {change : Gate → Gate}
    (blind : ∀ gate, (change gate).blank = change gate.blank) :
    (first.configure id change).map outline = (second.configure id change).map outline := by
  rw [configure, configure, contains_of_outline same id]
  split
  · rw [Except.map, Except.map, outline_modify first id blind, outline_modify second id blind, same]
  · rfl

theorem register_of_outline (id : GateId) (direction : Direction) (reportId : UInt8)
    (interval : Nat) :
    (first.register id direction reportId interval).map outline =
      (second.register id direction reportId interval).map outline := by
  have agree : first.find? id = none ↔ second.find? id = none := by
    rw [← Option.not_isSome_iff_eq_none, ← Option.not_isSome_iff_eq_none]
    exact iff_of_eq (congrArg (fun found => ¬ found = true) (contains_of_outline same id))
  have added (table : GateTable) (gate : Gate) (absent : table.find? id = none) :
      (table.insert id gate absent).outline = table.outline ++ [(id, gate.blank)] :=
    List.map_append
  rw [register, register]
  split
  · rfl
  · by_cases absent : first.find? id = none
    · rw [dif_pos absent, dif_pos (agree.mp absent), Except.map, Except.map, added, added, same]
    · rw [dif_neg absent, dif_neg (fun other => absent (agree.mpr other))]

end Outline

end GateTable

/-! ## Setups -/

/-- The flows and the gates of a node. -/
structure Setup where
  classifier : Classifier
  gates : GateTable

namespace Setup

/-- A setup without what packets touch. -/
def outline (setup : Setup) : Classifier × List (GateId × Gate) :=
  (setup.classifier.unwound, setup.gates.outline)

/-- Change the flows if an operation on them succeeds. -/
def withFlows (setup : Setup) : Except ConfigError Classifier → Except ConfigError Unit × Setup
  | .ok classifier => (.ok (), { setup with classifier })
  | .error fault => (.error fault, setup)

/-- Change the gates if an operation on them succeeds. -/
def withGates (setup : Setup) : Except ConfigError GateTable → Except ConfigError Unit × Setup
  | .ok gates => (.ok (), { setup with gates })
  | .error fault => (.error fault, setup)

/-- The operation that a command asks for: the answer, and the setup afterwards. -/
def apply (setup : Setup) : Command → Except ConfigError Unit × Setup
  | .addFlows requests => setup.withFlows (setup.classifier.addRequests requests)
  | .clearFlows => setup.withFlows (.ok setup.classifier.clear)
  | .addGate gate direction reportId interval =>
      setup.withGates do
        setup.gates.register gate (← Direction.ofNumber direction) reportId interval
  | .setPositions gate readAt writeAt =>
      setup.withGates (setup.gates.setPositions gate readAt writeAt)
  | .setPostcard gate truncateAt nextProtocol =>
      setup.withGates (setup.gates.setPostcard gate truncateAt nextProtocol)
  | .setOverlay gate position content =>
      setup.withGates (setup.gates.setOverlay gate position content)
  | .clearGates => setup.withGates (.ok {})

/-- Commands applied one after the other: their answers, and the setup afterwards. -/
def replay (setup : Setup) : List Command → List (Except ConfigError Unit) × Setup
  | [] => ([], setup)
  | command :: rest =>
      let (answer, next) := setup.apply command
      let (answers, last) := next.replay rest
      (answer :: answers, last)

theorem replay_concat (setup : Setup) (commands : List Command) (command : Command) :
    setup.replay (commands ++ [command]) =
      ((setup.replay commands).1 ++ [((setup.replay commands).2.apply command).1],
        ((setup.replay commands).2.apply command).2) := by
  induction commands generalizing setup with
  | nil => rfl
  | cons first rest ih => simp only [List.cons_append, replay, ih]

/-- A command changes the flows and not the gates, or the gates and not the flows. -/
theorem apply_cases (setup : Setup) (command : Command) :
    (command.changeGates setup.gates = .ok setup.gates ∧
      setup.apply command = setup.withFlows (command.changeFlows setup.classifier)) ∨
    (command.changeFlows setup.classifier = .ok setup.classifier ∧
      setup.apply command = setup.withGates (command.changeGates setup.gates)) := by
  cases command with
  | addFlows | clearFlows => exact Or.inl ⟨rfl, rfl⟩
  | addGate gate direction reportId interval =>
      refine Or.inr ⟨rfl, ?_⟩
      rw [apply, Command.changeGates]
      cases Direction.ofNumber direction <;> rfl
  | setPositions | setPostcard | setOverlay | clearGates => exact Or.inr ⟨rfl, rfl⟩

/-- A command that is refused changes nothing. -/
theorem apply_of_error {setup : Setup} {command : Command} {fault : ConfigError}
    (refused : (setup.apply command).1 = .error fault) : (setup.apply command).2 = setup := by
  rcases setup.apply_cases command with ⟨-, flows⟩ | ⟨-, gates⟩
  · rw [flows] at refused ⊢
    generalize command.changeFlows setup.classifier = result at *
    cases result with
    | ok classifier => cases refused
    | error => rfl
  · rw [gates] at refused ⊢
    generalize command.changeGates setup.gates = result at *
    cases result with
    | ok gates => cases refused
    | error => rfl

/-! ### Setups with the same outline -/

theorem addRequests_of_unwound {first second : Classifier} (same : first.unwound = second.unwound)
    (requests : List FlowRequest) :
    (first.addRequests requests).map Classifier.unwound =
      (second.addRequests requests).map Classifier.unwound := by
  have added (classifier : Classifier) (specs : List FlowSpec) :
      { classifier with specs := classifier.specs ++ specs }.unwound =
        { classifier.unwound with
          specs := classifier.unwound.specs ++ specs.map FlowSpec.unwound } := by
    rw [Classifier.unwound, List.map_append]
    rfl
  rw [Classifier.addRequests, Classifier.addRequests]
  split
  · rfl
  · rw [Classifier.addSpecs, Classifier.addSpecs]
    split
    · rfl
    · rw [Except.map, Except.map, added, added, same]

section Outline

variable {first second : Setup} (same : first.outline = second.outline)

include same

theorem withFlows_of_outline {left right : Except ConfigError Classifier}
    (results : left.map Classifier.unwound = right.map Classifier.unwound) :
    (first.withFlows left).1 = (second.withFlows right).1 ∧
      (first.withFlows left).2.outline = (second.withFlows right).2.outline := by
  have gates : first.gates.outline = second.gates.outline := congrArg Prod.snd same
  cases left with
  | ok classifier =>
      cases right with
      | ok other => exact ⟨rfl, Prod.ext (Except.ok.inj results) gates⟩
      | error => cases results
  | error fault =>
      cases right with
      | ok => cases results
      | error =>
          cases results
          exact ⟨rfl, same⟩

theorem withGates_of_outline {left right : Except ConfigError GateTable}
    (results : left.map GateTable.outline = right.map GateTable.outline) :
    (first.withGates left).1 = (second.withGates right).1 ∧
      (first.withGates left).2.outline = (second.withGates right).2.outline := by
  have flows : first.classifier.unwound = second.classifier.unwound := congrArg Prod.fst same
  cases left with
  | ok gates =>
      cases right with
      | ok other => exact ⟨rfl, Prod.ext flows (Except.ok.inj results)⟩
      | error => cases results
  | error fault =>
      cases right with
      | ok => cases results
      | error =>
          cases results
          exact ⟨rfl, same⟩

/-- The answer to a command, and the outline afterwards, depend on the outline alone. -/
theorem apply_of_outline (command : Command) :
    (first.apply command).1 = (second.apply command).1 ∧
      (first.apply command).2.outline = (second.apply command).2.outline := by
  have flows : first.classifier.unwound = second.classifier.unwound := congrArg Prod.fst same
  have gates : first.gates.outline = second.gates.outline := congrArg Prod.snd same
  cases command with
  | addFlows requests => exact withFlows_of_outline same (addRequests_of_unwound flows requests)
  | clearFlows =>
      have cleared : first.classifier.clear.unwound = second.classifier.clear.unwound := by
        change first.classifier.unwound.clear = second.classifier.unwound.clear
        rw [flows]
      exact withFlows_of_outline same (congrArg Except.ok cleared)
  | addGate gate direction reportId interval =>
      refine withGates_of_outline same ?_
      cases Direction.ofNumber direction with
      | error fault => rfl
      | ok direction => exact GateTable.register_of_outline gates gate direction reportId interval
  | setPositions gate readAt writeAt =>
      exact withGates_of_outline same (GateTable.configure_of_outline gates gate fun _ => rfl)
  | setPostcard gate truncateAt nextProtocol =>
      refine withGates_of_outline same ?_
      rw [GateTable.setPostcard, GateTable.setPostcard]
      split
      · rfl
      · exact GateTable.configure_of_outline gates gate fun _ => rfl
  | setOverlay gate position content =>
      refine withGates_of_outline same ?_
      rw [GateTable.setOverlay, GateTable.setOverlay]
      split
      · rfl
      · exact GateTable.configure_of_outline gates gate fun _ => rfl
  | clearGates => exact withGates_of_outline same rfl

end Outline

end Setup

end InbandTelemetry
