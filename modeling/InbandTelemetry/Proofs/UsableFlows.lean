import Mathlib.Data.List.Forall2
import InbandTelemetry.Proofs.Rotations

namespace InbandTelemetry

/-!
# Flows that are never at a loss

A flow that neither asks for postcards nor has a measurement is refused when it is added,
and a rotation that stands inside its measurements stays there when it is turned.  So
every flow of a classifier in use has something to ask for, and a packet that it covers
does not remain untagged for want of a measurement.
-/

open Telemetry

/-! ## Usable flows -/

namespace FlowSpec

/-- The rotation stands inside the measurements, if there are any. -/
def InRotation (spec : FlowSpec) : Prop := spec.metrics ≠ [] → spec.cursor < spec.metrics.length

/-- A flow that has something to ask for, now and after any number of turns. -/
structure Usable (spec : FlowSpec) : Prop where
  useful : spec.isUseful = true
  inRotation : spec.InRotation

theorem validate_eq_ok_iff {spec : FlowSpec} : spec.validate = .ok () ↔ spec.isUseful = true := by
  rw [validate]
  split
  · rename_i useful
    exact ⟨fun _ => useful, fun _ => rfl⟩
  · rename_i useless
    exact ⟨nofun, fun useful => absurd useful useless⟩

theorem Usable.turned {spec : FlowSpec} (usable : spec.Usable) : spec.turned.Usable := by
  rcases usable with ⟨useful, inRotation⟩
  rw [FlowSpec.turned]
  split
  · exact ⟨useful, inRotation⟩
  · exact ⟨useful, fun some => Nat.mod_lt _ (List.length_pos_iff.mpr some)⟩

/-- A usable flow asks for something at the place where its rotation stands. -/
theorem Usable.isSome_headerAt? {spec : FlowSpec} (usable : spec.Usable) :
    (spec.headerAt? spec.cursor).isSome = true := by
  rw [headerAt?]
  split
  · rfl
  · rename_i measures
    have measured : spec.metrics ≠ [] := by
      intro empty
      have useful := usable.useful
      rw [isUseful, empty, List.isEmpty_nil, Bool.not_true, Bool.or_false] at useful
      exact measures useful
    rw [Option.isSome_map, List.getElem?_eq_getElem (usable.inRotation measured)]
    rfl

end FlowSpec

namespace FlowRequest

/-- A flow that is described by a request has not been turned yet. -/
theorem cursor_of_spec {request : FlowRequest} {spec : FlowSpec}
    (described : request.spec = .ok spec) : spec.cursor = 0 := by
  simp only [FlowRequest.spec, bind, Except.bind, pure, Except.pure] at described
  -- the faults of the five parts, and then the flow itself
  repeat' split at described
  all_goals first | contradiction | cases described
  rfl

theorem accept_eq_ok_iff {request : FlowRequest} {spec : FlowSpec} :
    request.accept = .ok spec ↔ request.spec = .ok spec ∧ spec.isUseful = true := by
  rw [← FlowSpec.validate_eq_ok_iff, accept]
  cases request.spec with
  | error cause => exact ⟨nofun, nofun⟩
  | ok described =>
      dsimp only
      constructor
      · intro accepted
        split at accepted
        · contradiction
        · rename_i valid
          cases accepted
          exact ⟨rfl, valid⟩
      · rintro ⟨same, valid⟩
        cases same
        rw [valid]

/-- A flow that is accepted can be used. -/
theorem usable_of_accept {request : FlowRequest} {spec : FlowSpec}
    (accepted : request.accept = .ok spec) : spec.Usable := by
  rcases accept_eq_ok_iff.mp accepted with ⟨described, useful⟩
  refine ⟨useful, fun some => ?_⟩
  rw [cursor_of_spec described]
  exact List.length_pos_iff.mpr some

end FlowRequest

namespace Classifier

/-! ## Adding flows -/

theorem validateAll_eq_ok_iff {specs : List FlowSpec} :
    validateAll specs = .ok () ↔ ∀ spec ∈ specs, spec.isUseful = true := by
  induction specs with
  | nil => exact ⟨fun _ => nofun, fun _ => rfl⟩
  | cons spec rest ih =>
      rw [List.forall_mem_cons, ← FlowSpec.validate_eq_ok_iff, ← ih, validateAll]
      cases spec.validate with
      | error fault => exact ⟨nofun, nofun⟩
      | ok _ => exact ⟨fun others => ⟨rfl, others⟩, And.right⟩

theorem addSpecs_eq_ok_iff {classifier later : Classifier} {specs : List FlowSpec} :
    classifier.addSpecs specs = .ok later ↔
      (∀ spec ∈ specs, spec.isUseful = true) ∧
        later = { classifier with specs := classifier.specs ++ specs } := by
  rw [← validateAll_eq_ok_iff, addSpecs]
  cases validateAll specs with
  | error fault => exact ⟨nofun, nofun⟩
  | ok _ => exact ⟨fun added => ⟨rfl, (Except.ok.inj added).symm⟩, fun added => added.2 ▸ rfl⟩

theorem acceptAll_eq_ok_iff {requests : List FlowRequest} {specs : List FlowSpec} :
    acceptAll requests = .ok specs ↔
      List.Forall₂ (fun request spec => request.accept = .ok spec) requests specs := by
  induction requests generalizing specs with
  | nil =>
      rw [acceptAll, List.forall₂_nil_left_iff]
      exact ⟨fun same => (Except.ok.inj same).symm, fun same => same ▸ rfl⟩
  | cons request rest ih =>
      rw [acceptAll, List.forall₂_cons_left_iff]
      cases request.accept with
      | error fault => exact ⟨nofun, nofun⟩
      | ok spec =>
          dsimp only
          cases others : acceptAll rest with
          | error fault =>
              refine ⟨nofun, ?_⟩
              rintro ⟨_, later, -, accepted, -⟩
              rw [others] at ih
              cases ih.mpr accepted
          | ok accepted =>
              constructor
              · intro same
                cases same
                exact ⟨spec, accepted, rfl, ih.mp others, rfl⟩
              · rintro ⟨_, later, same, listed, rfl⟩
                cases same
                cases others.symm.trans (ih.mpr listed)
                rfl

/-- Flows that are described by requests are all accepted, and so they can be used. -/
theorem addRequests_eq_ok {classifier later : Classifier} {requests : List FlowRequest}
    (added : classifier.addRequests requests = .ok later) :
    ∃ specs, acceptAll requests = .ok specs ∧ (∀ spec ∈ specs, spec.Usable) ∧
      later = { classifier with specs := classifier.specs ++ specs } := by
  rw [addRequests] at added
  cases accepted : acceptAll requests with
  | error fault =>
      rw [accepted] at added
      contradiction
  | ok specs =>
      rw [accepted] at added
      have each : List.Forall₂ (fun spec (_ : FlowRequest) => spec.Usable ∧ True) specs requests :=
        (acceptAll_eq_ok_iff.mp accepted).flip.imp fun _ _ valid =>
          ⟨FlowRequest.usable_of_accept valid, trivial⟩
      exact ⟨specs, rfl, ((List.forall₂_and_left _ _).mp each).1, (addSpecs_eq_ok_iff.mp added).2⟩

/-- Among usable flows, the first one that covers a packet decides what is inserted. -/
theorem isSome_select?_iff {tuple : FiveTuple} {specs : List FlowSpec}
    (usable : ∀ spec ∈ specs, spec.Usable) :
    (select? tuple specs).isSome = true ↔ ∃ spec ∈ specs, spec.covers tuple = true := by
  induction specs with
  | nil => exact ⟨nofun, nofun⟩
  | cons spec rest ih =>
      rcases List.forall_mem_cons.mp usable with ⟨first, others⟩
      rw [List.exists_mem_cons_iff, ← ih others, select?]
      by_cases covered : spec.covers tuple = true
      · rcases Option.isSome_iff_exists.mp first.isSome_headerAt? with ⟨header, asked⟩
        rw [if_pos covered, spec.nextHeader?_eq, asked]
        exact ⟨fun _ => Or.inl covered, fun _ => rfl⟩
      · rw [if_neg covered, or_iff_right covered]
        cases select? tuple rest <;> rfl

/-! ## Classifiers in use -/

/-- A classifier that began without flows.  Since then flows have been added, as
specifications or as requests, all flows have been dropped, and packets have been tagged,
in any order.  A specification that is handed in may have been turned before. -/
inductive Configured : Classifier → Prop where
  | unused {classifier : Classifier} (none : classifier.specs = []) : Configured classifier
  | addSpecs {classifier later : Classifier} {specs : List FlowSpec}
      (configured : Configured classifier) (inRotation : ∀ spec ∈ specs, spec.InRotation)
      (added : classifier.addSpecs specs = .ok later) : Configured later
  | addRequests {classifier later : Classifier} {requests : List FlowRequest}
      (configured : Configured classifier) (added : classifier.addRequests requests = .ok later) :
      Configured later
  | clear {classifier : Classifier} (configured : Configured classifier) :
      Configured classifier.clear
  | tag {classifier later : Classifier} {packet tagged : Packet}
      (configured : Configured classifier)
      (success : classifier.tag? packet = some (tagged, later)) : Configured later

/-- Every flow of a classifier in use can be used. -/
theorem Configured.usable {classifier : Classifier} (configured : Configured classifier) :
    ∀ spec ∈ classifier.specs, spec.Usable := by
  induction configured with
  | unused none =>
      rw [none]
      exact nofun
  | addSpecs _ inRotation added ih =>
      rcases addSpecs_eq_ok_iff.mp added with ⟨useful, rfl⟩
      intro spec member
      rcases List.mem_append.mp member with old | new
      · exact ih spec old
      · exact ⟨useful spec new, inRotation spec new⟩
  | addRequests _ added ih =>
      rcases addRequests_eq_ok added with ⟨specs, -, usable, rfl⟩
      intro spec member
      rcases List.mem_append.mp member with old | new
      · exact ih spec old
      · exact usable spec new
  | clear _ _ => exact nofun
  | tag _ success ih =>
      rcases tag?_eq_some success with ⟨flow, turning, header, -, listed, -, -, -, rfl⟩
      intro spec member
      rcases List.mem_or_eq_of_mem_set member with old | rfl
      · exact ih spec old
      · exact (ih turning (List.mem_of_getElem? listed)).turned

end Classifier

end InbandTelemetry
