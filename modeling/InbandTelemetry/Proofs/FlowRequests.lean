import Mathlib.Data.Set.List
import InbandTelemetry.Proofs.ExactTagging
import InbandTelemetry.Proofs.TaggingRuns

namespace InbandTelemetry

/-!
# Flows that are asked for

A request for a flow is accepted just if each of its parts is valid and it asks for anything,
and the flow is then known from the request part by part.  Requests that come together are
accepted together or not at all, wherever in the list a faulty one stands.  A classifier that
flows are added to, removed from and tagged by, in any order, therefore holds flows only that
have something to ask for.
-/

namespace Subnet

/-- What a text in a request stands for: any address if it is empty, and otherwise the subnet that
it describes. -/
inductive StandsFor : List Char → Subnet → Prop where
  | any : StandsFor [] .all
  | described {text : List Char} {subnet : Subnet} :
      ofText text = .ok subnet → StandsFor text subnet

end Subnet

theorem FlowSpec.isUseful_iff {spec : FlowSpec} :
    spec.isUseful = true ↔ spec.postcard = true ∨ spec.metrics ≠ [] := by
  rw [isUseful, Bool.or_eq_true, Bool.not_eq_true', List.isEmpty_eq_false_iff]

/-- A computation that may fail succeeds just if both of its parts do. -/
theorem bind_eq_ok_iff {ε α β : Type} {first : Except ε α} {next : α → Except ε β} {result : β} :
    first >>= next = .ok result ↔ ∃ value, first = .ok value ∧ next value = .ok result := by
  cases first with
  | error fault => exact ⟨nofun, fun ⟨_, impossible, _⟩ => nomatch impossible⟩
  | ok value =>
      constructor
      · intro success
        exact ⟨value, rfl, success⟩
      · rintro ⟨_, ⟨⟩, success⟩
        exact success

namespace FlowRequest

/-! ## One request -/

/-- Every part of a request is valid, and it asks for postcards or for a measurement. -/
structure Acceptable (request : FlowRequest) : Prop where
  source : request.source = [] ∨ ∃ subnet, Subnet.ofText request.source = .ok subnet
  destination : request.destination = [] ∨ ∃ subnet, Subnet.ofText request.destination = .ok subnet
  sourcePort : request.sourcePort < 65536
  destinationPort : request.destinationPort < 65536
  codes : ∀ code ∈ request.metricCodes, code ≤ 4
  asks : request.metricCodes ≠ [] ∨ request.postcard = true

/-- A flow is the one that a request describes, with its rotation at the beginning. -/
structure Describes (request : FlowRequest) (spec : FlowSpec) : Prop where
  source : Subnet.StandsFor request.source spec.source
  destination : Subnet.StandsFor request.destination spec.destination
  sourcePort : spec.sourcePort.toNat = request.sourcePort
  destinationPort : spec.destinationPort.toNat = request.destinationPort
  postcard : spec.postcard = request.postcard
  codes : spec.metrics.map (fun metric => metric.code.toNat) = request.metricCodes
  cursor : spec.cursor = 0

theorem metric_eq_ok_iff {code : Nat} {found : Metric} :
    metric code = .ok found ↔ found.code.toNat = code := by
  have small := found.code.toNat_lt
  rw [metric]
  constructor
  · intro assigned
    split at assigned
    · rename_i byte
      cases known : Metric.ofCode? (UInt8.ofNat code) with
      | none =>
          rw [known] at assigned
          contradiction
      | some other =>
          rw [known] at assigned
          cases assigned
          rw [Metric.code_of_ofCode? known, UInt8.toNat_ofNat_of_lt' byte]
    · contradiction
  · rintro rfl
    rw [if_pos small, UInt8.ofNat_toNat, Metric.ofCode?_code]
    rfl

/-- The codes of measurements are those up to four. -/
theorem exists_metric_iff {code : Nat} : (∃ found, metric code = .ok found) ↔ code ≤ 4 := by
  simp only [metric_eq_ok_iff]
  constructor
  · rintro ⟨found, rfl⟩
    cases found <;> decide
  · intro assigned
    match code, assigned with
    | 0, _ => exact ⟨.latency, rfl⟩
    | 1, _ => exact ⟨.ingressPacketRate, rfl⟩
    | 2, _ => exact ⟨.ingressByteRate, rfl⟩
    | 3, _ => exact ⟨.egressPacketRate, rfl⟩
    | 4, _ => exact ⟨.egressByteRate, rfl⟩

theorem mapM_metric_eq_ok_iff {codes : List Nat} {found : List Metric} :
    codes.mapM metric = .ok found ↔ found.map (fun metric => metric.code.toNat) = codes := by
  induction codes generalizing found with
  | nil =>
      rw [List.mapM_nil, List.map_eq_nil_iff]
      exact ⟨fun same => (Except.ok.inj same).symm, fun same => same ▸ rfl⟩
  | cons code rest ih =>
      simp only [List.mapM_cons, bind_eq_ok_iff, metric_eq_ok_iff, ih, List.map_eq_cons_iff]
      constructor
      · rintro ⟨first, known, later, others, same⟩
        cases same
        exact ⟨first, later, rfl, known, others⟩
      · rintro ⟨first, later, rfl, known, others⟩
        exact ⟨first, known, later, others, rfl⟩

theorem subnet_eq_ok_iff {text : List Char} {found : Subnet} :
    subnet text = .ok found ↔ Subnet.StandsFor text found := by
  rw [subnet]
  cases text with
  | nil =>
      constructor
      · rintro ⟨⟩
        exact .any
      · intro stands
        cases stands with
        | any => rfl
        | described read => cases read
  | cons first rest =>
      rw [List.isEmpty_cons, if_neg Bool.false_ne_true]
      constructor
      · intro read
        cases parsed : Subnet.ofText (first :: rest) with
        | ok other =>
            rw [parsed] at read
            cases read
            exact .described parsed
        | error fault =>
            rw [parsed] at read
            cases read
      · intro stands
        cases stands with
        | described read =>
            rw [read]
            rfl

theorem portNumber_eq_ok_iff {number : Nat} {port : UInt16} :
    portNumber number = .ok port ↔ port.toNat = number := by
  rw [portNumber]
  constructor
  · intro assigned
    split at assigned
    · rename_i word
      cases assigned
      exact UInt16.toNat_ofNat_of_lt' word
    · contradiction
  · rintro rfl
    rw [if_pos port.toNat_lt, UInt16.ofNat_toNat]

/-- A request is read as the flow that it describes. -/
theorem spec_eq_ok_iff {request : FlowRequest} {described : FlowSpec} :
    request.spec = .ok described ↔ request.Describes described := by
  simp only [spec, bind_eq_ok_iff, mapM_metric_eq_ok_iff, subnet_eq_ok_iff, portNumber_eq_ok_iff]
  constructor
  · rintro ⟨_, codes, _, source, _, destination, _, sourcePort, _, destinationPort, same⟩
    cases same
    exact ⟨source, destination, sourcePort, destinationPort, rfl, codes, rfl⟩
  · rintro ⟨source, destination, sourcePort, destinationPort, postcard, codes, cursor⟩
    refine ⟨_, codes, _, source, _, destination, _, sourcePort, _, destinationPort, ?_⟩
    rcases described
    cases postcard
    cases cursor
    rfl

theorem exists_standsFor_iff {text : List Char} :
    (∃ subnet, Subnet.StandsFor text subnet) ↔
      text = [] ∨ ∃ subnet, Subnet.ofText text = .ok subnet := by
  constructor
  · rintro ⟨subnet, stands⟩
    cases stands with
    | any => exact Or.inl rfl
    | described read => exact Or.inr ⟨subnet, read⟩
  · rintro (rfl | ⟨subnet, read⟩)
    · exact ⟨.all, .any⟩
    · exact ⟨subnet, .described read⟩

theorem exists_port_iff {number : Nat} :
    (∃ port : UInt16, port.toNat = number) ↔ number < 65536 := by
  constructor
  · rintro ⟨port, rfl⟩
    exact port.toNat_lt
  · intro word
    exact ⟨UInt16.ofNat number, UInt16.toNat_ofNat_of_lt' word⟩

theorem exists_metrics_iff {codes : List Nat} :
    (∃ metrics : List Metric, metrics.map (fun metric => metric.code.toNat) = codes) ↔
      ∀ code ∈ codes, code ≤ 4 := by
  rw [← Set.mem_range, Set.range_list_map]
  simp only [← exists_metric_iff, metric_eq_ok_iff]
  rfl

theorem Describes.isUseful_iff {request : FlowRequest} {spec : FlowSpec}
    (describes : request.Describes spec) :
    spec.isUseful = true ↔ request.metricCodes ≠ [] ∨ request.postcard = true := by
  rw [FlowSpec.isUseful_iff, ← describes.codes, ← describes.postcard, Ne, Ne, List.map_eq_nil_iff]
  exact or_comm

/-- A request is accepted just if it is acceptable. -/
theorem exists_accept_iff {request : FlowRequest} :
    (∃ spec, request.accept = .ok spec) ↔ request.Acceptable := by
  simp only [accept_eq_ok_iff, spec_eq_ok_iff]
  constructor
  · rintro ⟨spec, describes, useful⟩
    exact
      { source := exists_standsFor_iff.mp ⟨_, describes.source⟩
        destination := exists_standsFor_iff.mp ⟨_, describes.destination⟩
        sourcePort := exists_port_iff.mp ⟨_, describes.sourcePort⟩
        destinationPort := exists_port_iff.mp ⟨_, describes.destinationPort⟩
        codes := exists_metrics_iff.mp ⟨_, describes.codes⟩
        asks := describes.isUseful_iff.mp useful }
  · rintro ⟨source, destination, sourcePort, destinationPort, codes, asks⟩
    rcases exists_standsFor_iff.mpr source with ⟨sources, source⟩
    rcases exists_standsFor_iff.mpr destination with ⟨destinations, destination⟩
    rcases exists_port_iff.mpr sourcePort with ⟨leaving, sourcePort⟩
    rcases exists_port_iff.mpr destinationPort with ⟨arriving, destinationPort⟩
    rcases exists_metrics_iff.mpr codes with ⟨metrics, codes⟩
    have describes : request.Describes
        ⟨sources, destinations, leaving, arriving, request.postcard, metrics, 0⟩ :=
      ⟨source, destination, sourcePort, destinationPort, rfl, codes, rfl⟩
    exact ⟨_, describes, describes.isUseful_iff.mpr asks⟩

end FlowRequest

namespace FlowSpec

/-- A specification as it can be handed to a classifier: put together from its parts, with the
rotation at its beginning, or taken from a classifier that has turned it. -/
inductive Built : FlowSpec → Prop where
  | plain (source destination : Subnet) : Built { source, destination }
  | ports {spec : FlowSpec} (sourcePort destinationPort : UInt16) :
      Built spec → Built { spec with sourcePort, destinationPort }
  | metrics {spec : FlowSpec} (metrics : List Metric) :
      Built spec → Built { spec with metrics, cursor := 0 }
  | postcard {spec : FlowSpec} : Built spec → Built { spec with postcard := true }
  | turned {spec : FlowSpec} : Built spec → Built spec.turned

/-- The rotation of a specification never stands outside its measurements. -/
theorem Built.inRotation {spec : FlowSpec} (built : spec.Built) : spec.InRotation := by
  induction built with
  | plain => exact fun measures => absurd rfl measures
  | ports _ _ _ ih | postcard _ ih => exact ih
  | metrics => exact fun measures => List.length_pos_iff.mpr measures
  | turned _ ih =>
      rw [FlowSpec.turned]
      split
      · exact ih
      · exact fun measures => Nat.mod_lt _ (List.length_pos_iff.mpr measures)

end FlowSpec

namespace Classifier

/-! ## Requests that come together -/

/-- A relation finds something for each entry of a list just if it finds a whole list. -/
theorem exists_forall₂_iff {α β : Type} {relation : α → β → Prop} {entries : List α} :
    (∃ others, List.Forall₂ relation entries others) ↔ ∀ entry ∈ entries, ∃ other,
      relation entry other := by
  induction entries with
  | nil => exact ⟨fun _ => nofun, fun _ => ⟨[], .nil⟩⟩
  | cons entry rest ih =>
      simp only [List.forall_mem_cons, ← ih, List.forall₂_cons_left_iff]
      constructor
      · rintro ⟨_, other, others, found, later, -⟩
        exact ⟨⟨other, found⟩, others, later⟩
      · rintro ⟨⟨other, found⟩, others, later⟩
        exact ⟨_, other, others, found, later, rfl⟩

theorem addRequests_eq_ok_iff {classifier later : Classifier} {requests : List FlowRequest} :
    classifier.addRequests requests = .ok later ↔
      ∃ specs, List.Forall₂ (fun request spec => request.accept = .ok spec) requests specs ∧
        later = { classifier with specs := classifier.specs ++ specs } := by
  constructor
  · intro added
    rcases addRequests_eq_ok added with ⟨specs, accepted, -, same⟩
    exact ⟨specs, acceptAll_eq_ok_iff.mp accepted, same⟩
  · rintro ⟨specs, accepted, same⟩
    have useful : ∀ spec ∈ specs, spec.isUseful = true := by
      have each : List.Forall₂ (fun spec (_ : FlowRequest) => spec.isUseful = true ∧ True) specs
          requests :=
        accepted.flip.imp fun _ _ valid => ⟨(FlowRequest.accept_eq_ok_iff.mp valid).2, trivial⟩
      exact ((List.forall₂_and_left _ _).mp each).1
    rw [addRequests, acceptAll_eq_ok_iff.mpr accepted]
    exact addSpecs_eq_ok_iff.mpr ⟨useful, same⟩

/-! ## A classifier in use -/

/-- What can be done to a classifier. -/
inductive Action where
  | addSpecs (specs : List FlowSpec) (built : ∀ spec ∈ specs, spec.Built)
  | addRequests (requests : List FlowRequest)
  | clear
  | tag (packet : Packet)

/-- The answer to a change that may be refused, and the classifier afterwards. -/
def settle (classifier : Classifier) :
    Except ConfigError Classifier → Except ConfigError Unit × Classifier
  | .ok later => (.ok (), later)
  | .error fault => (.error fault, classifier)

/-- Carry out one action: the answer, and the classifier afterwards. -/
def act (classifier : Classifier) : Action → Except ConfigError Unit × Classifier
  | .addSpecs specs _ => classifier.settle (classifier.addSpecs specs)
  | .addRequests requests => classifier.settle (classifier.addRequests requests)
  | .clear => (.ok (), classifier.clear)
  | .tag packet => (.ok (), (⟨classifier, packet⟩ : Passing).after)

/-- The classifier after actions, the first one first. -/
def after (classifier : Classifier) (actions : List Action) : Classifier :=
  actions.foldl (fun classifier action => (classifier.act action).2) classifier

/-- An action that offers flows is refused just if one of the entries that it offers is not
valid.  It then changes nothing, and otherwise it appends flows and changes nothing else. -/
structure AllOrNothing {α : Type} (classifier : Classifier) (action : Action) (offered : List α)
    (Valid : α → Prop) (Adds : List FlowSpec → Prop) : Prop where
  refused_iff : (∃ fault, (classifier.act action).1 = .error fault) ↔
    ∃ entry ∈ offered, ¬ Valid entry
  unchanged : ∀ fault, (classifier.act action).1 = .error fault →
    (classifier.act action).2 = classifier
  appended : (classifier.act action).1 = .ok () → ∃ specs, Adds specs ∧
    (classifier.act action).2 = { classifier with specs := classifier.specs ++ specs }

theorem allOrNothing_of_settle {α : Type} {classifier : Classifier} {action : Action}
    {offered : List α} {Valid : α → Prop} {Adds : List FlowSpec → Prop}
    (result : Except ConfigError Classifier)
    (acted : classifier.act action = classifier.settle result)
    (succeeds : (∃ later, result = .ok later) ↔ ∀ entry ∈ offered, Valid entry)
    (adds : ∀ later, result = .ok later → ∃ specs, Adds specs ∧
      later = { classifier with specs := classifier.specs ++ specs }) :
    AllOrNothing classifier action offered Valid Adds := by
  cases result with
  | ok later =>
      have all := succeeds.mp ⟨later, rfl⟩
      refine ⟨?_, ?_, ?_⟩ <;> rw [acted, settle]
      · refine ⟨nofun, ?_⟩
        rintro ⟨entry, member, invalid⟩
        exact absurd (all entry member) invalid
      · exact nofun
      · exact fun _ => adds later rfl
  | error fault =>
      refine ⟨?_, ?_, ?_⟩ <;> rw [acted, settle]
      · refine ⟨fun _ => ?_, fun _ => ⟨fault, rfl⟩⟩
        by_contra allValid
        push Not at allValid
        rcases succeeds.mpr allValid with ⟨_, ⟨⟩⟩
      · exact fun _ _ => rfl
      · exact nofun

theorem allOrNothing_addSpecs (classifier : Classifier) (specs : List FlowSpec)
    (built : ∀ spec ∈ specs, spec.Built) :
    AllOrNothing classifier (.addSpecs specs built) specs
      (fun spec => spec.postcard = true ∨ spec.metrics ≠ []) (· = specs) := by
  apply allOrNothing_of_settle (classifier.addSpecs specs) rfl
  · simp only [addSpecs_eq_ok_iff, exists_and_left, exists_eq, and_true, FlowSpec.isUseful_iff]
  · intro later added
    exact ⟨specs, rfl, (addSpecs_eq_ok_iff.mp added).2⟩

theorem allOrNothing_addRequests (classifier : Classifier) (requests : List FlowRequest) :
    AllOrNothing classifier (.addRequests requests) requests FlowRequest.Acceptable
      (List.Forall₂ FlowRequest.Describes requests) := by
  apply allOrNothing_of_settle (classifier.addRequests requests) rfl
  · simp only [addRequests_eq_ok_iff, ← FlowRequest.exists_accept_iff, ← exists_forall₂_iff]
    constructor
    · rintro ⟨_, specs, accepted, -⟩
      exact ⟨specs, accepted⟩
    · rintro ⟨specs, accepted⟩
      exact ⟨_, specs, accepted, rfl⟩
  · intro later added
    rcases addRequests_eq_ok_iff.mp added with ⟨specs, accepted, same⟩
    refine ⟨specs, accepted.imp fun request spec valid => ?_, same⟩
    exact FlowRequest.spec_eq_ok_iff.mp (FlowRequest.accept_eq_ok_iff.mp valid).1

theorem Configured.settle {classifier : Classifier} (configured : Configured classifier)
    {result : Except ConfigError Classifier}
    (changed : ∀ later, result = .ok later → Configured later) :
    Configured (classifier.settle result).2 := by
  cases result with
  | ok later => exact changed later rfl
  | error => exact configured

theorem Configured.act {classifier : Classifier} (configured : Configured classifier)
    (action : Action) : Configured (classifier.act action).2 := by
  cases action with
  | addSpecs specs built =>
      exact configured.settle fun _ added =>
        .addSpecs configured (fun spec member => (built spec member).inRotation) added
  | addRequests requests => exact configured.settle fun _ added => .addRequests configured added
  | clear => exact .clear configured
  | tag packet =>
      rw [Classifier.act, Passing.after]
      cases result : classifier.tag? packet with
      | none => exact configured
      | some tagged => exact .tag configured result

theorem Configured.after {classifier : Classifier} (configured : Configured classifier)
    (actions : List Action) : Configured (classifier.after actions) := by
  induction actions generalizing classifier with
  | nil => exact configured
  | cons action rest ih => exact ih (configured.act action)

/-- Whatever has been done to a classifier that began without flows.  Flows are added to it all or
none, and none just if one of them asks for nothing, or one of the requests is not acceptable.
Every flow that it holds has something to ask for at the place where its rotation stands, so
that a packet is tagged just if the classifier accepts it. -/
theorem flows_of_actions (options : Classifier) (actions : List Action) :
    let reached := ({ options with specs := [] } : Classifier).after actions
    (∀ specs built, AllOrNothing reached (.addSpecs specs built) specs
        (fun spec => spec.postcard = true ∨ spec.metrics ≠ []) (· = specs)) ∧
      (∀ requests, AllOrNothing reached (.addRequests requests) requests FlowRequest.Acceptable
        (List.Forall₂ FlowRequest.Describes requests)) ∧
      (∀ spec ∈ reached.specs, (spec.postcard = true ∨ spec.metrics ≠ []) ∧
        (spec.metrics ≠ [] → spec.cursor < spec.metrics.length)) ∧
      ∀ packet, (reached.tag? packet).isSome = true ↔ reached.Accepts packet.data := by
  intro reached
  have configured : Configured reached := Configured.after (.unused rfl) actions
  refine ⟨reached.allOrNothing_addSpecs, reached.allOrNothing_addRequests, ?_,
    isSome_tag?_iff configured.usable⟩
  intro spec member
  have usable := configured.usable spec member
  exact ⟨FlowSpec.isUseful_iff.mp usable.useful, usable.inRotation⟩

end Classifier

end InbandTelemetry
