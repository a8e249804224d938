import InbandTelemetry.Proofs.Rotations

namespace InbandTelemetry

/-!
# Rotations over whole runs

Packets of several flows pass a classifier in one stream, and some of them are left
as they are.  A packet that is tagged turns the rotation of one flow, the first one
that covers it, and no other packet does.  So each flow asks for its measurements in
turn, whatever lies between its packets and in whatever batches they come.
-/

open Telemetry

/-! ## A packet in a run -/

/-- A packet in front of a classifier. -/
structure Passing where
  before : Classifier
  packet : Packet

namespace Passing

/-- The packet that comes out. -/
def output (passing : Passing) : Packet :=
  ((passing.before.tag? passing.packet).map Prod.fst).getD passing.packet

/-- The classifier behind the packet. -/
def after (passing : Passing) : Classifier :=
  ((passing.before.tag? passing.packet).map Prod.snd).getD passing.before

/-- The flow for which the packet is tagged.  There is none if it is left as it is. -/
def flow? (passing : Passing) : Option Nat :=
  if (passing.before.tag? passing.packet).isSome then passing.before.flowOf? passing.packet.data
  else none

/-- The place in the rotation of its flow at which the packet is tagged. -/
def place? (passing : Passing) : Option Nat :=
  passing.flow?.bind fun flow => passing.before.specs[flow]?.map FlowSpec.cursor

/-- The packet comes out with the block for what a flow asks for at a place of its
rotation, and still carries that block if it has been spared. -/
def CarriesAt (passing : Passing) (spec : FlowSpec) (place : Nat) : Prop :=
  ∃ header, spec.headerAt? place = some header ∧
    passing.output =
      { passing.packet with data := passing.before.withBlock header passing.packet.data } ∧
    (passing.before.SparesBlock passing.packet.data →
      Block.at? passing.output.data passing.before.insertOffset = some (Block.fresh header))

/-- A packet is left as it is, or it is tagged for one flow and turns its rotation. -/
theorem cases (passing : Passing) :
    (passing.flow? = none ∧ passing.output = passing.packet ∧ passing.after = passing.before) ∨
      ∃ flow spec, passing.flow? = some flow ∧
        passing.before.flowOf? passing.packet.data = some flow ∧
        passing.before.specs[flow]? = some spec ∧ passing.CarriesAt spec spec.cursor ∧
        passing.after =
          { passing.before with specs := passing.before.specs.set flow spec.turned } := by
  rcases passing with ⟨before, packet⟩
  cases success : before.tag? packet with
  | none =>
      left
      simp only [flow?, output, after, success]
      exact ⟨rfl, rfl, rfl⟩
  | some result =>
      right
      rcases result with ⟨tagged, later⟩
      rcases Classifier.tag?_eq_some success with
        ⟨flow, spec, header, first, listed, asked, inside, rfl, rfl⟩
      refine ⟨flow, spec, ?_, first, listed, ⟨header, asked, ?_, ?_⟩, ?_⟩
      · simp only [flow?, success, Option.isSome_some, if_true]
        exact first
      · simp only [output, success, Option.map_some, Option.getD_some]
      · intro spared
        simp only [output, success, Option.map_some, Option.getD_some]
        exact Classifier.at?_withBlock header inside spared
      · simp only [after, success, Option.map_some, Option.getD_some]

theorem unwound_after (passing : Passing) : passing.after.unwound = passing.before.unwound := by
  rcases passing.cases with ⟨-, -, same⟩ | ⟨flow, spec, -, -, listed, -, next⟩
  · rw [same]
  · rw [next, Classifier.unwound_set listed]

/-- A packet turns the rotation of the flow for which it is tagged, and no other one. -/
theorem specs_after (passing : Passing) (flow : Nat) :
    passing.after.specs[flow]? =
      if passing.flow? = some flow then passing.before.specs[flow]?.map FlowSpec.turned
      else passing.before.specs[flow]? := by
  rcases passing.cases with ⟨unmatched, -, same⟩ | ⟨own, spec, matched, -, listed, -, next⟩
  · rw [unmatched, if_neg nofun, same]
  · rw [matched, next]
    by_cases same : own = flow
    · subst same
      rw [if_pos rfl, listed, Option.map_some]
      exact List.getElem?_set_self (List.getElem?_eq_some_iff.mp listed).1
    · rw [if_neg (fun equal => same (Option.some.inj equal))]
      exact List.getElem?_set_ne same

end Passing

namespace Classifier

/-! ## Runs -/

/-- The packets of a batch, each in front of the classifier as it finds it. -/
def passings (classifier : Classifier) : Batch → List Passing
  | [] => []
  | packet :: rest =>
      ⟨classifier, packet⟩ :: (⟨classifier, packet⟩ : Passing).after.passings rest

/-- Batches behind a classifier, one after the other, and the classifier afterwards. -/
def processAll (classifier : Classifier) : List Batch → List Batch × Classifier
  | [] => ([], classifier)
  | batch :: rest =>
      let tagging := classifier.process batch
      let (later, last) := tagging.classifier.processAll rest
      (tagging.batch :: later, last)

theorem process_cons (classifier : Classifier) (packet : Packet) (rest : Batch) :
    let passing : Passing := ⟨classifier, packet⟩
    (classifier.process (packet :: rest)).batch =
        passing.output :: (passing.after.process rest).batch ∧
      (classifier.process (packet :: rest)).classifier =
        (passing.after.process rest).classifier := by
  rw [process, tag_eq]
  dsimp only [Passing.output, Passing.after]
  cases classifier.tag? packet with
  | none => exact ⟨rfl, rfl⟩
  | some result => exact ⟨rfl, rfl⟩

theorem process_append (classifier : Classifier) (batch later : Batch) :
    (classifier.process (batch ++ later)).batch =
        (classifier.process batch).batch ++
          ((classifier.process batch).classifier.process later).batch ∧
      (classifier.process (batch ++ later)).classifier =
        ((classifier.process batch).classifier.process later).classifier := by
  induction batch generalizing classifier with
  | nil => exact ⟨rfl, rfl⟩
  | cons packet rest ih =>
      rcases classifier.process_cons packet (rest ++ later) with ⟨whole, last⟩
      rcases classifier.process_cons packet rest with ⟨first, between⟩
      rw [List.cons_append, whole, last, first, between, (ih _).1, (ih _).2]
      exact ⟨rfl, rfl⟩

/-- It makes no difference in which batches the packets come. -/
theorem processAll_eq (classifier : Classifier) (batches : List Batch) :
    (classifier.processAll batches).1.flatten = (classifier.process batches.flatten).batch ∧
      (classifier.processAll batches).2 = (classifier.process batches.flatten).classifier := by
  induction batches generalizing classifier with
  | nil => exact ⟨rfl, rfl⟩
  | cons batch rest ih =>
      rw [List.flatten_cons, (classifier.process_append batch _).1,
        (classifier.process_append batch _).2, ← (ih _).1, ← (ih _).2]
      exact ⟨rfl, rfl⟩

theorem batch_process (classifier : Classifier) (batch : Batch) :
    (classifier.process batch).batch = (classifier.passings batch).map Passing.output := by
  induction batch generalizing classifier with
  | nil => rfl
  | cons packet rest ih =>
      rw [(classifier.process_cons packet rest).1, ih]
      rfl

/-- The flows stay the same, but for the places in their rotations. -/
theorem unwound_of_passings {classifier : Classifier} {batch : Batch} {passing : Passing}
    (member : passing ∈ classifier.passings batch) :
    passing.before.unwound = classifier.unwound := by
  induction batch generalizing classifier with
  | nil => cases member
  | cons packet rest ih =>
      rcases List.mem_cons.mp member with rfl | later
      · rfl
      · exact (ih later).trans (Passing.unwound_after _)

/-- The packets that are tagged for a flow. -/
def taggedFor (flow : Nat) (passings : List Passing) : List Passing :=
  passings.filter fun passing => passing.flow? = some flow

theorem flow?_of_taggedFor {flow : Nat} {passings : List Passing} {passing : Passing}
    (member : passing ∈ taggedFor flow passings) : passing.flow? = some flow :=
  of_decide_eq_true (List.mem_filter.mp member).2

/-- A flow is turned once for each packet that is tagged for it. -/
theorem specs_of_passings {classifier : Classifier} {flow : Nat} {spec : FlowSpec}
    (listed : classifier.specs[flow]? = some spec) (batch : Batch) :
    let tagged := taggedFor flow (classifier.passings batch)
    (∀ place passing, tagged[place]? = some passing →
        passing.before.specs[flow]? = some (FlowSpec.turned^[place] spec)) ∧
      (classifier.process batch).classifier.specs[flow]? =
        some (FlowSpec.turned^[tagged.length] spec) := by
  induction batch generalizing classifier spec with
  | nil => exact ⟨nofun, listed⟩
  | cons packet rest ih =>
      dsimp only
      have after := Passing.specs_after ⟨classifier, packet⟩ flow
      rw [(classifier.process_cons packet rest).2, passings, taggedFor, List.filter_cons]
      by_cases own : (⟨classifier, packet⟩ : Passing).flow? = some flow
      · rw [if_pos own, listed, Option.map_some] at after
        rw [if_pos (decide_eq_true own)]
        rcases ih after with ⟨places, last⟩
        refine ⟨?_, last⟩
        intro place passing found
        cases place with
        | zero =>
            cases found
            exact listed
        | succ place => exact places place passing found
      · rw [if_neg own, listed] at after
        rw [if_neg (by simpa using own)]
        exact ih after

/-! ## The packets of one flow -/

section Tagged

variable {classifier : Classifier} {flow : Nat} {spec : FlowSpec} {batch : Batch}

/-- A packet that is tagged for a flow gets what the flow asks for at that time. -/
theorem carriesAt_of_taggedFor {passing : Passing}
    (member : passing ∈ taggedFor flow (classifier.passings batch))
    (listed : passing.before.specs[flow]? = some spec) : passing.CarriesAt spec spec.cursor := by
  have own := flow?_of_taggedFor member
  rcases passing.cases with ⟨unmatched, -, -⟩ | ⟨other, chosen, matched, -, found, carries, -⟩
  · rw [own] at unmatched
    contradiction
  · cases own.symm.trans matched
    cases listed.symm.trans found
    exact carries

variable (listed : classifier.specs[flow]? = some spec)

include listed

/-- A rotation for which a packet is tagged stands inside its measurements. -/
theorem cursor_lt_of_taggedFor {place : Nat}
    (found : place < (taggedFor flow (classifier.passings batch)).length)
    (measures : spec.postcard = false) : spec.cursor < spec.metrics.length := by
  have first := List.getElem?_eq_getElem (Nat.zero_lt_of_lt found)
  have stands := (specs_of_passings listed batch).1 0 _ first
  rcases carriesAt_of_taggedFor (List.mem_of_getElem? first) stands with ⟨header, asked, -, -⟩
  exact FlowSpec.lt_length_of_headerAt? measures asked

/-- The packets that are tagged for one flow get what it asks for in turn. -/
theorem carriesAt_of_passings {place : Nat} {passing : Passing}
    (found : (taggedFor flow (classifier.passings batch))[place]? = some passing) :
    passing.CarriesAt spec ((spec.cursor + place) % spec.metrics.length) := by
  have inside := (List.getElem?_eq_some_iff.mp found).1
  have stands := (specs_of_passings listed batch).1 place passing found
  rcases carriesAt_of_taggedFor (List.mem_of_getElem? found) stands with ⟨header, asked, carried⟩
  rw [FlowSpec.headerAt?_cursor_turned_iterate (cursor_lt_of_taggedFor listed inside)] at asked
  exact ⟨header, asked, carried⟩

theorem places_of_passings (measures : spec.postcard = false) :
    let tagged := taggedFor flow (classifier.passings batch)
    tagged.map Passing.place? =
      (List.range tagged.length).map fun place =>
        some ((spec.cursor + place) % spec.metrics.length) := by
  intro tagged
  apply List.ext_getElem?
  intro place
  rw [List.getElem?_map, List.getElem?_map]
  by_cases inside : place < tagged.length
  · have found := List.getElem?_eq_getElem inside
    have own := flow?_of_taggedFor (List.getElem_mem inside)
    have stands := (specs_of_passings listed batch).1 place _ found
    rw [found, List.getElem?_range inside, Option.map_some, Option.map_some, Passing.place?, own,
      Option.bind_some, stands,
      FlowSpec.turned_iterate measures (cursor_lt_of_taggedFor listed inside measures)]
    rfl
  · rw [List.getElem?_eq_none (Nat.not_lt.mp inside), List.getElem?_eq_none]
    · rfl
    · rw [List.length_range]
      exact Nat.not_lt.mp inside

/-- As many packets in a row as a flow has measurements take each place once. -/
theorem perm_places_of_passings (measures : spec.postcard = false) {first : Nat}
    (inside : first + spec.metrics.length ≤ (taggedFor flow (classifier.passings batch)).length) :
    ((((taggedFor flow (classifier.passings batch)).drop first).take spec.metrics.length).map
      Passing.place?).Perm ((List.range spec.metrics.length).map some) := by
  generalize ofFlow : taggedFor flow (classifier.passings batch) = tagged at *
  have places : tagged.map Passing.place? = (List.range tagged.length).map fun place =>
      some ((spec.cursor + place) % spec.metrics.length) := by
    rw [← ofFlow]
    exact places_of_passings listed measures
  have consecutive : ((List.range tagged.length).drop first).take spec.metrics.length =
      (List.range spec.metrics.length).map (first + ·) := by
    apply List.ext_getElem
    · simp only [List.length_take, List.length_drop, List.length_range, List.length_map]
      omega
    · intro index _ _
      simp only [List.getElem_take, List.getElem_drop, List.getElem_range, List.getElem_map]
  have turns := (perm_range_of_rotation spec.metrics.length (spec.cursor + first)).map some
  rw [List.map_take, List.map_drop, places, ← List.map_drop, ← List.map_take, consecutive]
  rw [List.map_map] at turns ⊢
  simpa only [Function.comp_def, Nat.add_assoc] using turns

end Tagged

/-- Whatever packets a classifier meets, in whatever batches.  Its flows stay the same but
for the places in their rotations.  A packet that is not tagged comes out as it went in
and turns nothing.  One that is tagged is tagged for the first flow that covers it.
The packets that are tagged for one flow get what it asks for in turn, beginning where
its rotation stood, and as many of them in a row as the flow has measurements take each
place of its rotation once.  No other packet turns it. -/
theorem rotations_of_batches (classifier : Classifier) (batches : List Batch) :
    let passings := classifier.passings batches.flatten
    let result := classifier.processAll batches
    result.1.flatten = passings.map Passing.output ∧
      (∀ passing ∈ passings, passing.before.unwound = classifier.unwound) ∧
      (∀ passing ∈ passings, passing.flow? = none →
        passing.output = passing.packet ∧ passing.after = passing.before) ∧
      (∀ passing ∈ passings, ∀ flow, passing.flow? = some flow →
        classifier.flowOf? passing.packet.data = some flow ∧ flow < classifier.specs.length) ∧
      ∀ flow spec, classifier.specs[flow]? = some spec →
        let tagged := taggedFor flow passings
        let length := spec.metrics.length
        (∀ place (passing : Passing), tagged[place]? = some passing →
            passing.CarriesAt spec ((spec.cursor + place) % length)) ∧
          (spec.postcard = false → ∀ first, first + length ≤ tagged.length →
            (((tagged.drop first).take length).map Passing.place?).Perm
              ((List.range length).map some)) ∧
          (∀ passing ∈ passings, passing.flow? ≠ some flow →
            passing.after.specs[flow]? = passing.before.specs[flow]?) ∧
          result.2.specs[flow]? = some (FlowSpec.turned^[tagged.length] spec) := by
  intro passings result
  rcases classifier.processAll_eq batches with ⟨whole, last⟩
  refine ⟨whole.trans (classifier.batch_process _), fun _ => unwound_of_passings, ?_, ?_, ?_⟩
  · intro passing _ unmatched
    rcases passing.cases with ⟨-, kept⟩ | ⟨flow, -, matched, -⟩
    · exact kept
    · rw [unmatched] at matched
      contradiction
  · intro passing member flow own
    rcases passing.cases with ⟨unmatched, -⟩ | ⟨other, spec, matched, first, listed, -⟩
    · rw [own] at unmatched
      contradiction
    · cases own.symm.trans matched
      have same := unwound_of_passings member
      have size := congrArg (fun later : Classifier => later.specs.length) same
      simp only [unwound, List.length_map] at size
      rw [← flowOf?_of_unwound same, ← size]
      exact ⟨first, (List.getElem?_eq_some_iff.mp listed).1⟩
  · intro flow spec listed tagged length
    refine ⟨fun _ _ => carriesAt_of_passings listed,
      fun measures _ => perm_places_of_passings listed measures, ?_, ?_⟩
    · intro passing _ other
      rw [passing.specs_after, if_neg other]
    · rw [last]
      exact (specs_of_passings listed _).2

/-- A frame whose IPv4 packet states a header of no bytes. -/
def headlessFrame : Bytes :=
  [2, 0, 0, 0, 0, 2, 2, 0, 0, 0, 0, 1, 8, 0, 0x40, 0, 0, 0x20, 0xf9, 0x18, 0, 0, 0x40, 0x11,
    0, 0, 10, 0, 0, 1, 192, 168, 0, 1, 3, 232, 7, 208, 0, 12, 0, 0, 0xa0, 0xa1, 0xa2, 0xa3]

/-- A classifier that raises length fields and inserts blocks inside the fixed IPv4
header. -/
def insertingEarly : Classifier where
  insertOffset := 20
  updateLengths := true
  specs := [{ source := .all, destination := .all, metrics := [.latency] }]

/-- Where the block is not spared, a checksum may be written over the header in it.  So not
every packet that is tagged carries what its flow has asked for. -/
theorem exists_header_altered :
    ¬ ∀ (classifier : Classifier) (batches : List Batch) (flow place : Nat) (spec : FlowSpec)
      (passing : Passing), (∀ spec ∈ classifier.specs, spec.isUseful = true) →
        classifier.specs[flow]? = some spec → spec.postcard = false →
        (taggedFor flow (classifier.passings batches.flatten))[place]? = some passing →
        ∃ block, Block.at? passing.output.data classifier.insertOffset = some block ∧
          block.header.postcard = false := by
  intro clear
  have altered : (Block.at? (Passing.output ⟨insertingEarly, ⟨headlessFrame, {}⟩⟩).data 20).map
      (fun block => block.header.postcard) = some true := by decide +kernel
  rcases clear insertingEarly [[⟨headlessFrame, {}⟩]] 0 0 _ ⟨insertingEarly, ⟨headlessFrame, {}⟩⟩
    (by decide) rfl rfl (by rfl) with ⟨block, carried, unflagged⟩
  have found : Block.at? (Passing.output ⟨insertingEarly, ⟨headlessFrame, {}⟩⟩).data 20 =
      some block := carried
  rw [found, Option.map_some, unflagged] at altered
  cases altered

end Classifier

end InbandTelemetry
