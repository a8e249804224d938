import InbandTelemetry.Proofs.UsableFlows

namespace InbandTelemetry

/-!
# Tagged exactly or not at all

There are many reasons for which a packet is left as it is, and some of them come up when
a flow has already been chosen.  They amount to a condition on the packet and on the
flows as they are configured, in which the rotations have no part.  A packet that meets
it gets the block and nothing else, and then no longer meets it.
-/

open Telemetry

namespace Classifier

/-- What is asked of a packet that is to be tagged.  It reaches the insertion offset,
carries no block there, carries IPv4, is covered by a flow, and stays small enough. -/
structure Accepts (classifier : Classifier) (data : Bytes) : Prop where
  reaches : classifier.insertOffset ≤ data.length
  unmarked : Block.isPresent (data.drop classifier.insertOffset) = false
  covered : ∃ tuple, FiveTuple.ofFrame? data = some tuple ∧
    ∃ spec ∈ classifier.specs, spec.covers tuple = true
  small : data.length + 36 ≤ classifier.maxPacketSize

theorem isSome_tag?_iff {classifier : Classifier} (usable : ∀ spec ∈ classifier.specs, spec.Usable)
    (packet : Packet) :
    (classifier.tag? packet).isSome = true ↔ classifier.Accepts packet.data := by
  rw [tag?_eq]
  constructor
  · intro tagged
    split at tagged
    · rename_i fine
      rcases Option.isSome_iff_exists.mp tagged with ⟨result, success⟩
      rcases Option.bind_eq_some_iff.mp success with ⟨tuple, parsed, chosen⟩
      have selected : (select? tuple classifier.specs).isSome = true := by
        rw [← Option.isSome_map, chosen]
        rfl
      exact ⟨fine.1, fine.2.1, ⟨tuple, parsed, (isSome_select?_iff usable).mp selected⟩, fine.2.2⟩
    · contradiction
  · rintro ⟨reaches, unmarked, ⟨tuple, parsed, covered⟩, small⟩
    rw [if_pos ⟨reaches, unmarked, small⟩, parsed, Option.bind_some, Option.isSome_map]
    exact (isSome_select?_iff usable).mpr covered

/-- A packet that carries a block at the insertion offset is left as it is. -/
theorem tag?_of_present {classifier : Classifier} {packet : Packet}
    (present : Block.isPresent (packet.data.drop classifier.insertOffset) = true) :
    classifier.tag? packet = none := by
  rw [tag?_eq, if_neg]
  rintro ⟨-, unmarked, -⟩
  rw [present] at unmarked
  contradiction

/-- A packet that is not tagged leaves the classifier as it came, and the classifier as it
was, on its own and as a batch. -/
theorem tag_of_tag?_eq_none {classifier : Classifier} {packet : Packet}
    (untagged : classifier.tag? packet = none) :
    classifier.tag packet = ⟨false, packet, classifier⟩ ∧
      classifier.process [packet] = ⟨classifier, [packet], 0⟩ := by
  have left : classifier.tag packet = ⟨false, packet, classifier⟩ := by
    rw [tag_eq, untagged]
    rfl
  refine ⟨left, ?_⟩
  rw [process, left]
  rfl

/-- A block that is inserted holds no records yet. -/
theorem bytes_fresh_of_headerAt? {spec : FlowSpec} {place : Nat} {header : Header}
    (asked : spec.headerAt? place = some header) :
    (Block.fresh header).bytes =
      Bytes.ofWord32 magic ++ [header.flags, 0] ++ List.replicate 30 0 := by
  rw [FlowSpec.headerAt?] at asked
  split at asked
  · cases asked
    rfl
  · rcases Option.map_eq_some_iff.mp asked with ⟨metric, -, rfl⟩
    rfl

/-- A classifier in use that does not raise length fields tags a packet just if it accepts
it.  It inserts the 36 bytes of the block that the first covering flow asks for next, and
changes nothing else about the packet.  A packet that it does not tag stays as it is, and
so does every flow, at whichever exit the packet leaves.  A tagged packet is not tagged
again at the same offset. -/
theorem tagged_exactly {classifier : Classifier} (configured : Configured classifier)
    (plain : classifier.updateLengths = false) (packet : Packet) :
    let offset := classifier.insertOffset
    ((classifier.tag? packet).isSome = true ↔ classifier.Accepts packet.data) ∧
      (classifier.tag? packet = none →
        classifier.tag packet = ⟨false, packet, classifier⟩ ∧
          classifier.process [packet] = ⟨classifier, [packet], 0⟩) ∧
      ∀ tagged later, classifier.tag? packet = some (tagged, later) →
        classifier.tag packet = ⟨true, tagged, later⟩ ∧
        (∃ flow spec header, classifier.flowOf? packet.data = some flow ∧
          classifier.specs[flow]? = some spec ∧ spec.headerAt? spec.cursor = some header ∧
          tagged.metadata = packet.metadata ∧
          tagged.data = packet.data.take offset ++
            ((Bytes.ofWord32 magic ++ [header.flags, 0] ++ List.replicate 30 0) ++
              packet.data.drop offset)) ∧
        ∀ other : Classifier, other.insertOffset = offset →
          other.tag? tagged = none ∧ other.tag tagged = ⟨false, tagged, other⟩ ∧
            other.process [tagged] = ⟨other, [tagged], 0⟩ := by
  intro offset
  refine ⟨isSome_tag?_iff configured.usable packet, tag_of_tag?_eq_none, ?_⟩
  intro tagged later success
  rcases tag?_eq_some success with ⟨flow, spec, header, first, listed, asked, inside, same, -⟩
  refine ⟨?_, ?_, ?_⟩
  · rw [tag_eq, success]
    rfl
  · refine ⟨flow, spec, header, first, listed, asked, by rw [same], ?_⟩
    rw [same, withBlock, if_neg (by simp [plain]), bytes_fresh_of_headerAt? asked]
  · intro other alike
    have spared : classifier.SparesBlock packet.data := fun raises => by
      rw [plain] at raises
      contradiction
    have carried := at?_withBlock header inside spared
    have untagged : other.tag? tagged = none := by
      apply tag?_of_present
      rw [alike, same]
      exact Block.isPresent_of_at? carried
    exact ⟨untagged, tag_of_tag?_eq_none untagged⟩

/-- A flow whose rotation has been turned once. -/
def turnedFlow : FlowSpec where
  source := .all
  destination := .all
  metrics := [.latency, .egressByteRate]
  cursor := 1

/-- A frame with a UDP header and three bytes behind it. -/
def shortFrame : Bytes :=
  List.replicate 12 2 ++ [8, 0, 0x45] ++ List.replicate 8 0 ++ [17] ++ List.replicate 18 0 ++
    [1, 2, 3]

theorem tagged_exactly_shortFrame :
    let classifier : Classifier := { specs := [turnedFlow] }
    Configured classifier ∧ classifier.updateLengths = false ∧
      ∃ tagged later, classifier.tag ⟨shortFrame, {}⟩ = ⟨true, tagged, later⟩ ∧
        classifier.tag? ⟨shortFrame, {}⟩ = some (tagged, later) ∧
        tagged.data = shortFrame.take 42 ++
          ((Bytes.ofWord32 magic ++ [8, 0] ++ List.replicate 30 0) ++ shortFrame.drop 42) ∧
        later.tag? tagged = none := by
  intro classifier
  have configured : Configured classifier := by
    have inRotation : ∀ spec ∈ [turnedFlow], spec.InRotation := by
      intro spec member _
      rw [List.mem_singleton.mp member]
      decide
    have unused : Configured {} := .unused rfl
    exact .addSpecs unused inRotation rfl
  have accepts : classifier.Accepts shortFrame := by
    refine ⟨by decide, by decide, ?_, by decide⟩
    exact ⟨⟨⟨0⟩, ⟨0⟩, 0, 0, 17⟩, by decide, turnedFlow, List.mem_singleton_self _, by decide⟩
  rcases tagged_exactly configured rfl ⟨shortFrame, {}⟩ with ⟨accepted, -, inserted⟩
  rcases Option.isSome_iff_exists.mp (accepted.mpr accepts) with ⟨⟨tagged, later⟩, success⟩
  rcases inserted tagged later success with
    ⟨ending, ⟨flow, spec, header, -, listed, asked, -, bytes⟩, once⟩
  have only : spec = turnedFlow := List.mem_singleton.mp (List.mem_of_getElem? listed)
  subst only
  cases asked
  rcases tag?_eq_some success with ⟨_, _, _, -, -, -, -, -, turned⟩
  exact ⟨configured, rfl, tagged, later, ending, success, bytes, (once later (by rw [turned])).1⟩

end Classifier

end InbandTelemetry
