import Mathlib.Data.List.Rotate
import InbandTelemetry.Proofs.LengthFields
import InbandTelemetry.Proofs.Tagging

namespace InbandTelemetry

/-!
# Flows and the packets tagged for them

A flow that asks for measurements asks for them in rotation, and each packet that is
tagged for it turns the rotation by one place.  A packet is tagged for the first flow
that covers it.  What this comes to for a single packet is the header that is
inserted, the flow that turns, and the block that the packet then carries.  It
carries the inserted one as long as no length field lies inside it.  Once the flow has
turned nothing can fail any more, so that a packet comes out tagged or leaves everything
as it was.
-/

open Telemetry

/-! ## Rotations -/

namespace FlowSpec

/-- What a flow asks for at a place of its rotation.  A flow that asks for postcards asks
for them at every place. -/
def headerAt? (spec : FlowSpec) (place : Nat) : Option Header :=
  if spec.postcard then some .exporting else spec.metrics[place]?.map .request

/-- A flow behind a packet that has been tagged for it. -/
def turned (spec : FlowSpec) : FlowSpec :=
  if spec.postcard then spec else { spec with cursor := (spec.cursor + 1) % spec.metrics.length }

/-- A flow without the place in its rotation. -/
def unwound (spec : FlowSpec) : FlowSpec := { spec with cursor := 0 }

theorem nextHeader?_eq (spec : FlowSpec) :
    Classifier.nextHeader? spec =
      (spec.headerAt? spec.cursor).map fun header => (header, spec.turned) := by
  rw [Classifier.nextHeader?, headerAt?, turned, nextMetric?]
  cases spec.postcard with
  | true => rfl
  | false => cases spec.metrics[spec.cursor]? <;> rfl

@[simp] theorem unwound_turned (spec : FlowSpec) : spec.turned.unwound = spec.unwound := by
  rw [turned]
  split <;> rfl

/-- A rotation that has been turned goes on where it was, and begins again behind its end. -/
theorem turned_iterate {spec : FlowSpec} (measures : spec.postcard = false)
    (inside : spec.cursor < spec.metrics.length) (count : Nat) :
    turned^[count] spec =
      { spec with cursor := (spec.cursor + count) % spec.metrics.length } := by
  induction count with
  | zero =>
      rw [Function.iterate_zero_apply, Nat.add_zero, Nat.mod_eq_of_lt inside]
  | succ count ih =>
      rw [Function.iterate_succ_apply', ih, turned, if_neg (by simp [measures])]
      simp only [Nat.mod_add_mod, Nat.add_assoc]

theorem headerAt?_turned_iterate (spec : FlowSpec) (count : Nat) :
    (turned^[count] spec).headerAt? = spec.headerAt? := by
  have once (spec : FlowSpec) : spec.turned.headerAt? = spec.headerAt? := by
    rw [turned]
    split <;> rfl
  induction count with
  | zero => rfl
  | succ count ih => rw [Function.iterate_succ_apply', once, ih]

/-- What a flow that has been turned asks for next. -/
theorem headerAt?_cursor_turned_iterate {spec : FlowSpec}
    (inside : spec.postcard = false → spec.cursor < spec.metrics.length) (count : Nat) :
    (turned^[count] spec).headerAt? (turned^[count] spec).cursor =
      spec.headerAt? ((spec.cursor + count) % spec.metrics.length) := by
  rw [headerAt?_turned_iterate]
  cases kind : spec.postcard with
  | true => rw [headerAt?, headerAt?, if_pos kind, if_pos kind]
  | false => rw [turned_iterate kind (inside kind)]

theorem lt_length_of_headerAt? {spec : FlowSpec} {place : Nat} {header : Header}
    (measures : spec.postcard = false) (asked : spec.headerAt? place = some header) :
    place < spec.metrics.length := by
  rw [headerAt?, if_neg (by simp [measures]), Option.map_eq_some_iff] at asked
  rcases asked with ⟨metric, found, -⟩
  exact (List.getElem?_eq_some_iff.mp found).1

end FlowSpec

/-- As many consecutive places of a rotation as it has are all of its places, each once. -/
theorem perm_range_of_rotation (length first : Nat) :
    ((List.range length).map fun step => (first + step) % length).Perm (List.range length) := by
  have rotated : ((List.range length).map fun step => (first + step) % length) =
      (List.range length).rotate first := by
    apply List.ext_getElem
    · rw [List.length_map, List.length_rotate]
    · intro index _ _
      rw [List.getElem_map, List.getElem_range, List.getElem_rotate, List.getElem_range,
        List.length_range, Nat.add_comm]
  rw [rotated]
  exact List.rotate_perm _ _

/-! ## A packet that is tagged -/

namespace Classifier

/-- A classifier without the places in its rotations. -/
def unwound (classifier : Classifier) : Classifier :=
  { classifier with specs := classifier.specs.map FlowSpec.unwound }

/-- The first flow that covers a packet, by its place in the list. -/
def flowOf? (classifier : Classifier) (data : Bytes) : Option Nat :=
  (FiveTuple.ofFrame? data).bind fun tuple =>
    classifier.specs.findIdx? fun spec => spec.covers tuple

/-- A string with the block for a header inserted, and its length fields raised if the
classifier does so. -/
def withBlock (classifier : Classifier) (header : Header) (data : Bytes) : Bytes :=
  let offset := classifier.insertOffset
  let tagged := data.take offset ++ ((Block.fresh header).bytes ++ data.drop offset)
  if classifier.updateLengths then Frame.growLengths tagged offset Block.length else tagged

theorem withBlock_eq (classifier : Classifier) (header : Header) (data : Bytes) :
    classifier.withBlock header data =
      let tagged := Bytes.insertAt data classifier.insertOffset (Block.fresh header).bytes
      if classifier.updateLengths then
        Frame.growLengths tagged classifier.insertOffset Block.length
      else tagged := rfl

/-- Whether the length fields that are raised in a packet lie before the inserted block. -/
def SparesBlock (classifier : Classifier) (data : Bytes) : Prop :=
  classifier.updateLengths = true → classifier.insertOffset ≤ Frame.ethernetLength ∨
    Frame.FieldsBefore data classifier.insertOffset

/-- The places in the rotations have no part in which flow covers a packet. -/
theorem flowOf?_of_unwound {first second : Classifier} (same : first.unwound = second.unwound) :
    first.flowOf? = second.flowOf? := by
  have flat (classifier : Classifier) : classifier.unwound.flowOf? = classifier.flowOf? := by
    funext data
    rw [flowOf?, flowOf?]
    congr 1
    funext tuple
    exact List.findIdx?_map
  rw [← flat first, ← flat second, same]

theorem unwound_set {classifier : Classifier} {flow : Nat} {spec : FlowSpec}
    (listed : classifier.specs[flow]? = some spec) :
    { classifier with specs := classifier.specs.set flow spec.turned }.unwound =
      classifier.unwound := by
  have same : (classifier.specs.set flow spec.turned).map FlowSpec.unwound =
      classifier.specs.map FlowSpec.unwound := by
    have found : (classifier.specs.map FlowSpec.unwound)[flow]? = some spec.unwound := by
      rw [List.getElem?_map, listed, Option.map_some]
    rcases List.getElem?_eq_some_iff.mp found with ⟨inside, entry⟩
    rw [List.map_set, FlowSpec.unwound_turned, ← entry, List.set_getElem_self]
  rw [unwound, unwound, same]

/-- What the first covering flow asks for, read off the list. -/
theorem select?_eq (tuple : FiveTuple) (specs : List FlowSpec) :
    select? tuple specs =
      (specs.findIdx? fun spec => spec.covers tuple).bind fun flow =>
        (specs[flow]?.bind nextHeader?).map fun asked => (asked.1, specs.set flow asked.2) := by
  induction specs with
  | nil => rfl
  | cons spec rest ih =>
      rw [select?, List.findIdx?_cons]
      by_cases covered : spec.covers tuple = true
      · rw [if_pos covered, if_pos covered, Option.bind_some, List.getElem?_cons_zero,
          Option.bind_some]
        cases nextHeader? spec <;> rfl
      · rw [if_neg covered, if_neg covered, ih]
        cases rest.findIdx? fun spec => spec.covers tuple with
        | none => rfl
        | some flow =>
            rw [Option.map_some, Option.bind_some, Option.bind_some, List.getElem?_cons_succ]
            cases rest[flow]?.bind nextHeader? <;> rfl

theorem select?_eq_some {tuple : FiveTuple} {specs later : List FlowSpec} {header : Header}
    (selected : select? tuple specs = some (header, later)) :
    ∃ flow spec, specs.findIdx? (fun spec => spec.covers tuple) = some flow ∧
      specs[flow]? = some spec ∧ spec.headerAt? spec.cursor = some header ∧
      later = specs.set flow spec.turned := by
  rw [select?_eq] at selected
  rcases Option.bind_eq_some_iff.mp selected with ⟨flow, first, chosen⟩
  rcases Option.map_eq_some_iff.mp chosen with ⟨_, found, same⟩
  rcases Option.bind_eq_some_iff.mp found with ⟨spec, listed, next⟩
  rw [spec.nextHeader?_eq] at next
  rcases Option.map_eq_some_iff.mp next with ⟨_, asked, rfl⟩
  cases same
  exact ⟨flow, spec, first, listed, asked, rfl⟩

/-- A block that is written into its gap stands between what lies before and behind it. -/
theorem overwrite_gap {data : Bytes} {offset : Nat} (inside : offset ≤ data.length)
    (header : Header) :
    Bytes.overwrite (data.take offset ++ (List.replicate Block.length 0 ++ data.drop offset)) offset
        (Block.fresh header).bytes =
      data.take offset ++ ((Block.fresh header).bytes ++ data.drop offset) := by
  have reached : (data.take offset).length = offset := List.length_take_of_le inside
  rw [Bytes.overwrite, List.take_left' reached, (Block.fresh header).length_eq, ← List.drop_drop,
    List.drop_left' reached, Block.length, List.drop_left' List.length_replicate]

/-- A block is inserted as a whole, wherever in the string. -/
theorem insertBlock?_of_le {data : Bytes} {offset : Nat} (inside : offset ≤ data.length)
    (header : Header) :
    insertBlock? data offset header =
      some (data.take offset ++ ((Block.fresh header).bytes ++ data.drop offset)) := by
  rw [insertBlock?, Bytes.insertGap, if_pos inside]
  exact congrArg some (overwrite_gap inside header)

/-- When a packet can be tagged at all, and what becomes of it and of the flows if one of
them covers it. -/
theorem tag?_eq (classifier : Classifier) (packet : Packet) :
    classifier.tag? packet =
      if classifier.insertOffset ≤ packet.data.length ∧
          Block.isPresent (packet.data.drop classifier.insertOffset) = false ∧
          packet.data.length + Block.length ≤ classifier.maxPacketSize then
        (FiveTuple.ofFrame? packet.data).bind fun tuple =>
          (select? tuple classifier.specs).map fun chosen =>
            ({ packet with data := classifier.withBlock chosen.1 packet.data },
              { classifier with specs := chosen.2 })
      else none := by
  rw [tag?]
  dsimp only
  by_cases inside : classifier.insertOffset ≤ packet.data.length
  · cases marked : Block.isPresent (packet.data.drop classifier.insertOffset) with
    | true => rw [if_pos (Bool.or_true _), if_neg (by simp)]
    | false =>
        rw [if_neg (by simpa using inside)]
        cases FiveTuple.ofFrame? packet.data with
        | none => rw [Option.bind_none, ite_self]
        | some tuple =>
            dsimp only
            by_cases large : classifier.maxPacketSize < packet.data.length + Block.length
            · rw [if_pos large, if_neg (by omega)]
            · rw [if_neg large, if_pos ⟨inside, rfl, by omega⟩, Option.bind_some]
              cases select? tuple classifier.specs with
              | none => rfl
              | some chosen =>
                  dsimp only
                  rw [insertBlock?_of_le inside]
                  rfl
  · rw [if_pos (by simp [Nat.lt_of_not_le inside]), if_neg fun fine => inside fine.1]

/-- All that is known of a packet that was tagged, and of the classifier behind it. -/
theorem tag?_eq_some {classifier later : Classifier} {packet tagged : Packet}
    (success : classifier.tag? packet = some (tagged, later)) :
    ∃ flow spec header, classifier.flowOf? packet.data = some flow ∧
      classifier.specs[flow]? = some spec ∧ spec.headerAt? spec.cursor = some header ∧
      classifier.insertOffset ≤ packet.data.length ∧
      tagged = { packet with data := classifier.withBlock header packet.data } ∧
      later = { classifier with specs := classifier.specs.set flow spec.turned } := by
  rw [tag?_eq] at success
  split at success
  · rename_i fine
    rcases Option.bind_eq_some_iff.mp success with ⟨tuple, parsed, chosen⟩
    rcases Option.map_eq_some_iff.mp chosen with ⟨⟨header, specs⟩, selected, same⟩
    rcases select?_eq_some selected with ⟨flow, spec, first, listed, asked, rfl⟩
    cases same
    refine ⟨flow, spec, header, ?_, listed, asked, fine.1, rfl, rfl⟩
    rw [flowOf?, parsed, Option.bind_some, first]
  · contradiction

/-! ## Exits that are not taken -/

/-- In a packet that reaches the insertion offset the gap opens, and it has room for the block. -/
theorem insertBlock_of_le {classifier : Classifier} {packet : Packet}
    (inside : classifier.insertOffset ≤ packet.data.length) (header : Header) :
    classifier.insertBlock packet header =
      ⟨true, { packet with data := classifier.withBlock header packet.data }, classifier⟩ := by
  have reached : (packet.data.take classifier.insertOffset).length = classifier.insertOffset :=
    List.length_take_of_le inside
  have room : Block.length ≤
      (List.replicate Block.length (0 : UInt8) ++
        packet.data.drop classifier.insertOffset).length := by
    rw [List.length_append, List.length_replicate]
    exact Nat.le_add_right _ _
  rw [insertBlock, Bytes.insertGap, if_pos inside]
  dsimp only
  rw [List.drop_left' reached, Block.begin, if_pos room]
  exact congrArg (fun tagged : Bytes => Ending.mk true
    { packet with
      data := if classifier.updateLengths then
        Frame.growLengths tagged classifier.insertOffset Block.length else tagged } classifier)
    (overwrite_gap inside header)

/-- The exits that come when the rotation has advanced are not taken: a packet that has
passed the tests is tagged, and every other one leaves with nothing changed. -/
theorem tag_eq (classifier : Classifier) (packet : Packet) :
    classifier.tag packet =
      (classifier.tag? packet).elim ⟨false, packet, classifier⟩ fun result =>
        ⟨true, result.1, result.2⟩ := by
  rw [tag?_eq, tag]
  by_cases inside : classifier.insertOffset ≤ packet.data.length
  · rw [if_neg (Nat.not_lt.mpr inside)]
    cases marked : Block.isPresent (packet.data.drop classifier.insertOffset) with
    | true =>
        rw [if_pos rfl, if_neg (by simp)]
        rfl
    | false =>
        rw [if_neg Bool.false_ne_true]
        cases FiveTuple.ofFrame? packet.data with
        | none =>
            rw [Option.bind_none, ite_self]
            rfl
        | some tuple =>
            rw [Option.bind_some, select?_eq]
            dsimp only
            cases classifier.specs.findIdx? fun spec => spec.covers tuple with
            | none =>
                rw [Option.bind_none, Option.map_none, ite_self]
                rfl
            | some flow =>
                rw [Option.bind_some]
                dsimp only
                by_cases large : classifier.maxPacketSize < packet.data.length + Block.length
                · rw [if_pos large, if_neg (by omega)]
                  rfl
                · rw [if_neg large, if_pos ⟨inside, rfl, by omega⟩]
                  cases classifier.specs[flow]?.bind nextHeader? with
                  | none => rfl
                  | some asked =>
                      let advanced := { classifier with specs := classifier.specs.set flow asked.2 }
                      exact @insertBlock_of_le advanced packet inside asked.1
  · rw [if_pos (Nat.lt_of_not_le inside), if_neg fun fine => inside fine.1]
    rfl

/-- Tagging changes nothing about the flows but the places in their rotations. -/
theorem unwound_tag (classifier : Classifier) (packet : Packet) :
    (classifier.tag packet).classifier.unwound = classifier.unwound := by
  rw [tag_eq]
  cases success : classifier.tag? packet with
  | none => rfl
  | some result =>
      rcases tag?_eq_some success with ⟨flow, spec, header, -, listed, -, -, -, later⟩
      rw [Option.elim_some, later]
      exact unwound_set listed

theorem unwound_process (classifier : Classifier) (batch : Batch) :
    (classifier.process batch).classifier.unwound = classifier.unwound := by
  induction batch generalizing classifier with
  | nil => rfl
  | cons packet rest ih => exact (ih _).trans (classifier.unwound_tag packet)

/-! ## The block of a tagged packet -/

/-- The first byte of a block, where the IPv4 header should begin, stands for a header of
60 bytes. -/
theorem lt_headerEnd_of_le {data : Bytes} {offset : Nat} (header : Header)
    (inside : offset ≤ data.length) (early : offset ≤ Frame.ethernetLength) :
    offset < Frame.headerEnd (Bytes.insertAt data offset (Block.fresh header).bytes) := by
  rw [Frame.headerEnd]
  rcases Nat.lt_or_eq_of_le early with before | rfl
  · exact Nat.lt_add_right _ before
  · have reached : (data.take Frame.ethernetLength).length = Frame.ethernetLength :=
      List.length_take_of_le inside
    have first : Bytes.byteAt
        ((Block.fresh header).bytes ++ data.drop Frame.ethernetLength) 0 = 0x7f := rfl
    rw [Bytes.insertAt, List.drop_left' reached, Ipv4.headerLength, first]
    decide

/-- The fields that are raised behind an insertion lie before the block in the packet that
comes out, too. -/
theorem SparesBlock.fieldsBefore {classifier : Classifier} {data : Bytes} {header : Header}
    (spared : classifier.SparesBlock data) (raises : classifier.updateLengths = true)
    (inside : classifier.insertOffset ≤ data.length) :
    Frame.FieldsBefore
      (Bytes.insertAt data classifier.insertOffset (Block.fresh header).bytes)
      classifier.insertOffset := by
  by_cases behind : Frame.ethernetLength < classifier.insertOffset
  · exact ((spared raises).resolve_left (Nat.not_le.mpr behind)).insert inside behind _
  · exact Or.inr (lt_headerEnd_of_le header inside (Nat.not_lt.mp behind))

/-- A tagged packet carries the block that was inserted, if that block has been spared. -/
theorem at?_withBlock {classifier : Classifier} {data : Bytes} (header : Header)
    (inside : classifier.insertOffset ≤ data.length) (spared : classifier.SparesBlock data) :
    Block.at? (classifier.withBlock header data) classifier.insertOffset =
      some (Block.fresh header) := by
  have inserted : Block.at? (Bytes.insertAt data classifier.insertOffset (Block.fresh header).bytes)
      classifier.insertOffset = some (Block.fresh header) :=
    Block.at?_eq_some_iff.mpr ⟨Bytes.window_insertAt inside (Block.fresh header).length_eq, rfl⟩
  rw [withBlock_eq]
  split
  · rename_i raises
    rw [Block.at?, Frame.drop_growLengths (spared.fieldsBefore raises inside)]
    exact inserted
  · exact inserted

end Classifier

end InbandTelemetry
