import InbandTelemetry.Classifier
import InbandTelemetry.Proofs.TelemetryBlocks

namespace InbandTelemetry

/-!
# What tagging adds to a packet

A packet that is tagged gets a fresh block at the insertion offset, with the
header that the first covering flow asks for.  Without the block it is the packet
that came in, as long as no length fields are raised.
-/

open Telemetry

namespace Classifier

/-! ## The flow that decides -/

/-- The first flow that covers a packet. -/
def specFor? (classifier : Classifier) (data : Bytes) : Option FlowSpec :=
  (FiveTuple.ofFrame? data).bind fun tuple =>
    classifier.specs.find? fun spec => spec.covers tuple

/-- The header that is selected is what the first covering flow asks for next. -/
theorem find?_of_select? {tuple : FiveTuple} {specs later : List FlowSpec} {header : Header}
    (selected : select? tuple specs = some (header, later)) :
    ∃ spec next, specs.find? (fun spec => spec.covers tuple) = some spec ∧
      nextHeader? spec = some (header, next) := by
  induction specs generalizing later with
  | nil => contradiction
  | cons spec rest ih =>
      rw [select?] at selected
      rw [List.find?_cons]
      by_cases covered : spec.covers tuple = true
      · rw [if_pos covered] at selected
        rw [covered]
        split at selected
        · rename_i asked next found
          cases selected
          exact ⟨spec, next, rfl, found⟩
        · contradiction
      · rw [if_neg covered] at selected
        rw [eq_false_of_ne_true covered]
        split at selected
        · rename_i asked others found
          cases selected
          exact ih found
        · contradiction

/-! ## The block that is inserted -/

theorem insertBlock?_spec {data tagged : Bytes} {offset : Nat} {header : Header}
    (inserted : insertBlock? data offset header = some tagged) :
    Block.at? tagged offset = some (Block.fresh header) ∧
      Bytes.without tagged offset 36 = data := by
  rw [insertBlock?] at inserted
  by_cases inside : offset ≤ data.length
  · rcases Bytes.insertGap_ok inside 36 with ⟨wider, opened, size, rest⟩
    rw [Block.length, opened] at inserted
    cases inserted
    have room : offset + (Block.fresh header).bytes.length ≤ wider.length := by
      rw [(Block.fresh header).length_eq, size]
      omega
    have content := Bytes.window_overwrite room
    have outside := Bytes.without_overwrite room
    rw [(Block.fresh header).length_eq] at content outside
    exact ⟨Block.at?_eq_some_iff.mpr ⟨content, rfl⟩, outside.trans rest⟩
  · rw [Bytes.insertGap, if_neg inside] at inserted
    contradiction

/-- All that is known of a packet that was tagged. -/
theorem tag?_spec {classifier later : Classifier} {packet tagged : Packet}
    (success : classifier.tag? packet = some (tagged, later))
    (plain : classifier.updateLengths = false) :
    ∃ spec header next, classifier.specFor? packet.data = some spec ∧
      nextHeader? spec = some (header, next) ∧
      Block.at? tagged.data classifier.insertOffset = some (Block.fresh header) ∧
      Bytes.without tagged.data classifier.insertOffset 36 = packet.data ∧
      tagged.metadata = packet.metadata := by
  rw [tag?] at success
  dsimp only at success
  split at success
  · contradiction
  · split at success
    · contradiction
    · rename_i tuple parsed
      split at success
      · contradiction
      · split at success
        · contradiction
        · rename_i header specs selected
          split at success
          · contradiction
          · rename_i data inserted
            rw [plain] at success
            cases success
            rcases find?_of_select? selected with ⟨spec, next, found, asked⟩
            rcases insertBlock?_spec inserted with ⟨carried, rest⟩
            refine ⟨spec, header, next, ?_, asked, carried, rest, rfl⟩
            rw [specFor?, parsed, Option.bind_some, found]

end Classifier

end InbandTelemetry
