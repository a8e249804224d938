import InbandTelemetry.Proofs.Stamping
import InbandTelemetry.Proofs.GateTables

namespace InbandTelemetry

/-!
# How a gate rearranges a packet

Behind the stamp of a gate the block of a packet moves, and then the overlay of the
gate is written over whatever is there.  Offsets are 64-bit words, and the end of an
overlay is a sum of two of them, which may wrap round.  A sum that has wrapped lies
before the position of the overlay, and the gate tests for that.  So an overlay is
written just where it fits in the packet, and the rest of the packet stays in order.
-/

open Telemetry

/-! ## Where an overlay fits -/

/-- The position and the length of an overlay are 64-bit words. -/
structure Overlay.Addressable (overlay : Overlay) : Prop where
  position_lt : overlay.position < wordBound
  length_lt : overlay.content.length < wordBound

namespace Overlay.Addressable

variable {overlay : Overlay} {length : Nat}

/-- An overlay that passes the test of the gate ends inside the packet. -/
theorem fits (addressable : overlay.Addressable)
    (ordered : overlay.position ≤ wrapAdd overlay.position overlay.content.length)
    (inside : wrapAdd overlay.position overlay.content.length ≤ length) :
    overlay.position + overlay.content.length ≤ length := by
  have whole := (le_wrapAdd_iff addressable.position_lt addressable.length_lt).mp ordered
  rwa [wrapAdd_of_lt whole] at inside

/-- The test of the gate holds of an overlay just where the overlay really ends inside the
packet. -/
theorem fits_iff (addressable : overlay.Addressable) (short : length < wordBound) :
    (overlay.position ≤ wrapAdd overlay.position overlay.content.length ∧
        wrapAdd overlay.position overlay.content.length ≤ length) ↔
      overlay.position + overlay.content.length ≤ length := by
  constructor
  · rintro ⟨ordered, inside⟩
    exact addressable.fits ordered inside
  · intro fits
    have whole := Nat.lt_of_le_of_lt fits short
    rw [wrapAdd_of_lt whole]
    exact ⟨Nat.le_add_right _ _, fits⟩

end Overlay.Addressable

namespace Gate

variable {gate : Gate} {data : Bytes}

theorem applyOverlay_of_fits {overlay : Overlay} (laid : gate.overlay = some overlay)
    (addressable : overlay.Addressable) (short : data.length < wordBound)
    (fits : overlay.position + overlay.content.length ≤ data.length) :
    gate.applyOverlay data = Bytes.overwrite data overlay.position overlay.content := by
  have tested := (addressable.fits_iff short).mpr fits
  simp only [applyOverlay, laid]
  rw [decide_eq_true tested.1, decide_eq_true tested.2, Bool.and_self, if_pos rfl]

theorem applyOverlay_of_overhang {overlay : Overlay} (laid : gate.overlay = some overlay)
    (addressable : overlay.Addressable) (short : data.length < wordBound)
    (overhang : data.length < overlay.position + overlay.content.length) :
    gate.applyOverlay data = data := by
  have refused : ¬ (overlay.position ≤ wrapAdd overlay.position overlay.content.length ∧
      wrapAdd overlay.position overlay.content.length ≤ data.length) := by
    rw [addressable.fits_iff short]
    exact Nat.not_le.mpr overhang
  simp only [applyOverlay, laid]
  rw [if_neg]
  rwa [Bool.and_eq_true, decide_eq_true_eq, decide_eq_true_eq]

/-! ## Moving and overlaying -/

/-- How a gate rearranges the stamped bytes of a packet: the bytes after the move, and those
that are emitted.  The block moves if it fits at the write position and stays where it is
if it does not.  The overlay is written if it fits.  All sums are unbounded. -/
structure Rearranged (gate : Gate) (stamped moved emitted : Bytes) : Prop where
  length_eq : moved.length = stamped.length
  moves : gate.writeAt + 36 ≤ stamped.length →
    Bytes.window moved gate.writeAt 36 = Bytes.window stamped gate.readAt 36 ∧
      Bytes.without moved gate.writeAt 36 = Bytes.without stamped gate.readAt 36
  stays : stamped.length < gate.writeAt + 36 → moved = stamped
  plain : gate.overlay = none → emitted = moved
  overlaid : ∀ overlay ∈ gate.overlay,
    overlay.position + overlay.content.length ≤ moved.length →
      emitted = Bytes.overwrite moved overlay.position overlay.content
  spared : ∀ overlay ∈ gate.overlay,
    moved.length < overlay.position + overlay.content.length → emitted = moved

theorem rearranged_relocate (inside : gate.readAt + 36 ≤ data.length)
    (short : data.length < wordBound) (addressable : ∀ overlay ∈ gate.overlay, overlay.Addressable) :
    gate.Rearranged data (gate.moveBlock data) (gate.relocate data) := by
  rcases moveBlock_spec inside with ⟨size, content, rest⟩
  have movedShort : (gate.moveBlock data).length < wordBound := size ▸ short
  refine ⟨size, ?_, ?_, ?_, ?_, ?_⟩
  · intro fits
    rw [leavesAt, if_pos fits] at content rest
    exact ⟨content, rest⟩
  · intro outside
    exact moveBlock_of_outside inside outside
  · intro plain
    rw [relocate, applyOverlay, plain]
  · intro overlay laid fits
    exact applyOverlay_of_fits laid (addressable overlay laid) movedShort fits
  · intro overlay laid overhang
    exact applyOverlay_of_overhang laid (addressable overlay laid) movedShort overhang

end Gate

/-! ## Packets of a batch -/

namespace Forwarder

/-- A packet of a batch carries a block at the read position of the gate.  The gate stamps
the block and changes no other byte.  It then moves the block, and writes the overlay,
wherever they fit in the packet.  No offset is so large that an overlay which does not
fit comes to lie in the packet. -/
theorem rearranged_process {forwarder : Forwarder} {id : GateId} {gate : Gate}
    (registered : forwarder.gates.find? id = some gate)
    (addressable : ∀ overlay ∈ gate.overlay, overlay.Addressable) {batch : Batch} {index : Nat}
    {packet : Packet} {block : Block} (member : batch[index]? = some packet)
    (carried : Block.at? packet.data gate.readAt = some block)
    (short : packet.data.length < wordBound) (now : Nat) :
    ∃ stamped moved emitted,
      stamped = (stampPacket gate forwarder.nodeId now packet).packet.data ∧
      stamped.length = packet.data.length ∧
      Bytes.window stamped gate.readAt 36 =
        (gate.stamp forwarder.nodeId packet.metadata.openRecord now block).block.bytes ∧
      Bytes.without stamped gate.readAt 36 = Bytes.without packet.data gate.readAt 36 ∧
      (forwarder.process id batch now).1.batch[index]? = some emitted ∧
      gate.Rearranged stamped moved emitted.data := by
  let stamp := gate.stamp forwarder.nodeId packet.metadata.openRecord now block
  rcases Gate.stampedData_spec carried stamp with ⟨size, content, rest⟩
  have inside := Block.inside_of_at? carried
  rw [← size] at inside
  have emerged : (forwarder.process id batch now).1.batch[index]? =
      some (gate.forward forwarder.nodeId now packet) := by
    rw [process_batch registered, List.getElem?_map, member, Option.map_some]
  have rearranged := Gate.rearranged_relocate inside (size ▸ short) addressable
  have forwarded := gate.forward_eq forwarder.nodeId now packet
  rw [carried] at forwarded
  refine ⟨gate.stampedData packet stamp, gate.moveBlock (gate.stampedData packet stamp),
    gate.forward forwarder.nodeId now packet, ?_, size, content, rest, emerged, ?_⟩
  · rw [Gate.stampPacket_eq carried]
  · rw [forwarded]
    exact rearranged

/-- A gate that moves a block by two bytes towards the front, and whose overlay would begin
two bytes before the end of all offsets. -/
def farOverlay : Gate :=
  { Gate.plain .egress 3 2 0 with overlay := some ⟨18446744073709551614, [1, 2, 3, 4]⟩ }

/-- A forwarder with this gate. -/
def farForwarder : Forwarder where
  nodeId := 7
  gates := .only farOverlay

/-- A block with room for one more record, between two bytes and one more. -/
def betweenBytes : Packet where
  data := [1, 2] ++ (Block.fresh ⟨0, 0, false, 6⟩).bytes ++ [3]

theorem rearranged_process_farOverlay :
    ∃ stamped moved emitted,
      stamped = (stampPacket farOverlay 7 5 betweenBytes).packet.data ∧
      (farForwarder.process 0 [betweenBytes] 5).1.batch[0]? = some emitted ∧
      emitted.data = moved ∧ Bytes.window moved 0 36 = Bytes.window stamped 2 36 ∧
      Bytes.without moved 0 36 = [1, 2, 3] := by
  have carried : Block.at? betweenBytes.data farOverlay.readAt =
      some (Block.fresh ⟨0, 0, false, 6⟩) := by decide
  have addressable : ∀ overlay ∈ farOverlay.overlay, overlay.Addressable := by
    rintro overlay ⟨rfl⟩
    exact ⟨by decide, by decide⟩
  have registered : farForwarder.gates.find? 0 = some farOverlay := rfl
  have member : [betweenBytes][0]? = some betweenBytes := rfl
  rcases rearranged_process registered addressable member carried (by decide) 5 with
    ⟨stamped, moved, emitted, source, size, -, rest, emerged, rearranged⟩
  have long : stamped.length = 39 := size.trans (by decide)
  have movedLong : moved.length = 39 := rearranged.length_eq.trans long
  rcases rearranged.moves (by rw [long]; decide) with ⟨content, kept⟩
  refine ⟨stamped, moved, emitted, source, emerged, ?_, content, ?_⟩
  · exact rearranged.spared _ rfl (by rw [movedLong]; decide)
  · exact kept.trans (rest.trans (by decide))

end Forwarder

end InbandTelemetry
