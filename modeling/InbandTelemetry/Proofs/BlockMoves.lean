import InbandTelemetry.Gate.Capture
import InbandTelemetry.Proofs.TelemetryBlocks

namespace InbandTelemetry

/-!
# Where a gate leaves a block

A gate moves the block of a packet to its write position, and leaves it at the read
position if it does not fit there.  Either way the block stays whole, and what the
packet is without its block stays as it is.  The overlay comes afterwards and may lie
over the block or apart from it.  What a postcard captures is read before all this, and
the block has no part in it.
-/

open Telemetry

namespace Gate

variable {gate : Gate} {data : Bytes}

/-- The offset at which a gate leaves the block of a packet of `length` bytes. -/
def leavesAt (gate : Gate) (length : Nat) : Nat :=
  if gate.writeAt + 36 ≤ length then gate.writeAt else gate.readAt

theorem leavesAt_inside (inside : gate.readAt + 36 ≤ data.length) :
    gate.leavesAt data.length + 36 ≤ data.length := by
  rw [leavesAt]
  split <;> assumption

/-- A block that does not fit at the write position stays where it is. -/
theorem moveBlock_of_outside (inside : gate.readAt + 36 ≤ data.length)
    (outside : data.length < gate.writeAt + 36) : gate.moveBlock data = data := by
  have refused : Bytes.moveWindow data gate.readAt gate.writeAt 36 =
      .error (.outOfBounds gate.writeAt 36 data.length) := by
    rw [Bytes.moveWindow, if_neg (Nat.not_lt.mpr inside), if_pos outside]
  rw [moveBlock, Block.length, refused]

/-- A block arrives whole at the place where the gate leaves it, over bytes that keep their
order. -/
theorem moveBlock_spec (inside : gate.readAt + 36 ≤ data.length) :
    (gate.moveBlock data).length = data.length ∧
      Bytes.window (gate.moveBlock data) (gate.leavesAt data.length) 36 =
        Bytes.window data gate.readAt 36 ∧
      Bytes.without (gate.moveBlock data) (gate.leavesAt data.length) 36 =
        Bytes.without data gate.readAt 36 := by
  rw [leavesAt]
  split
  · rename_i fits
    rcases Bytes.moveWindow_ok inside fits with ⟨moved, success, kept⟩
    rw [moveBlock, Block.length, success]
    exact kept
  · rename_i outside
    rw [moveBlock_of_outside inside (Nat.lt_of_not_le outside)]
    exact ⟨rfl, rfl, rfl⟩

/-- The overlay of a gate does not touch a block at an offset. -/
def Spares (gate : Gate) (position : Nat) : Prop :=
  ∀ overlay ∈ gate.overlay,
    overlay.position + overlay.content.length ≤ position ∨ position + 36 ≤ overlay.position

/-- A block that the overlay spares stays as it is. -/
theorem window_applyOverlay {position : Nat} (spares : gate.Spares position)
    (inside : position + 36 ≤ data.length) :
    Bytes.window (gate.applyOverlay data) position 36 = Bytes.window data position 36 := by
  rw [applyOverlay]
  split
  · rfl
  · rename_i overlay laid
    dsimp only
    split
    · rename_i fits
      rw [Bool.and_eq_true, decide_eq_true_eq, decide_eq_true_eq] at fits
      exact Bytes.window_overwrite_of_apart (Nat.le_trans fits.1 fits.2) inside
        (spares overlay laid)
    · rfl

/-- A packet carries its block away from a gate whose overlay spares it. -/
theorem at?_relocate {block : Block} (carried : Block.at? data gate.readAt = some block)
    (spares : gate.Spares (gate.leavesAt data.length)) :
    Block.at? (gate.relocate data) (gate.leavesAt data.length) = some block := by
  have inside := Block.inside_of_at? carried
  rcases Block.at?_eq_some_iff.mp carried with ⟨content, marked⟩
  rcases moveBlock_spec inside with ⟨size, moved, -⟩
  have arrived := leavesAt_inside inside
  rw [← size] at arrived
  rw [Block.at?_eq_some_iff, relocate]
  refine ⟨?_, marked⟩
  rw [← size, window_applyOverlay (size ▸ spares) (size ▸ arrived), size, moved, content]

end Gate

end InbandTelemetry
