import InbandTelemetry.Gate.Basic
import InbandTelemetry.Relocation
import InbandTelemetry.Telemetry.Block

namespace InbandTelemetry

/-!
# What a gate captures, moves and overlays

A postcard captures the leading bytes of a packet without its telemetry block.
After a packet is stamped, the gate moves the block from its read position to
its write position and then writes its fixed content, wherever these fit.
-/

namespace Gate

/-- The two stretches of a packet of `length` bytes that a postcard captures: what
lies in front of the block, and what follows it up to the truncation position.
The end of the second one is a sum of 64-bit words and wraps. -/
def captureSpans (gate : Gate) (length : Nat) : Span × Span :=
  if gate.readAt < gate.truncateAt then
    let start := min (wrapAdd gate.readAt Telemetry.Block.length) length
    let stop := min (wrapAdd gate.truncateAt Telemetry.Block.length) length
    (⟨0, min gate.readAt length⟩, ⟨start, max stop start⟩)
  else
    (⟨0, min gate.truncateAt length⟩, ⟨0, 0⟩)

def capture (gate : Gate) (data : Bytes) : Bytes :=
  let (head, tail) := gate.captureSpans data.length
  Bytes.slice data head ++ Bytes.slice data tail

/-- Move the block from the read to the write position.  A block that would leave
the packet stays where it is. -/
def moveBlock (gate : Gate) (data : Bytes) : Bytes :=
  match Bytes.moveWindow data gate.readAt gate.writeAt Telemetry.Block.length with
  | .ok moved => moved
  | .error _ => data

/-- Write the fixed content of the gate, if all of it fits in the packet.  The end
of the content is a sum of 64-bit words; if it wraps, nothing is written. -/
def applyOverlay (gate : Gate) (data : Bytes) : Bytes :=
  match gate.overlay with
  | none => data
  | some overlay =>
      let stop := wrapAdd overlay.position overlay.content.length
      if overlay.position ≤ stop && stop ≤ data.length then
        Bytes.overwrite data overlay.position overlay.content
      else
        data

def relocate (gate : Gate) (data : Bytes) : Bytes := gate.applyOverlay (gate.moveBlock data)

end Gate

end InbandTelemetry
