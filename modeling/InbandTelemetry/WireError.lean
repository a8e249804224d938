import InbandTelemetry.Bytes

namespace InbandTelemetry

/-!
# Faults of wire data

The reasons for which a byte string is refused, and their wording.  The wording
is fixed here once, so the operations only ever name a cause.
-/

/-- A number in lowercase hexadecimal with at least `width` digits. -/
def hexadecimal (width number : Nat) : String :=
  String.ofList (List.leftpad width '0' (Nat.toDigits 16 number))

/-- Why a byte string cannot be read or changed as asked. -/
inductive WireError where
  /-- A layout of `need` bytes was asked of a string of `available` bytes. -/
  | truncated (need available : Nat)
  /-- A telemetry header begins with another word than the magic. -/
  | badMagic (preamble : UInt32)
  /-- A stretch of `length` bytes at `offset` leaves the `bound`. -/
  | outOfBounds (offset length bound : Nat)
  /-- The stream ended while bytes of an incomplete frame were waiting. -/
  | unfinishedStream
deriving DecidableEq

def WireError.message : WireError → String
  | .truncated need available => s!"Buffer too short: need {need} bytes, have {available}"
  | .badMagic preamble => "Invalid preamble: 0x" ++ hexadecimal 8 preamble.toNat
  | .outOfBounds offset length bound => s!"Range out of bounds: {offset}+{length} exceeds {bound}"
  | .unfinishedStream =>
      "IO error: Custom \x7b kind: Other, error: \"bytes remaining on stream\" \x7d"

end InbandTelemetry
