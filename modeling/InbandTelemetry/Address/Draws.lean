import InbandTelemetry.Address.Subnet

namespace InbandTelemetry

/-!
# Draws for synthetic traffic

Synthetic traffic takes its addresses and payloads from a generator of random words
that whoever wants the traffic brings along.  An address depends on the words that
are drawn and on nothing else of their generator, and is defined as a function of the
draw, `Subnet.member`.  To run the drawing itself some generator is needed.  The one
here stands for the stepping generator that random-number libraries have for tests.  It
is a value, so equal generators give equal traffic.
-/

/-- A generator whose 64-bit words are in arithmetic progression. -/
structure Progression where
  value : UInt64
  step : UInt64
deriving DecidableEq

namespace Progression

def advance (source : Progression) : Progression :=
  { source with value := source.value + source.step }

def halfWord (source : Progression) : UInt32 := source.value.toUInt32

/-- The eight bytes of the next word, least significant first. -/
def wordBytes (source : Progression) : Bytes :=
  (List.range 8).map fun index => UInt8.ofNat (source.value.toNat >>> (8 * index))

/-- Bytes of successive words, cut off at the given length. -/
def bytes (source : Progression) (length : Nat) : Bytes :=
  if length ≤ 8 then
    source.wordBytes.take length
  else
    source.wordBytes ++ source.advance.bytes (length - 8)
termination_by length

/-- Addresses of a subnet from successive draws. -/
def addresses (source : Progression) (network : Address) (length : Nat) : Nat → List Address
  | 0 => []
  | count + 1 =>
      Subnet.member network length source.halfWord ::
        source.advance.addresses network length count

end Progression

end InbandTelemetry
