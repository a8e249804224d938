import InbandTelemetry.ConfigError
import InbandTelemetry.Frame.Layout
import InbandTelemetry.Gate.Counters

namespace InbandTelemetry

/-!
# Gates

A gate is a place where packets enter or leave a node.  It knows its direction,
the tag that it leaves in hop records, where it expects a telemetry block and
where it puts it, what it captures in postcards, and what it counts.
-/

/-- Whether packets enter or leave the node at a gate. -/
inductive Direction where
  | ingress
  | egress
deriving DecidableEq

def Direction.ofNumber (number : Nat) : Except ConfigError Direction :=
  match number with
  | 0 => .ok .ingress
  | 1 => .ok .egress
  | _ => .error (.invalidArgument (.direction number))

/-- Fixed content that a gate writes over its packets. -/
structure Overlay where
  position : Nat
  content : Bytes
deriving DecidableEq

/-- The configuration and the counts of a gate.  Positions are packet offsets. -/
structure Gate where
  direction : Direction
  reportId : UInt8
  readAt : Nat := Frame.payloadOffset
  writeAt : Nat := Frame.payloadOffset
  /-- How many leading bytes, not counting the block, a postcard captures. -/
  truncateAt : Nat := Frame.payloadOffset
  /-- The protocol of the first captured byte; zero stands for Ethernet. -/
  nextProtocol : UInt8 := 0
  overlay : Option Overlay := none
  counters : Counters
deriving DecidableEq

namespace Gate

/-- A gate with default positions that has counted nothing yet. -/
def fresh (direction : Direction) (reportId : UInt8) (interval : Nat) : Gate :=
  { direction, reportId, counters := { interval } }

def isIngress (gate : Gate) : Bool := gate.direction = .ingress

def isEgress (gate : Gate) : Bool := gate.direction = .egress

end Gate

end InbandTelemetry
