import InbandTelemetry.Classifier
import InbandTelemetry.Gate.Table

namespace InbandTelemetry

/-!
# Commands to a node

What an operator can change while a node runs.  A command either succeeds and
changes the flows or the gates, or it is refused and changes neither.
-/

/-- A change of the configuration of a node. -/
inductive Command where
  | addFlows (requests : List FlowRequest)
  | clearFlows
  /-- Register a gate.  The direction is given by its number. -/
  | addGate (gate : GateId) (direction : Nat) (reportId : UInt8) (interval : Nat)
  | setPositions (gate : GateId) (readAt writeAt : Nat)
  | setPostcard (gate : GateId) (truncateAt : Nat) (nextProtocol : UInt8)
  | setOverlay (gate : GateId) (position : Nat) (content : Bytes)
  | clearGates

namespace Command

def addIngress (gate : GateId) (reportId : UInt8) (interval : Nat) : Command :=
  .addGate gate 0 reportId interval

def addEgress (gate : GateId) (reportId : UInt8) (interval : Nat) : Command :=
  .addGate gate 1 reportId interval

def changeGates (gates : GateTable) : Command → Except ConfigError GateTable
  | .addFlows _ | .clearFlows => .ok gates
  | .addGate gate direction reportId interval =>
      match Direction.ofNumber direction with
      | .error fault => .error fault
      | .ok direction => gates.register gate direction reportId interval
  | .setPositions gate readAt writeAt => gates.setPositions gate readAt writeAt
  | .setPostcard gate truncateAt nextProtocol => gates.setPostcard gate truncateAt nextProtocol
  | .setOverlay gate position content => gates.setOverlay gate position content
  | .clearGates => .ok {}

def changeFlows (classifier : Classifier) : Command → Except ConfigError Classifier
  | .addFlows requests => classifier.addRequests requests
  | .clearFlows => .ok classifier.clear
  | _ => .ok classifier

end Command

end InbandTelemetry
