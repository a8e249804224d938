import InbandTelemetry.Address.Subnet

namespace InbandTelemetry

/-!
# Faults of configuration

The reasons for which a change of configuration is refused, and their wording.
A refused change has no effect.
-/

/-- The number of a gate of a node. -/
abbrev GateId := UInt16

/-- The longest content that a gate may write over its packets. -/
def maxOverlay : Nat := 64

/-- Why an argument of a configuration call is not acceptable. -/
inductive ArgumentError where
  | direction (number : Nat)
  /-- The tag of a gate has more than four bits. -/
  | reportId (number : UInt8)
  | nextProtocol (number : UInt8)
  | overlayLength (length : Nat)
  | noMeasurement
  | portNumber (number : Nat)
  | metricCode (code : Nat)
  | subnet (fault : SubnetError)
deriving DecidableEq

/-- Why a change of configuration is refused. -/
inductive ConfigError where
  | invalidArgument (cause : ArgumentError)
  | notFound (gate : GateId)
  | alreadyExists (gate : GateId)
deriving DecidableEq

def ArgumentError.message : ArgumentError → String
  | .direction number => s!"invalid gate type: {number}"
  | .reportId number => s!"report id must fit in 4 bits: {number}"
  | .nextProtocol number => s!"next protocol must fit in 4 bits: {number}"
  | .overlayLength length => s!"rewrite content too long: {length} > {maxOverlay}"
  | .noMeasurement => "flow spec requests no measurement"
  | .portNumber number => s!"invalid port: {number}"
  | .metricCode code => s!"invalid measurement type: {code}"
  | .subnet fault => fault.message

def ConfigError.message : ConfigError → String
  | .invalidArgument cause => "Invalid argument: " ++ cause.message
  | .notFound gate => s!"Gate {gate} does not exist"
  | .alreadyExists gate => s!"Gate {gate} already exists"

end InbandTelemetry
