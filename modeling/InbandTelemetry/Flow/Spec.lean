import InbandTelemetry.ConfigError
import InbandTelemetry.Flow.FiveTuple
import InbandTelemetry.Metric

namespace InbandTelemetry

/-!
# Flow specifications

A flow specification selects packets by subnets and ports and says what is asked
of them: postcards, or measurements in rotation.  A request is the raw form that
an operator hands in; it becomes a specification only if every part is valid.
-/

/-- A flow, what is asked of its packets, and the place in the rotation. -/
structure FlowSpec where
  source : Subnet
  destination : Subnet
  /-- Zero stands for any port. -/
  sourcePort : UInt16 := 0
  destinationPort : UInt16 := 0
  postcard : Bool := false
  metrics : List Metric := []
  /-- The place of the measurement that is asked for next. -/
  cursor : Nat := 0
deriving DecidableEq

namespace FlowSpec

def covers (spec : FlowSpec) (tuple : FiveTuple) : Bool :=
  spec.source.contains tuple.source && spec.destination.contains tuple.destination &&
    (spec.sourcePort == 0 || spec.sourcePort == tuple.sourcePort) &&
    (spec.destinationPort == 0 || spec.destinationPort == tuple.destinationPort)

/-- The measurement to ask for next, and the specification with its rotation
advanced. -/
def nextMetric? (spec : FlowSpec) : Option (Metric × FlowSpec) :=
  match spec.metrics[spec.cursor]? with
  | none => none
  | some metric => some (metric, { spec with cursor := (spec.cursor + 1) % spec.metrics.length })

def isUseful (spec : FlowSpec) : Bool := spec.postcard || !spec.metrics.isEmpty

/-- A flow that asks for nothing is refused. -/
def validate (spec : FlowSpec) : Except ConfigError Unit :=
  if spec.isUseful then .ok () else .error (.invalidArgument .noMeasurement)

end FlowSpec

/-- A flow specification as an operator hands it in. -/
structure FlowRequest where
  /-- A subnet text; an empty text stands for any address. -/
  source : List Char := []
  destination : List Char := []
  /-- Zero stands for any port. -/
  sourcePort : Nat := 0
  destinationPort : Nat := 0
  postcard : Bool := false
  /-- The codes of the measurements, in the order of their rotation. -/
  metricCodes : List Nat := []
deriving DecidableEq

namespace FlowRequest

/-- The measurement with the given code.  A code that does not fit in a byte is
not assigned. -/
def metric (code : Nat) : Except ArgumentError Metric :=
  if code < 256 then (Metric.ofCode? (UInt8.ofNat code)).elim (.error (.metricCode code)) .ok
  else .error (.metricCode code)

def subnet (text : List Char) : Except ArgumentError Subnet :=
  if text.isEmpty then .ok .all else (Subnet.ofText text).mapError .subnet

def portNumber (number : Nat) : Except ArgumentError UInt16 :=
  if number < 65536 then .ok (UInt16.ofNat number) else .error (.portNumber number)

/-- The specification that a request describes.  Codes are looked at before
subnets, subnets before ports, and the source before the destination. -/
def spec (request : FlowRequest) : Except ArgumentError FlowSpec := do
  let metrics ← request.metricCodes.mapM metric
  let source ← subnet request.source
  let destination ← subnet request.destination
  let sourcePort ← portNumber request.sourcePort
  let destinationPort ← portNumber request.destinationPort
  return { source, destination, sourcePort, destinationPort, postcard := request.postcard, metrics }

/-- The specification that a request describes, if it asks for anything. -/
def accept (request : FlowRequest) : Except ConfigError FlowSpec :=
  match request.spec with
  | .error cause => .error (.invalidArgument cause)
  | .ok spec =>
      match spec.validate with
      | .error fault => .error fault
      | .ok _ => .ok spec

end FlowRequest

end InbandTelemetry
