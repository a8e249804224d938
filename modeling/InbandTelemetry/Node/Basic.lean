import InbandTelemetry.Forwarder
import InbandTelemetry.Node.Command
import InbandTelemetry.Node.Outlet
import InbandTelemetry.Timing

namespace InbandTelemetry

/-!
# Nodes

A node runs a classifier and a forwarder behind bounded queues.  Commands and
batches wait until its driver takes them; processed batches and postcards wait
until their consumers do.  This module holds the state of a node and the single
steps of its driver: apply a command, drain postcards, process a batch.
-/

/-- A batch and the gate on which it comes or leaves. -/
structure GatedBatch where
  gate : GateId
  batch : Batch
deriving DecidableEq

/-- Why a node does not accept a command or a batch. -/
inductive NodeError where
  | config (fault : ConfigError)
  | closed
  | channelFull
deriving DecidableEq

def NodeError.message : NodeError → String
  | .config fault => "Configuration error: " ++ fault.message
  | .closed => "Node closed"
  | .channelFull => "Channel full"

structure NodeStatistics where
  batchesReceived : Nat := 0
  packetsReceived : Nat := 0
  packetsSent : Nat := 0
  /-- Packets of batches on gates that were not registered. -/
  packetsDropped : Nat := 0
  packetsTagged : Nat := 0
  postcardsGenerated : Nat := 0
  postcardsEvicted : Nat := 0
  postcardsDropped : Nat := 0
  postcardsSent : Nat := 0
deriving DecidableEq

/-- The number of items that a queue of a node has room for by default. -/
def defaultQueueRoom : Nat := 1024

structure NodeOptions where
  /-- The largest number of postcards that one drain emits. -/
  drainLimit : Nat := maxBurst
  inputRoom : Nat := defaultQueueRoom
  outputRoom : Nat := defaultQueueRoom
  postcardRoom : Nat := defaultQueueRoom
  timingInterval : Option Duration := none

/-- The state of a node, of its driver and of the queues between them. -/
structure Node where
  drainLimit : Nat
  inputRoom : Nat
  classifier : Classifier
  forwarder : Forwarder
  timing : Option TimingStatistics
  commands : List Command := []
  /-- Answers to applied commands that nobody has collected, oldest first. -/
  answers : List (Except ConfigError Unit) := []
  input : List GatedBatch := []
  output : Outlet GatedBatch
  postcards : Outlet Packet
  /-- Whether the driver holds a slot of the output for the next batch. -/
  slotHeld : Bool := false
  drainDue : Bool := false
  owned : Bool := true
  running : Bool := true
  statistics : NodeStatistics := {}

namespace Node

def start (classifier : Classifier) (forwarder : Forwarder) (options : NodeOptions) : Node :=
  { drainLimit := options.drainLimit
    inputRoom := options.inputRoom
    classifier, forwarder
    timing := options.timingInterval.map fun interval => { interval }
    output := { room := options.outputRoom }
    postcards := { room := options.postcardRoom } }

/-! ## Single steps of the driver -/

/-- Apply a command and keep the answer for whoever sent it.  A refused command
leaves the flows and the gates as they were. -/
def applyCommand (node : Node) (command : Command) : Node :=
  match command.changeFlows node.classifier, command.changeGates node.forwarder.gates with
  | .ok classifier, .ok gates =>
      { node with
        classifier
        forwarder := { node.forwarder with gates }
        answers := node.answers ++ [.ok ()] }
  | .error fault, _ => { node with answers := node.answers ++ [.error fault] }
  | _, .error fault => { node with answers := node.answers ++ [.error fault] }

/-- Move queued postcards to their output, as many as a drain may emit and the
output has room for.  Without a consumer they stay queued. -/
def drain (node : Node) : Node :=
  if node.postcards.closed then
    node
  else
    let emission :=
      node.forwarder.emitPostcards .unlimited () (min node.drainLimit node.postcards.free)
    { node with
      forwarder := emission.forwarder
      postcards := emission.batch.foldl Outlet.push node.postcards
      statistics :=
        { node.statistics with
          postcardsSent := node.statistics.postcardsSent + emission.batch.length } }

def noteArrival (node : Node) (batch : Batch) (now : Nat) : Batch :=
  if node.timing.isSome then TimerKind.start.stamp batch now else batch

/-- Note the departure of a batch and sample it, if times are measured. -/
def noteDeparture (node : Node) (batch : Batch) (now : Nat) :
    Batch × Option TimingStatistics :=
  match node.timing with
  | none => (batch, none)
  | some statistics =>
      let stamped := TimerKind.finish.stamp batch now
      (stamped, some (statistics.record stamped now).2)

/-- Process a batch that has been taken from the input.  On a gate that is not
registered it is dropped whole, and the held slot stays for the next batch.
Telemetry is inserted where packets enter the node, so only ingress gates tag. -/
def processBatch (node : Node) (arrival departure : Nat) (gated : GatedBatch) : Node :=
  let batch := node.noteArrival gated.batch arrival
  let counted :=
    { node.statistics with
      batchesReceived := node.statistics.batchesReceived + 1
      packetsReceived := node.statistics.packetsReceived + batch.length }
  match node.forwarder.gates.find? gated.gate with
  | none =>
      { node with
        statistics := { counted with packetsDropped := counted.packetsDropped + batch.length } }
  | some gate =>
      let tagging :=
        if gate.isIngress then node.classifier.process batch else ⟨node.classifier, batch, 0⟩
      let (outcome, forwarder) := node.forwarder.process gated.gate tagging.batch arrival
      let (emitted, timing) := node.noteDeparture outcome.batch departure
      { node with
        classifier := tagging.classifier
        forwarder, timing
        output := node.output.push ⟨outcome.gate, emitted⟩
        slotHeld := false
        statistics :=
          { counted with
            packetsSent := counted.packetsSent + emitted.length
            packetsTagged := counted.packetsTagged + tagging.tagged
            postcardsGenerated := counted.postcardsGenerated + outcome.postcards
            postcardsEvicted := counted.postcardsEvicted + outcome.evicted
            postcardsDropped := counted.postcardsDropped + outcome.postcardsDropped } }

end Node

end InbandTelemetry
