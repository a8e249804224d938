import InbandTelemetry.Gate.Basic
import InbandTelemetry.Telemetry.Block

namespace InbandTelemetry

/-!
# Stamping a hop into a block

An ingress gate opens a record for its hop, and the egress gate of the same node
completes it.  An egress gate that finds no record opened by the last ingress
gate opens one itself.  In a block that asks for postcards an egress gate leaves
the records where they are and hands the record of its hop out.
-/

/-- What a gate has made of a block. -/
structure Stamp where
  block : Telemetry.Block
  /-- The index of the record that was opened for the egress gate to complete. -/
  opened : Option Nat
  report : Option Telemetry.HopRecord

namespace Gate

/-- Whether a gate completes the latest record of a block: an egress gate does if
the last ingress gate opened just this record and the record is of its node. -/
def completes (gate : Gate) (nodeId : UInt8) (openRecord : Option Nat)
    (block : Telemetry.Block) : Bool :=
  gate.isEgress && decide (0 < block.count) && openRecord == some (block.count - 1) &&
    ((block.record? (block.count - 1)).map Telemetry.HopRecord.nodeId == some nodeId)

/-- A count as the value of a record.  It stops at the largest 16-bit value. -/
def reading (count : Nat) : UInt16 := UInt16.ofNat (min count 65535)

/-- The value of a record after the measurement that a block asks for.  Latency is
the time of the ingress gate first and the time since then afterwards.  A rate is
the count of a gate of the right direction before its current batch. -/
def measure (gate : Gate) (metric : Option Metric) (completing : Bool) (now : Nat)
    (value : UInt16) : UInt16 :=
  match metric with
  | none => value
  | some .latency =>
      if gate.isIngress then UInt16.ofNat now
      else if completing then UInt16.ofNat now - value
      else value
  | some metric =>
      if metric.isIngressRate = gate.isIngress then
        reading (if metric.isByteRate then gate.counters.bytes else gate.counters.packets)
      else
        value

def label (gate : Gate) (record : Telemetry.HopRecord) : Telemetry.HopRecord :=
  match gate.direction with
  | .ingress => { record with ingress := gate.reportId }
  | .egress => { record with egress := gate.reportId }

/-- Stamp a hop into a block.  A full block stays as it is; if it asks for
postcards, an egress gate reports its hop all the same. -/
def stamp (gate : Gate) (nodeId : UInt8) (openRecord : Option Nat) (now : Nat)
    (block : Telemetry.Block) : Stamp :=
  let header := block.header
  let completing := gate.completes nodeId openRecord block
  let index := if completing then block.count - 1 else block.count
  let exporting := header.postcard && gate.isEgress
  let begun :=
    if completing then (block.record? index).getD (.opened nodeId) else .opened nodeId
  let labelled := gate.label begun
  let record :=
    if exporting then labelled
    else { labelled with value := gate.measure header.metric? completing now labelled.value }
  let report := if exporting then some record else none
  if room : index < Telemetry.Block.maxRecords then
    let written := block.putRecord index record room
    if completing || exporting then
      ⟨written, none, report⟩
    else
      ⟨written.setCount (UInt8.ofNat (index + 1)), if gate.isIngress then some index else none,
        report⟩
  else
    ⟨block, none, report⟩

end Gate

end InbandTelemetry
