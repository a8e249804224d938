import InbandTelemetry.WireError

namespace InbandTelemetry

/-!
# Hop records

Every hop leaves one record of four bytes in a telemetry block: the node, the
tags of the two gates that the packet crossed there, and the measured value.
Encoding keeps the lower four bits of a tag.
-/

namespace Telemetry

/-- What one hop reports about a packet. -/
structure HopRecord where
  nodeId : UInt8
  /-- The tag of the ingress gate, four bits wide, zero if unset. -/
  ingress : UInt8
  /-- The tag of the egress gate, four bits wide, zero if unset. -/
  egress : UInt8
  /-- A latency mark, a latency or a rate, as the header asks. -/
  value : UInt16
deriving DecidableEq

namespace HopRecord

def length : Nat := 4

/-- The record that a hop opens: its own node id and nothing measured yet. -/
def opened (nodeId : UInt8) : HopRecord := ⟨nodeId, 0, 0, 0⟩

def ofBytes (node tags high low : UInt8) : HopRecord :=
  ⟨node, Bytes.highNibble tags, Bytes.lowNibble tags, Bytes.word16 high low⟩

def encode (record : HopRecord) : Bytes :=
  record.nodeId :: Bytes.packNibbles record.ingress record.egress :: Bytes.ofWord16 record.value

@[simp] theorem length_encode (record : HopRecord) : record.encode.length = length := rfl

def write (record : HopRecord) (target : Bytes) : Except WireError Bytes :=
  if target.length < length then
    .error (.truncated length target.length)
  else
    .ok (Bytes.overwrite target 0 record.encode)

def decode (source : Bytes) : Except WireError HopRecord :=
  match source with
  | node :: tags :: high :: low :: _ => .ok (ofBytes node tags high low)
  | short => .error (.truncated length short.length)

end HopRecord

end Telemetry

end InbandTelemetry
