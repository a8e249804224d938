import InbandTelemetry.Frame.Checksum
import InbandTelemetry.Transport

namespace InbandTelemetry

/-!
# Building frames

A frame plan names the addresses, ports and payload of a synthetic frame.  The
frame carries it behind Ethernet, IPv4 and UDP or TCP headers with valid
checksums.  Length fields keep the lower sixteen bits of a length.
-/

namespace Frame

/-- What a synthetic frame is to carry. -/
structure Plan where
  source : Address := .ofOctets 10 0 0 1
  destination : Address := .ofOctets 10 0 0 2
  sourcePort : UInt16 := 40000
  destinationPort : UInt16 := 9000
  transport : Transport := .udp
  timeToLive : UInt8 := 64
  payload : Bytes := []
deriving DecidableEq

/-- The Ethernet header of a synthetic frame: the receiving and the sending
station, and the type of the content. -/
def ethernetHeader : Bytes :=
  [2, 0, 0, 0, 0, 2] ++ [2, 0, 0, 0, 0, 1] ++ Bytes.ofWord16 ipv4Type

namespace Plan

def headersLength (plan : Plan) : Nat :=
  ethernetLength + ipv4Length + plan.transport.headerLength

def segmentLength (plan : Plan) : Nat := plan.transport.headerLength + plan.payload.length

def ipv4Header (plan : Plan) (checksum : UInt16) : Bytes :=
  [0x45, 0] ++ Bytes.ofWord16 (UInt16.ofNat (ipv4Length + plan.segmentLength)) ++ [0, 0, 0, 0] ++
    [plan.timeToLive, plan.transport.number] ++ Bytes.ofWord16 checksum ++
    plan.source.octets ++ plan.destination.octets

/-- The transport header with a given checksum.  A TCP segment acknowledges, has
sequence number one, no options and the widest window. -/
def transportHeader (plan : Plan) (checksum : UInt16) : Bytes :=
  Bytes.ofWord16 plan.sourcePort ++ Bytes.ofWord16 plan.destinationPort ++
    match plan.transport with
    | .udp => Bytes.ofWord16 (UInt16.ofNat plan.segmentLength) ++ Bytes.ofWord16 checksum
    | .tcp =>
        [0, 0, 0, 1] ++ [0, 0, 0, 0] ++ [0x50, 0x10] ++ [0xff, 0xff] ++ Bytes.ofWord16 checksum ++
          [0, 0]

/-- The index of the checksum among the words of a transport header. -/
def checksumIndex (plan : Plan) : Nat :=
  match plan.transport with
  | .udp => 3
  | .tcp => 8

def ipv4Checksum (plan : Plan) : UInt16 := Checksum.ipv4 (plan.ipv4Header 0)

def transportChecksum (plan : Plan) : UInt16 :=
  Checksum.transport plan.source plan.destination plan.transport.number plan.checksumIndex
    (plan.transportHeader 0 ++ plan.payload)

def build (plan : Plan) : Bytes :=
  ethernetHeader ++ plan.ipv4Header plan.ipv4Checksum ++
    plan.transportHeader plan.transportChecksum ++ plan.payload

end Plan

end Frame

end InbandTelemetry
