import InbandTelemetry.Frame.Layout

namespace InbandTelemetry

/-!
# Five-tuples

The fields of a packet that flows are told apart by: addresses, ports and
protocol.  Every frame that carries an IPv4 packet has them; the ports are zero
if the protocol has none or the packet ends before they are complete.
-/

/-- The fields that a flow is recognised by. -/
structure FiveTuple where
  source : Address
  destination : Address
  sourcePort : UInt16
  destinationPort : UInt16
  protocol : UInt8
deriving DecidableEq

namespace FiveTuple

/-- The length of the fixed transport header that has to be complete before ports
are read from it.  Only UDP and TCP have ports. -/
def portedHeaderLength? (protocol : UInt8) : Option Nat :=
  match protocol with
  | 17 => some 8
  | 6 => some 20
  | _ => none

def ports (protocol : UInt8) (segment : Bytes) : UInt16 × UInt16 :=
  match portedHeaderLength? protocol with
  | none => (0, 0)
  | some length =>
      if length ≤ segment.length then (Bytes.word16At segment 0, Bytes.word16At segment 2)
      else (0, 0)

def ofFrame? (frame : Bytes) : Option FiveTuple :=
  match Frame.ipv4Packet? frame with
  | none => none
  | some packet =>
      let protocol := Ipv4.protocol packet
      let (sourcePort, destinationPort) := ports protocol (packet.drop (Ipv4.headerLength packet))
      some
        { source := Ipv4.source packet
          destination := Ipv4.destination packet
          sourcePort, destinationPort, protocol }

end FiveTuple

end InbandTelemetry
