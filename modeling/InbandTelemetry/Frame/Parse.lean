import InbandTelemetry.Frame.Layout
import InbandTelemetry.Transport

namespace InbandTelemetry

/-!
# Reading the addressing of a frame

A frame that carries UDP or TCP over IPv4 has a description: its addresses, its
ports, and where the transport payload begins.  Other frames have none, and so
has a frame that ends inside its transport header.
-/

namespace Frame

structure Description where
  source : Address
  destination : Address
  sourcePort : UInt16
  destinationPort : UInt16
  transport : Transport
  payloadOffset : Nat
deriving DecidableEq

/-- The length of a transport header: fixed for UDP, stated in the segment for
TCP. -/
def transportHeaderLength (transport : Transport) (segment : Bytes) : Nat :=
  match transport with
  | .udp => udpLength
  | .tcp => (Bytes.highNibble (Bytes.byteAt segment 12)).toNat * 4

def describe? (frame : Bytes) : Option Description :=
  match ipv4Packet? frame with
  | none => none
  | some packet =>
      let start := ethernetLength + Ipv4.headerLength packet
      let segment := frame.drop start
      match Transport.ofNumber? (Ipv4.protocol packet) with
      | none => none
      | some transport =>
          if transport.headerLength ≤ segment.length then
            some
              { source := Ipv4.source packet
                destination := Ipv4.destination packet
                sourcePort := Bytes.word16At segment 0
                destinationPort := Bytes.word16At segment 2
                transport
                payloadOffset := start + transportHeaderLength transport segment }
          else
            none

end Frame

end InbandTelemetry
