import InbandTelemetry.Address.Basic

namespace InbandTelemetry

/-!
# Ethernet frames carrying IPv4

Where the fields of the Ethernet, IPv4, UDP and TCP headers lie.  A header is
there as soon as its least length is there; version, lengths and checksums are
not verified when a frame is read.
-/

namespace Frame

def ethernetLength : Nat := 14

def ipv4Length : Nat := 20

def udpLength : Nat := 8

/-- The offset behind an Ethernet, an IPv4 and a UDP header. -/
def payloadOffset : Nat := ethernetLength + ipv4Length + udpLength

def ipv4Type : UInt16 := 0x0800

def ipv4Packet? (frame : Bytes) : Option Bytes :=
  if ethernetLength ≤ frame.length && Bytes.word16At frame 12 == ipv4Type
      && ipv4Length ≤ (frame.drop ethernetLength).length then
    some (frame.drop ethernetLength)
  else
    none

end Frame

namespace Ipv4

def headerLength (packet : Bytes) : Nat := (Bytes.lowNibble (Bytes.byteAt packet 0)).toNat * 4

def totalLength (packet : Bytes) : UInt16 := Bytes.word16At packet 2

def protocol (packet : Bytes) : UInt8 := Bytes.byteAt packet 9

def source (packet : Bytes) : Address := ⟨Bytes.word32At packet 12⟩

def destination (packet : Bytes) : Address := ⟨Bytes.word32At packet 16⟩

end Ipv4

end InbandTelemetry
