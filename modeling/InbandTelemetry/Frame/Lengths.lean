import InbandTelemetry.Frame.Checksum

namespace InbandTelemetry

/-!
# Length fields of a frame that has grown

When bytes are inserted behind the headers of a frame, its IPv4 total length and
UDP length no longer hold.  Here they are raised, the IPv4 header checksum is
computed anew, and the UDP checksum is cleared, which stands for none.
-/

namespace Frame

/-- A length field after a growth.  It stops at the largest 16-bit value. -/
def growField (length : UInt16) (growth : Nat) : UInt16 :=
  UInt16.ofNat (min (length.toNat + growth) 65535)

/-- Raise the total length of the IPv4 packet in a frame and renew its header
checksum. -/
def growIpv4 (frame : Bytes) (growth : Nat) : Bytes :=
  let total := growField (Ipv4.totalLength (frame.drop ethernetLength)) growth
  let raised := Bytes.overwrite frame (ethernetLength + 2) (Bytes.ofWord16 total)
  Bytes.overwrite raised (ethernetLength + 10)
    (Bytes.ofWord16 (Checksum.ipv4 (raised.drop ethernetLength)))

/-- Raise the length in the UDP header at an offset and clear its checksum. -/
def growUdp (frame : Bytes) (start growth : Nat) : Bytes :=
  if udpLength ≤ (frame.drop start).length then
    let length := growField (Bytes.word16At frame (start + 4)) growth
    Bytes.overwrite frame (start + 4) (Bytes.ofWord16 length ++ [0, 0])
  else
    frame

/-- Raise the length fields of a frame into which `growth` bytes have been
inserted at `offset`.  A field is touched only if its header, as the frame now
states it, ends before the insertion. -/
def growLengths (frame : Bytes) (offset growth : Nat) : Bytes :=
  let packet := frame.drop ethernetLength
  let start := ethernetLength + Ipv4.headerLength packet
  if packet.length < ipv4Length || offset < start then
    frame
  else
    let raised := growIpv4 frame growth
    if Ipv4.protocol (raised.drop ethernetLength) = 17 && start + udpLength ≤ offset then
      growUdp raised start growth
    else
      raised

end Frame

end InbandTelemetry
