import InbandTelemetry.Frame.Layout

namespace InbandTelemetry

/-!
# Internet checksums

The checksum of a string is the complement of the ones' complement sum of its
big-endian words of sixteen bits.  An odd last byte counts as the upper half of
a word, and the word that holds the checksum itself is left out.  The sum is
collected in a word of 32 bits.
-/

namespace Checksum

def addWords (total : Nat) : Bytes → Nat
  | high :: low :: rest => addWords (total + (high.toNat * 256 + low.toNat)) rest
  | [last] => total + last.toNat * 256
  | [] => total

/-- A running total plus the words of a string except the one with the given
index. -/
def addWordsExcept (total skipped : Nat) (bytes : Bytes) : Nat :=
  addWords (addWords total (bytes.take (2 * skipped))) (bytes.drop (2 * skipped + 2))

/-- The ones' complement sum of sixteen bits that a 32-bit total stands for.
Carrying once leaves at most 131070, so the second carry is the last. -/
def fold (total : Nat) : Nat :=
  let once := total / 65536 + total % 65536
  once / 65536 + once % 65536

def complement (total : Nat) : UInt16 := UInt16.ofNat (65535 - fold (total % 4294967296))

/-- The header checksum of an IPv4 packet.  It covers the stated header, but no
less than the fixed part and no more than the packet. -/
def ipv4 (packet : Bytes) : UInt16 :=
  let covered := max Frame.ipv4Length (min (Ipv4.headerLength packet) packet.length)
  complement (addWordsExcept 0 5 (packet.take covered))

/-- The total of the pseudo-header that a transport checksum includes: both
addresses, the protocol and the length of the segment. -/
def pseudoHeader (source destination : Address) (protocol : UInt8) (length : Nat) : Nat :=
  addWords (protocol.toNat + length) (source.octets ++ destination.octets)

/-- The checksum of a transport segment whose checksum is the word with the given
index. -/
def transport (source destination : Address) (protocol : UInt8) (skipped : Nat)
    (segment : Bytes) : UInt16 :=
  complement
    (addWordsExcept (pseudoHeader source destination protocol segment.length) skipped segment)

end Checksum

end InbandTelemetry
