import InbandTelemetry.Telemetry.Header
import InbandTelemetry.Telemetry.HopRecord

namespace InbandTelemetry

/-!
# Telemetry blocks

A block of 36 bytes travels inside a packet: a header, room for seven hop
records, and two spare bytes.  Its length never changes, so it is carried with a
proof of its length, and every operation below keeps that length.
-/

namespace Telemetry

structure Block where
  bytes : Bytes
  /-- The length never changes once a block is in a packet. -/
  length_eq : bytes.length = 36
deriving DecidableEq

namespace Block

def length : Nat := 36

def maxRecords : Nat := 7

/-- Where the record with a given index begins, counted from the start of the
block, in 64-bit arithmetic. -/
def recordOffset (index : Nat) : Nat :=
  (Header.length + index * HopRecord.length) % wordBound

/-- Whether a string begins with a complete telemetry block. -/
def isPresent (source : Bytes) : Bool :=
  length ≤ source.length && source.take 4 == Bytes.ofWord32 magic

/-- A block with the given header and an empty record area. -/
def fresh (header : Header) : Block where
  bytes := header.encode ++ List.replicate 30 0
  length_eq := rfl

/-- The block at the beginning of a string. -/
def parse (source : Bytes) : Except WireError Block :=
  if long : length ≤ source.length then
    match Header.decode source with
    | .ok _ => .ok ⟨source.take 36, List.length_take_of_le long⟩
    | .error fault => .error fault
  else
    .error (.truncated length source.length)

/-- Begin a block with the given header at the beginning of a string.  What was
there is forgotten. -/
def begin (source : Bytes) (header : Header) : Except WireError Block :=
  if length ≤ source.length then .ok (fresh header)
  else .error (.truncated length source.length)

/-- The header of a block.  The magic is not looked at again. -/
def header (block : Block) : Header :=
  Header.ofFlags (Bytes.byteAt block.bytes 4) (Bytes.byteAt block.bytes 5)

/-- The number of records that the block says it holds. -/
def count (block : Block) : Nat := (Bytes.byteAt block.bytes 5).toNat

def setCount (block : Block) (count : UInt8) : Block where
  bytes := Bytes.overwrite block.bytes 5 [count]
  length_eq := by
    rw [Bytes.length_overwrite (by simp [block.length_eq]), block.length_eq]

/-- The record with the given index, if the block has room for it. -/
def record? (block : Block) (index : Nat) : Option HopRecord :=
  if index < maxRecords then
    let start := Header.length + index * HopRecord.length
    some (HopRecord.ofBytes (Bytes.byteAt block.bytes start) (Bytes.byteAt block.bytes (start + 1))
      (Bytes.byteAt block.bytes (start + 2)) (Bytes.byteAt block.bytes (start + 3)))
  else
    none

/-- Write the record with the given index, which the block must have room for. -/
def putRecord (block : Block) (index : Nat) (record : HopRecord)
    (room : index < maxRecords) : Block where
  bytes := Bytes.overwrite block.bytes (Header.length + index * HopRecord.length) record.encode
  length_eq := by
    rw [Bytes.length_overwrite, block.length_eq]
    simp only [HopRecord.length_encode, block.length_eq, Header.length, HopRecord.length]
    simp only [maxRecords] at room
    omega

/-- Write the record with the given index, or report where it would have to go. -/
def setRecord (block : Block) (index : Nat) (record : HopRecord) : Except WireError Block :=
  if room : index < maxRecords then .ok (block.putRecord index record room)
  else .error (.outOfBounds (recordOffset index) HopRecord.length length)

end Block

end Telemetry

end InbandTelemetry
