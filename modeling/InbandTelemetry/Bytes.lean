namespace InbandTelemetry

/-!
# Byte strings

Packets, telemetry blocks and postcards are finite lists of bytes in travelling
order.  This module holds what every wire layout needs: big-endian words,
nibbles, and the few ways in which a stretch of bytes is read, cut out or
overwritten.  The laws of overwriting say that it is local: the written stretch
reads back, and what is left without that stretch is unchanged.
-/

/-- A packet, a header or a stream: bytes in the order in which they travel. -/
abbrev Bytes := List UInt8

/-- A half-open stretch of offsets.  It is empty unless `start` lies before `stop`. -/
structure Span where
  start : Nat
  stop : Nat
deriving DecidableEq

def Span.length (span : Span) : Nat := span.stop - span.start

/-- The number of values of a 64-bit word, two to the power of 64. -/
abbrev wordBound : Nat := 18446744073709551616

/-- The sum of two offsets as a 64-bit word holds it.  Offsets near the top of
the range wrap round, and the callers that can meet such offsets say so. -/
def wrapAdd (left right : Nat) : Nat := (left + right) % wordBound

namespace Bytes

/-! ## Nibbles and big-endian words -/

/-- Two 4-bit fields in one byte, the first in the upper half.  A field that is
too wide loses its upper bits. -/
def packNibbles (high low : UInt8) : UInt8 := high % 16 * 16 + low % 16

def highNibble (byte : UInt8) : UInt8 := byte / 16

def lowNibble (byte : UInt8) : UInt8 := byte % 16

def word16 (high low : UInt8) : UInt16 := UInt16.ofNat (high.toNat * 256 + low.toNat)

def word32 (first second third fourth : UInt8) : UInt32 :=
  UInt32.ofNat (((first.toNat * 256 + second.toNat) * 256 + third.toNat) * 256 + fourth.toNat)

def ofWord16 (word : UInt16) : Bytes :=
  [UInt8.ofNat (word.toNat / 256), UInt8.ofNat word.toNat]

def ofWord32 (word : UInt32) : Bytes :=
  [UInt8.ofNat (word.toNat / 16777216), UInt8.ofNat (word.toNat / 65536),
    UInt8.ofNat (word.toNat / 256), UInt8.ofNat word.toNat]

@[simp] theorem length_ofWord16 (word : UInt16) : (ofWord16 word).length = 2 := rfl

@[simp] theorem length_ofWord32 (word : UInt32) : (ofWord32 word).length = 4 := rfl

/-! ## Reading at an offset -/

/-- The byte at an offset.  Readers first make sure that the offset lies inside
the string; past its end the answer is zero. -/
def byteAt (bytes : Bytes) (offset : Nat) : UInt8 := bytes.getD offset 0

def word16At (bytes : Bytes) (offset : Nat) : UInt16 :=
  word16 (byteAt bytes offset) (byteAt bytes (offset + 1))

def word32At (bytes : Bytes) (offset : Nat) : UInt32 :=
  word32 (byteAt bytes offset) (byteAt bytes (offset + 1)) (byteAt bytes (offset + 2))
    (byteAt bytes (offset + 3))

/-! ## Stretches -/

/-- The stretch of at most `length` bytes that begins at `start`. -/
def window (bytes : Bytes) (start length : Nat) : Bytes := (bytes.drop start).take length

def slice (bytes : Bytes) (span : Span) : Bytes := window bytes span.start span.length

/-- What is left when the stretch of `length` bytes at `start` is cut out. -/
def without (bytes : Bytes) (start length : Nat) : Bytes :=
  bytes.take start ++ bytes.drop (start + length)

/-- The string with the stretch at `start` replaced by `content`, which has to fit. -/
def overwrite (bytes : Bytes) (start : Nat) (content : Bytes) : Bytes :=
  bytes.take start ++ (content ++ bytes.drop (start + content.length))

theorem length_overwrite {bytes : Bytes} {start : Nat} {content : Bytes}
    (inside : start + content.length ≤ bytes.length) :
    (overwrite bytes start content).length = bytes.length := by
  simp only [overwrite, List.length_append, List.length_take, List.length_drop]
  omega

/-- An overwritten stretch reads back as what was written. -/
theorem window_overwrite {bytes : Bytes} {start : Nat} {content : Bytes}
    (inside : start + content.length ≤ bytes.length) :
    window (overwrite bytes start content) start content.length = content := by
  have reached : (bytes.take start).length = start :=
    List.length_take_of_le (Nat.le_trans (Nat.le_add_right start _) inside)
  rw [window, overwrite, List.drop_left' reached, List.take_left]

/-- Overwriting changes nothing outside the overwritten stretch. -/
theorem without_overwrite {bytes : Bytes} {start : Nat} {content : Bytes}
    (inside : start + content.length ≤ bytes.length) :
    without (overwrite bytes start content) start content.length =
      without bytes start content.length := by
  have reached : (bytes.take start).length = start :=
    List.length_take_of_le (Nat.le_trans (Nat.le_add_right start _) inside)
  rw [without, overwrite, List.take_left' reached, ← List.drop_drop, List.drop_left' reached,
    List.drop_left, without]

end Bytes

end InbandTelemetry
