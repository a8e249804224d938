import InbandTelemetry.Postcard.Basic

namespace InbandTelemetry

/-!
# Postcards on a byte stream

A stream carries each postcard behind its length, a big-endian word of sixteen
bits.  A receiver takes the stream in pieces of any size: what has arrived waits
until a whole frame is there.  A length that is shorter than a postcard header
is refused; its two bytes are consumed, and reading goes on behind them.
-/

namespace Postcard

def maxFramed : Nat := 65535

/-- The frame of one postcard given by its raw bytes. -/
def frame (raw : Bytes) : Except WireError Bytes :=
  if raw.length < Header.length then
    .error (.truncated Header.length raw.length)
  else if maxFramed < raw.length then
    .error (.outOfBounds 0 raw.length maxFramed)
  else
    .ok (Bytes.ofWord16 (UInt16.ofNat raw.length) ++ raw)

/-- What a receiver expects next. -/
inductive Expectation where
  /-- The length of the next frame. -/
  | length
  /-- That many bytes of the frame whose length has been read. -/
  | payload (length : Nat)
deriving DecidableEq

/-- The reading end of a stream: what it expects, and the bytes that have arrived
but are not consumed. -/
structure Receiver where
  expectation : Expectation := .length
  waiting : Bytes := []
deriving DecidableEq

namespace Receiver

def feed (receiver : Receiver) (bytes : Bytes) : Receiver :=
  { receiver with waiting := receiver.waiting ++ bytes }

/-- Take the payload of a frame if all of it has arrived. -/
def takePayload (length : Nat) (waiting : Bytes) :
    Except WireError (Option Postcard) × Receiver :=
  if waiting.length < length then
    (.ok none, ⟨.payload length, waiting⟩)
  else
    ((Postcard.decode (waiting.take length)).map some, ⟨.length, waiting.drop length⟩)

/-- Read one postcard.  Without a complete frame there is no postcard yet. -/
def next (receiver : Receiver) : Except WireError (Option Postcard) × Receiver :=
  match receiver.expectation with
  | .payload length => takePayload length receiver.waiting
  | .length =>
      match receiver.waiting with
      | high :: low :: rest =>
          let length := (Bytes.word16 high low).toNat
          if length < Header.length then
            (.error (.truncated Header.length length), ⟨.length, rest⟩)
          else
            takePayload length rest
      | short => (.ok none, ⟨.length, short⟩)

/-- Read one postcard after the last byte has arrived.  Bytes that are left over
without forming a frame are a fault. -/
def finish (receiver : Receiver) : Except WireError (Option Postcard) × Receiver :=
  match receiver.next with
  | (.ok none, rest) =>
      if rest.waiting.isEmpty then (.ok none, rest) else (.error .unfinishedStream, rest)
  | answer => answer

end Receiver

end Postcard

end InbandTelemetry
