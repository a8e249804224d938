import InbandTelemetry.WireError

namespace InbandTelemetry

/-!
# Postcards

A postcard reports one hop out of band: a header of eleven bytes, followed by
the leading bytes of the packet that triggered it.
-/

namespace Postcard

def version : UInt8 := 0

structure Header where
  /-- The layout version, four bits wide. -/
  version : UInt8
  /-- The protocol of the first captured byte, four bits wide. -/
  nextProtocol : UInt8
  nodeId : UInt8
  ingress : UInt8
  egress : UInt8
  /-- The number of the postcard among those of its node. -/
  sequence : UInt32
  leaveTime : UInt32
deriving DecidableEq

namespace Header

def length : Nat := 11

def encode (header : Header) : Bytes :=
  Bytes.packNibbles header.version header.nextProtocol :: header.nodeId ::
    Bytes.packNibbles header.ingress header.egress ::
      (Bytes.ofWord32 header.sequence ++ Bytes.ofWord32 header.leaveTime)

@[simp] theorem length_encode (header : Header) : header.encode.length = length := rfl

def write (header : Header) (target : Bytes) : Except WireError Bytes :=
  if target.length < length then
    .error (.truncated length target.length)
  else
    .ok (Bytes.overwrite target 0 header.encode)

/-- Read the header at the beginning of a string. -/
def decode (source : Bytes) : Except WireError Header :=
  match source with
  | protocols :: node :: tags :: s0 :: s1 :: s2 :: s3 :: t0 :: t1 :: t2 :: t3 :: _ =>
      .ok
        { version := Bytes.highNibble protocols
          nextProtocol := Bytes.lowNibble protocols
          nodeId := node
          ingress := Bytes.highNibble tags
          egress := Bytes.lowNibble tags
          sequence := Bytes.word32 s0 s1 s2 s3
          leaveTime := Bytes.word32 t0 t1 t2 t3 }
  | short => .error (.truncated length short.length)

end Header

end Postcard

/-- A postcard: its header and the captured bytes. -/
structure Postcard where
  header : Postcard.Header
  body : Bytes
deriving DecidableEq

namespace Postcard

def size (postcard : Postcard) : Nat := Header.length + postcard.body.length

def encode (postcard : Postcard) : Bytes := postcard.header.encode ++ postcard.body

/-- Read a postcard that fills a whole string. -/
def decode (raw : Bytes) : Except WireError Postcard :=
  match Header.decode raw with
  | .ok header => .ok ⟨header, raw.drop Header.length⟩
  | .error fault => .error fault

end Postcard

end InbandTelemetry
