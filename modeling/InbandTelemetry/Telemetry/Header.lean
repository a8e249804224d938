import InbandTelemetry.WireError
import InbandTelemetry.Metric

namespace InbandTelemetry

/-!
# Telemetry headers

A telemetry block begins with six bytes: the magic, a byte that packs version,
measurement code and postcard flag, and the number of hop records written so
far.  Encoding reduces each packed field to its width, and decoding refuses a
string that is too short or begins with another word than the magic.
-/

namespace Telemetry

/-- The word that every telemetry block begins with. -/
def magic : UInt32 := 0x7f4e4654

def version : UInt8 := 0

structure Header where
  /-- The layout version, four bits wide. -/
  version : UInt8
  /-- The code of the measurement asked for, three bits wide. -/
  metricCode : UInt8
  /-- Whether hops export postcards instead of adding records. -/
  postcard : Bool
  /-- The number of hop records written so far. -/
  count : UInt8
deriving DecidableEq

namespace Header

def length : Nat := 6

/-- The header that asks every hop for one measurement. -/
def request (metric : Metric) : Header := ⟨Telemetry.version, metric.code, false, 0⟩

/-- The header that asks every hop for a postcard. -/
def exporting : Header := ⟨Telemetry.version, 0, true, 0⟩

def metric? (header : Header) : Option Metric := Metric.ofCode? header.metricCode

/-- Version, measurement code and postcard flag in one byte. -/
def flags (header : Header) : UInt8 :=
  header.version % 16 * 16 + header.metricCode % 8 * 2 + (if header.postcard then 1 else 0)

/-- The header whose packed byte and record count are the given ones. -/
def ofFlags (flags count : UInt8) : Header :=
  ⟨flags / 16, flags / 2 % 8, flags % 2 = 1, count⟩

def encode (header : Header) : Bytes :=
  Bytes.ofWord32 magic ++ [header.flags, header.count]

@[simp] theorem length_encode (header : Header) : header.encode.length = length := rfl

def write (header : Header) (target : Bytes) : Except WireError Bytes :=
  if target.length < length then
    .error (.truncated length target.length)
  else
    .ok (Bytes.overwrite target 0 header.encode)

/-- Read the header at the beginning of a string.  The length is tested before
the magic. -/
def decode (source : Bytes) : Except WireError Header :=
  match source with
  | first :: second :: third :: fourth :: flags :: count :: _ =>
      let preamble := Bytes.word32 first second third fourth
      if preamble = magic then .ok (ofFlags flags count) else .error (.badMagic preamble)
  | short => .error (.truncated length short.length)

end Header

end Telemetry

end InbandTelemetry
