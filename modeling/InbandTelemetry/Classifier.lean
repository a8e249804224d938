import InbandTelemetry.Flow.Spec
import InbandTelemetry.Frame.Lengths
import InbandTelemetry.Packet
import InbandTelemetry.Relocation
import InbandTelemetry.Telemetry.Block

namespace InbandTelemetry

/-!
# Tagging packets of configured flows

A classifier inserts a telemetry block into each packet that belongs to a
configured flow.  The first flow that covers a packet decides what the block
asks for.  A packet that cannot be tagged is left as it is, and then no rotation
advances either.
-/

/-- The configured flows, and how their packets are tagged. -/
structure Classifier where
  insertOffset : Nat := Frame.payloadOffset
  updateLengths : Bool := false
  maxPacketSize : Nat := defaultMaxPacketSize
  /-- The flows in the order in which they were added. -/
  specs : List FlowSpec := []
deriving DecidableEq

namespace Classifier

/-! ## Configuration -/

/-- Refuse a list of flows with one that asks for nothing. -/
def validateAll : List FlowSpec → Except ConfigError Unit
  | [] => .ok ()
  | spec :: rest =>
      match spec.validate with
      | .error fault => .error fault
      | .ok _ => validateAll rest

/-- Append flows, either all of them or none. -/
def addSpecs (classifier : Classifier) (specs : List FlowSpec) : Except ConfigError Classifier :=
  match validateAll specs with
  | .error fault => .error fault
  | .ok _ => .ok { classifier with specs := classifier.specs ++ specs }

/-- The specifications that requests describe, or the first fault among them. -/
def acceptAll : List FlowRequest → Except ConfigError (List FlowSpec)
  | [] => .ok []
  | request :: rest =>
      match request.accept with
      | .error fault => .error fault
      | .ok spec =>
          match acceptAll rest with
          | .error fault => .error fault
          | .ok specs => .ok (spec :: specs)

def addRequests (classifier : Classifier) (requests : List FlowRequest) :
    Except ConfigError Classifier :=
  match acceptAll requests with
  | .error fault => .error fault
  | .ok specs => classifier.addSpecs specs

def clear (classifier : Classifier) : Classifier := { classifier with specs := [] }

/-! ## Tagging -/

/-- The header that a flow asks for next, and the flow with its rotation advanced. -/
def nextHeader? (spec : FlowSpec) : Option (Telemetry.Header × FlowSpec) :=
  if spec.postcard then
    some (.exporting, spec)
  else
    match spec.nextMetric? with
    | some (metric, later) => some (.request metric, later)
    | none => none

/-- How a packet leaves the classifier: whether it has been tagged, what it is then, and the
classifier behind it. -/
structure Ending where
  tagged : Bool
  packet : Packet
  classifier : Classifier
deriving DecidableEq

/-- Insert the block for a header into a packet and raise its length fields if the classifier
does so.  Where this fails, what has been done already stays done. -/
def insertBlock (classifier : Classifier) (packet : Packet) (header : Telemetry.Header) : Ending :=
  let offset := classifier.insertOffset
  match Bytes.insertGap packet.data offset Telemetry.Block.length with
  | .error _ => ⟨false, packet, classifier⟩
  | .ok wider =>
      match Telemetry.Block.begin (wider.drop offset) header with
      | .error _ => ⟨false, { packet with data := wider }, classifier⟩
      | .ok block =>
          let tagged := Bytes.overwrite wider offset block.bytes
          let data :=
            if classifier.updateLengths then Frame.growLengths tagged offset Telemetry.Block.length
            else tagged
          ⟨true, { packet with data }, classifier⟩

/-- Tag a packet, one test after the other.  A packet that ends before the insertion
offset, already carries a block there, is not IPv4, belongs to no flow, or would become
too large is left as it is, and so is one whose flow has nothing to ask for.  Behind
these tests the rotation of the flow has advanced, whatever becomes of the block. -/
def tag (classifier : Classifier) (packet : Packet) : Ending :=
  let offset := classifier.insertOffset
  let unchanged : Ending := ⟨false, packet, classifier⟩
  if packet.data.length < offset then
    unchanged
  else if Telemetry.Block.isPresent (packet.data.drop offset) then
    unchanged
  else
    match FiveTuple.ofFrame? packet.data with
    | none => unchanged
    | some tuple =>
        match classifier.specs.findIdx? fun spec => spec.covers tuple with
        | none => unchanged
        | some flow =>
            if classifier.maxPacketSize < packet.data.length + Telemetry.Block.length then
              unchanged
            else
              match classifier.specs[flow]?.bind nextHeader? with
              | none => unchanged
              | some (header, later) =>
                  insertBlock { classifier with specs := classifier.specs.set flow later } packet
                    header

/-! ### Tagging in short -/

/-- The header that the first covering flow asks for, and the flows afterwards. -/
def select? (tuple : FiveTuple) : List FlowSpec → Option (Telemetry.Header × List FlowSpec)
  | [] => none
  | spec :: rest =>
      if spec.covers tuple then
        match nextHeader? spec with
        | some (header, later) => some (header, later :: rest)
        | none => none
      else
        match select? tuple rest with
        | some (header, later) => some (header, spec :: later)
        | none => none

/-- A string with a block inserted.  A gap that has opened has room for the block, so that
nothing is left to be tested when the block begins. -/
def insertBlock? (data : Bytes) (offset : Nat) (header : Telemetry.Header) : Option Bytes :=
  match Bytes.insertGap data offset Telemetry.Block.length with
  | .error _ => none
  | .ok wider => some (Bytes.overwrite wider offset (Telemetry.Block.fresh header).bytes)

/-- What comes of the tagging of a packet.  There is no answer for a packet that is left as
it is: the tests come before all changes. -/
def tag? (classifier : Classifier) (packet : Packet) : Option (Packet × Classifier) :=
  let offset := classifier.insertOffset
  if packet.data.length < offset || Telemetry.Block.isPresent (packet.data.drop offset) then
    none
  else
    match FiveTuple.ofFrame? packet.data with
    | none => none
    | some tuple =>
        if classifier.maxPacketSize < packet.data.length + Telemetry.Block.length then
          none
        else
          match select? tuple classifier.specs with
          | none => none
          | some (header, specs) =>
              match insertBlock? packet.data offset header with
              | none => none
              | some tagged =>
                  let data :=
                    if classifier.updateLengths then
                      Frame.growLengths tagged offset Telemetry.Block.length
                    else
                      tagged
                  some ({ packet with data }, { classifier with specs })

/-! ## Batches -/

/-- A batch behind the classifier. -/
structure Tagging where
  classifier : Classifier
  batch : Batch
  tagged : Nat

def process (classifier : Classifier) : Batch → Tagging
  | [] => ⟨classifier, [], 0⟩
  | packet :: rest =>
      let ending := classifier.tag packet
      let later := ending.classifier.process rest
      { later with
        batch := ending.packet :: later.batch, tagged := later.tagged + ending.tagged.toNat }

end Classifier

end InbandTelemetry
