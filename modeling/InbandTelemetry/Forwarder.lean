import InbandTelemetry.Gate.Capture
import InbandTelemetry.Gate.Stamp
import InbandTelemetry.Gate.Table
import InbandTelemetry.Packet
import InbandTelemetry.Postcard.Basic
import InbandTelemetry.Ring

namespace InbandTelemetry

/-!
# Forwarding batches through gates

A forwarder stamps the telemetry block of every packet that passes one of its
gates, queues postcards in its ring where a block asks for them, and moves
queued postcards into packets of their own on demand.  Batches on gates that are
not registered are dropped whole.
-/

def defaultRingCapacity : Nat := 1048576

structure Forwarder where
  /-- The id stamped into every record and postcard. -/
  nodeId : UInt8 := 0
  /-- The largest postcard that is queued. -/
  maxPostcardSize : Nat := defaultMaxPacketSize
  gates : GateTable := {}
  ring : Ring := .withCapacity defaultRingCapacity
  nextSequence : UInt32 := 0

namespace Forwarder

/-! ## Stamping one packet -/

/-- The telemetry block of a packet at the read position of a gate. -/
def blockAt? (gate : Gate) (data : Bytes) : Option Telemetry.Block :=
  let rest := data.drop gate.readAt
  if Telemetry.Block.isPresent rest then (Telemetry.Block.parse rest).toOption else none

/-- A packet behind the stamp of a gate. -/
structure Stamped where
  packet : Packet
  present : Bool
  report : Option Telemetry.HopRecord

/-- Stamp the hop into a packet.  An egress gate always forgets which record was
open; an ingress gate keeps that note unless it opens a record itself. -/
def stampPacket (gate : Gate) (nodeId : UInt8) (now : Nat) (packet : Packet) : Stamped :=
  let kept := if gate.isEgress then none else packet.metadata.openRecord
  match blockAt? gate packet.data with
  | none => ⟨{ packet with metadata.openRecord := kept }, false, none⟩
  | some block =>
      let stamp := gate.stamp nodeId packet.metadata.openRecord now block
      ⟨{ data := Bytes.overwrite packet.data gate.readAt stamp.block.bytes
         metadata := { packet.metadata with openRecord := stamp.opened.or kept } },
        true, stamp.report⟩

/-! ## Queueing postcards -/

def postcardHeader (forwarder : Forwarder) (gate : Gate) (record : Telemetry.HopRecord)
    (now : Nat) : Postcard.Header where
  version := Postcard.version
  nextProtocol := gate.nextProtocol
  nodeId := forwarder.nodeId
  ingress := record.ingress
  egress := record.egress
  sequence := forwarder.nextSequence
  leaveTime := UInt32.ofNat now

/-- Queue a postcard on a packet.  One that is too large is dropped without
touching the ring, and only a queued one uses up a number. -/
def offerPostcard (forwarder : Forwarder) (gate : Gate) (record : Telemetry.HopRecord)
    (data : Bytes) (now : Nat) : Offer × Forwarder :=
  let entry := (forwarder.postcardHeader gate record now).encode ++ gate.capture data
  if forwarder.maxPostcardSize < entry.length then
    (.dropped 0, forwarder)
  else
    match forwarder.ring.offer entry with
    | (.accepted evicted, ring) =>
        (.accepted evicted,
          { forwarder with ring, nextSequence := forwarder.nextSequence + 1 })
    | (.dropped evicted, ring) => (.dropped evicted, { forwarder with ring })

/-! ## Processing a batch -/

/-- What has become of the packets of a batch, so far. -/
structure Passage where
  forwarder : Forwarder
  batch : Batch := []
  postcards : Nat := 0
  evicted : Nat := 0
  postcardsDropped : Nat := 0

def Passage.countOffer (passage : Passage) : Offer → Passage
  | .accepted evicted =>
      { passage with postcards := passage.postcards + 1, evicted := passage.evicted + evicted }
  | .dropped evicted =>
      { passage with
        postcardsDropped := passage.postcardsDropped + 1, evicted := passage.evicted + evicted }

/-- Pass one packet through a gate: stamp it, queue its postcard, then move its block
and write the overlay.  A packet without a block is only counted. -/
def passPacket (forwarder : Forwarder) (gate : Gate) (now : Nat) (packet : Packet) : Passage :=
  let stamped := stampPacket gate forwarder.nodeId now packet
  let emitted :=
    if stamped.present then
      { stamped.packet with data := gate.relocate stamped.packet.data }
    else
      stamped.packet
  match stamped.report with
  | none => { forwarder, batch := [emitted] }
  | some record =>
      let (offer, later) := forwarder.offerPostcard gate record stamped.packet.data now
      Passage.countOffer { forwarder := later, batch := [emitted] } offer

def passBatch (forwarder : Forwarder) (gate : Gate) (now : Nat) : Batch → Passage
  | [] => { forwarder }
  | packet :: rest =>
      let first := forwarder.passPacket gate now packet
      let later := first.forwarder.passBatch gate now rest
      { forwarder := later.forwarder
        batch := first.batch ++ later.batch
        postcards := first.postcards + later.postcards
        evicted := first.evicted + later.evicted
        postcardsDropped := first.postcardsDropped + later.postcardsDropped }

/-- The result of processing a batch on a gate. -/
structure Outcome where
  /-- The gate on which the packets leave, always the one on which they came. -/
  gate : GateId
  batch : Batch := []
  postcards : Nat := 0
  evicted : Nat := 0
  postcardsDropped : Nat := 0
  /-- Packets dropped because the gate is not registered. -/
  dropped : Nat := 0

/-- Process a batch that comes on a gate at time `now`, in microseconds.  The gate
counts the batch after all its packets have passed. -/
def process (forwarder : Forwarder) (id : GateId) (batch : Batch) (now : Nat) :
    Outcome × Forwarder :=
  match forwarder.gates.find? id with
  | none => ({ gate := id, dropped := batch.length }, forwarder)
  | some gate =>
      let passage := forwarder.passBatch gate now batch
      let gates := passage.forwarder.gates.modify id fun gate =>
        { gate with
          counters := gate.counters.account batch.length passage.batch.totalBytes now }
      ({ gate := id
         batch := passage.batch
         postcards := passage.postcards
         evicted := passage.evicted
         postcardsDropped := passage.postcardsDropped },
        { passage.forwarder with gates })

/-! ## Emitting postcards -/

/-- A source of empty packets.  It is asked for a packet of some size and answers
whether it has one. -/
def Allocator (σ : Type) : Type := Nat → σ → Bool × σ

def Allocator.unlimited : Allocator Unit := fun _ _ => (true, ())

/-- The source that has a limited number of packets, whatever their size. -/
def Allocator.pool : Allocator Nat := fun _ left => (decide (0 < left), left - 1)

/-- Queued postcards that have been moved into packets. -/
structure Emission (σ : Type) where
  forwarder : Forwarder
  allocator : σ
  batch : Batch

def Emission.isBlocked {σ : Type} (emission : Emission σ) : Bool := emission.batch.isEmpty

def Emission.packets {σ : Type} (emission : Emission σ) : UInt32 :=
  UInt32.ofNat emission.batch.length

def Emission.bits {σ : Type} (emission : Emission σ) : Nat := emission.batch.totalBytes * 8

/-- Move at most `limit` queued postcards into packets, oldest first.  It ends early
if there is no packet for the next one, which then stays queued. -/
def emitPostcards {σ : Type} (forwarder : Forwarder) (allocate : Allocator σ) (allocator : σ) :
    Nat → Emission σ
  | 0 => ⟨forwarder, allocator, []⟩
  | limit + 1 =>
      match forwarder.ring.front? with
      | none => ⟨forwarder, allocator, []⟩
      | some entry =>
          match allocate entry.length allocator with
          | (false, allocator) => ⟨forwarder, allocator, []⟩
          | (true, allocator) =>
              let rest :=
                emitPostcards { forwarder with ring := forwarder.ring.popFront.2 } allocate
                  allocator limit
              { rest with batch := { data := entry } :: rest.batch }

end Forwarder

end InbandTelemetry
