import InbandTelemetry.Bytes

namespace InbandTelemetry

/-!
# Packets and batches

A packet is its bytes and a few notes that the stages of a node write and read
while the packet crosses it.  The notes never appear on the wire.  Stages work
on whole batches and keep the order of the packets.
-/

/-- The largest number of packets that travel together. -/
def maxBurst : Nat := 32

/-- The largest packet by default, enough for jumbo frames. -/
def defaultMaxPacketSize : Nat := 9216

/-- What the stages of a node note about a packet.  Times are in microseconds. -/
structure Metadata where
  arrival : Nat := 0
  departure : Nat := 0
  batchSize : UInt32 := 0
  /-- The index of the record that the last ingress gate opened.  An egress gate
  clears it. -/
  openRecord : Option Nat := none
deriving DecidableEq

structure Packet where
  data : Bytes
  metadata : Metadata := {}
deriving DecidableEq

abbrev Batch := List Packet

def Batch.totalBytes : Batch → Nat
  | [] => 0
  | packet :: rest => packet.data.length + Batch.totalBytes rest

end InbandTelemetry
