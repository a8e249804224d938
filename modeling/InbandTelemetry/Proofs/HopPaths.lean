import InbandTelemetry.Proofs.GateTables
import InbandTelemetry.Proofs.Stamping

namespace InbandTelemetry

/-!
# Paths of hops

A packet on its way crosses nodes, and in each of them an ingress gate and then an
egress gate.  Each crossing happens in a batch with arbitrary other packets, and
the forwarder may process any number of other batches meanwhile: the two
crossings of a hop have the node in common, not the state of its forwarder.

What a hop leaves in a block depends on nothing but the block and the two gates
as they are found just before their batches.  It writes one record into a block
with room and nothing into a full one.
-/

open Telemetry

/-! ## Crossing a gate -/

/-- A batch on a registered gate, with a place in it that is left for one packet behind
the `earlier` and in front of the `later` ones. -/
structure Crossing where
  forwarder : Forwarder
  configured : forwarder.gates.Configured
  gateId : GateId
  /-- The gate as the batch finds it. -/
  gate : Gate
  registered : forwarder.gates.find? gateId = some gate
  earlier : Batch := []
  later : Batch := []
  now : Nat

namespace Crossing

def result (crossing : Crossing) (packet : Packet) : Forwarder.Outcome × Forwarder :=
  crossing.forwarder.process crossing.gateId (crossing.earlier ++ packet :: crossing.later)
    crossing.now

/-- The packet that comes out at the same place. -/
def emerge (crossing : Crossing) (packet : Packet) : Option Packet :=
  (crossing.result packet).1.batch[crossing.earlier.length]?

theorem emerge_eq (crossing : Crossing) (packet : Packet) :
    crossing.emerge packet =
      some (crossing.gate.forward crossing.forwarder.nodeId crossing.now packet) := by
  rw [emerge, result, Forwarder.process_batch crossing.registered, List.getElem?_map,
    List.getElem?_append_right (Nat.le_refl _), Nat.sub_self, List.getElem?_cons_zero,
    Option.map_some]

theorem checked (crossing : Crossing) : crossing.gate.Checked :=
  crossing.configured.allChecked _ _ crossing.registered

/-- A batch of one packet on the only gate of a node. -/
def single (nodeId : UInt8) (gate : Gate) (checked : gate.Checked) (now : Nat) : Crossing where
  forwarder := { nodeId, gates := .only gate }
  configured := GateTable.configured_only checked
  gateId := 0
  gate
  registered := rfl
  now

end Crossing

/-! ## Crossing a node -/

/-- An ingress and an egress gate of one node, crossed one after the other. -/
structure Hop where
  ingress : Crossing
  egress : Crossing
  enters : ingress.gate.direction = .ingress
  leaves : egress.gate.direction = .egress
  same_node : egress.forwarder.nodeId = ingress.forwarder.nodeId

namespace Hop

/-- A packet on its own crosses a node with two plain gates.  The block is handed over
between them at a position of its own. -/
def plain (nodeId ingressTag egressTag : UInt8) (readAt between writeAt entered left : Nat)
    (narrow : ingressTag ≤ 15 ∧ egressTag ≤ 15 := by decide) : Hop where
  ingress := .single nodeId (.plain .ingress ingressTag readAt between)
    (Gate.checked_plain narrow.1) entered
  egress := .single nodeId (.plain .egress egressTag between writeAt)
    (Gate.checked_plain narrow.2) left
  enters := rfl
  leaves := rfl
  same_node := rfl

def nodeId (hop : Hop) : UInt8 := hop.ingress.forwarder.nodeId

/-- A packet crosses the ingress gate and then the egress gate. -/
def traverse (hop : Hop) (packet : Packet) : Option Packet :=
  (hop.ingress.emerge packet).bind hop.egress.emerge

/-- The gates of a hop hand a block on from a position, inside packets of some length,
and write nothing over them. -/
structure Fits (hop : Hop) (length position : Nat) : Prop where
  ingress_reads : hop.ingress.gate.readAt = position
  ingress_inside : hop.ingress.gate.writeAt + 36 ≤ length
  ingress_plain : hop.ingress.gate.overlay = none
  egress_reads : hop.egress.gate.readAt = hop.ingress.gate.writeAt
  egress_inside : hop.egress.gate.writeAt + 36 ≤ length
  egress_plain : hop.egress.gate.overlay = none

/-! ## What a hop leaves in a block -/

def opening (hop : Hop) (header : Header) : HopRecord :=
  hop.ingress.gate.opening hop.nodeId hop.ingress.now header

/-- The record of the hop, as the egress gate completes it. -/
def record (hop : Hop) (header : Header) : HopRecord :=
  hop.egress.gate.completed hop.egress.now header (hop.opening header).stored

/-- The block between the two gates, and the open record. -/
def enter (hop : Hop) (block : Block) : Block × Option Nat :=
  if room : block.count < Block.maxRecords then
    ((block.putRecord block.count (hop.opening block.header) room).setCount
        (UInt8.ofNat (block.count + 1)),
      some block.count)
  else
    (block, none)

/-- The block behind the hop. -/
def mark (hop : Hop) (block : Block) : Block :=
  if room : block.count < Block.maxRecords then
    (hop.enter block).1.putRecord block.count (hop.record block.header) room
  else
    block

def report (hop : Hop) (block : Block) : Option HopRecord :=
  if block.header.postcard then
    if block.count < Block.maxRecords then some (hop.record block.header)
    else some ⟨hop.nodeId, 0, hop.egress.gate.reportId, 0⟩
  else none

theorem stamp_ingress (hop : Hop) (block : Block) (openRecord : Option Nat) :
    hop.ingress.gate.stamp hop.nodeId openRecord hop.ingress.now block =
      ⟨(hop.enter block).1, (hop.enter block).2, none⟩ := by
  by_cases room : block.count < Block.maxRecords
  · rw [Gate.stamp_ingress_of_room hop.enters room, enter, dif_pos room, opening]
  · rw [Gate.stamp_ingress_of_full hop.enters room, enter, dif_neg room]

theorem toNat_count_succ {block : Block} (room : block.count < Block.maxRecords) :
    (UInt8.ofNat (block.count + 1)).toNat = block.count + 1 := by
  have small : block.count < 7 := room
  rw [UInt8.toNat_ofNat']
  omega

/-- The egress gate finds the record that the ingress gate has opened, and completes it.
In a full block it finds none. -/
theorem stamp_egress (hop : Hop) (block : Block) :
    hop.egress.gate.stamp hop.nodeId (hop.enter block).2 hop.egress.now (hop.enter block).1 =
      ⟨hop.mark block, none, hop.report block⟩ := by
  by_cases room : block.count < Block.maxRecords
  · have entered : hop.enter block =
        ((block.putRecord block.count (hop.opening block.header) room).setCount
          (UInt8.ofNat (block.count + 1)), some block.count) := dif_pos room
    -- between the gates the block holds the opened record, and nothing else has changed
    have latest : (hop.enter block).1.count = block.count + 1 := by
      rw [entered, Block.count_setCount, toNat_count_succ room]
    have found : (hop.enter block).1.record? block.count =
        some (hop.opening block.header).stored := by
      rw [entered, Block.record?_setCount, Block.record?_putRecord_self]
    have header : (hop.enter block).1.header =
        { block.header with count := UInt8.ofNat (block.count + 1) } := by
      rw [entered, Block.header_setCount, Block.header_putRecord]
    have opened : (hop.enter block).2 = some block.count := by rw [entered]
    have own : (hop.opening block.header).stored.nodeId = hop.nodeId := rfl
    rw [opened, Gate.stamp_egress_of_opened hop.leaves latest found own room, header, mark,
      dif_pos room, report, if_pos room]
    rfl
  · have entered : hop.enter block = (block, none) := dif_neg room
    rw [entered, Gate.stamp_egress_of_full hop.leaves room, mark, dif_neg room, report,
      if_neg room]

theorem header_mark (hop : Hop) (block : Block) :
    (hop.mark block).header.postcard = block.header.postcard ∧
      (hop.mark block).header.metric? = block.header.metric? := by
  rw [mark]
  split
  · rename_i room
    rw [Block.header_putRecord, enter, dif_pos room, Block.header_setCount,
      Block.header_putRecord]
    exact ⟨rfl, rfl⟩
  · exact ⟨rfl, rfl⟩

theorem count_mark (hop : Hop) {block : Block} (counted : block.count ≤ 7) :
    (hop.mark block).count = min 7 (block.count + 1) := by
  rw [mark]
  split
  · rename_i room
    have small : block.count < 7 := room
    rw [Block.count_putRecord, enter, dif_pos room, Block.count_setCount, toNat_count_succ room]
    omega
  · rename_i full
    have large : ¬ block.count < 7 := full
    omega

theorem record?_mark_of_lt (hop : Hop) {block : Block} {index : Nat}
    (earlier : index < block.count) : (hop.mark block).record? index = block.record? index := by
  rw [mark]
  split
  · rename_i room
    have different : index ≠ block.count := Nat.ne_of_lt earlier
    rw [Block.record?_putRecord_of_ne _ room different, enter, dif_pos room,
      Block.record?_setCount, Block.record?_putRecord_of_ne _ room different]
  · rfl

theorem record?_mark_count (hop : Hop) {block : Block} (room : block.count < 7) :
    (hop.mark block).record? block.count = some (hop.record block.header).stored := by
  have space : block.count < Block.maxRecords := room
  rw [mark, dif_pos space, Block.record?_putRecord_self]

end Hop

/-! ## Carrying a block -/

/-- A packet carries a block, and has certain other bytes.  A full block comes without a
note of an open record, which an ingress gate would not clear. -/
structure Packet.Carries (packet : Packet) (position : Nat) (block : Block) (rest : Bytes) :
    Prop where
  found : Block.at? packet.data position = some block
  rest_eq : Bytes.without packet.data position 36 = rest
  ready : block.count < Block.maxRecords ∨ packet.metadata.openRecord = none

variable {packet : Packet} {position : Nat} {block : Block} {rest : Bytes}

theorem Packet.Carries.length_eq (carries : packet.Carries position block rest) :
    rest.length + 36 = packet.data.length := by
  rw [← carries.rest_eq]
  exact Bytes.length_without (Block.inside_of_at? carries.found)

namespace Hop

/-- Between the gates of a hop. -/
theorem emerge_ingress (hop : Hop) (carries : packet.Carries position block rest)
    (fits : hop.Fits packet.data.length position) :
    ∃ inner, hop.ingress.emerge packet = some inner ∧
      Block.at? inner.data hop.egress.gate.readAt = some (hop.enter block).1 ∧
      Bytes.without inner.data hop.egress.gate.readAt 36 = rest ∧
      inner.metadata.openRecord = (hop.enter block).2 := by
  have reads : Block.at? packet.data hop.ingress.gate.readAt = some block := by
    rw [fits.ingress_reads]
    exact carries.found
  have passed := Gate.forward_spec reads fits.ingress_plain fits.ingress_inside
    hop.ingress.forwarder.nodeId hop.ingress.now
  have stamped := hop.stamp_ingress block packet.metadata.openRecord
  rw [nodeId] at stamped
  rw [stamped, Gate.isEgress_of_ingress hop.enters, ← fits.egress_reads] at passed
  rcases passed with ⟨entered, -, outside, opened⟩
  rw [fits.ingress_reads, carries.rest_eq] at outside
  refine ⟨_, hop.ingress.emerge_eq packet, entered, outside, opened.trans ?_⟩
  rcases carries.ready with room | unopened
  · rw [enter, dif_pos room, Option.some_or]
  · rw [unopened]
    cases (hop.enter block).2 <;> rfl

/-- A packet that carries a block to a hop carries the marked block away from it.  No
other byte of it changes. -/
theorem traverse_spec (hop : Hop) (carries : packet.Carries position block rest)
    (fits : hop.Fits packet.data.length position) :
    ∃ passed, hop.traverse packet = some passed ∧
      passed.Carries hop.egress.gate.writeAt (hop.mark block) rest := by
  rcases hop.emerge_ingress carries fits with ⟨inner, entered, reads, outside, opened⟩
  have inside : hop.egress.gate.writeAt + 36 ≤ inner.data.length := by
    rw [← Bytes.length_without (Block.inside_of_at? reads), outside, carries.length_eq]
    exact fits.egress_inside
  have passed := Gate.forward_spec reads fits.egress_plain inside hop.nodeId hop.egress.now
  have egress : hop.egress.gate.isEgress = true := decide_eq_true hop.leaves
  rw [opened, hop.stamp_egress, egress] at passed
  rcases passed with ⟨marked, -, kept, closed⟩
  refine ⟨_, ?_, marked, kept.trans outside, Or.inr closed⟩
  rw [traverse, entered, Option.bind_some, hop.egress.emerge_eq, hop.same_node, nodeId]

end Hop

/-! ## Crossing many nodes -/

namespace Path

def traverse : List Hop → Packet → Option Packet
  | [], packet => some packet
  | hop :: rest, packet => (hop.traverse packet).bind (traverse rest)

/-- Each hop expects the block where the one before it left it. -/
def Fits (length : Nat) : Nat → List Hop → Prop
  | _, [] => True
  | position, hop :: rest => hop.Fits length position ∧ Fits length hop.egress.gate.writeAt rest

/-- Where the last hop leaves the block. -/
def stop : Nat → List Hop → Nat
  | position, [] => position
  | _, hop :: rest => stop hop.egress.gate.writeAt rest

def mark : List Hop → Block → Block
  | [], block => block
  | hop :: rest, block => mark rest (hop.mark block)

theorem fits_append {length position : Nat} {before rest : List Hop} :
    Fits length position (before ++ rest) ↔
      Fits length position before ∧ Fits length (stop position before) rest := by
  induction before generalizing position with
  | nil => exact ⟨fun fits => ⟨trivial, fits⟩, And.right⟩
  | cons hop before ih =>
      change hop.Fits length position ∧ Fits length hop.egress.gate.writeAt (before ++ rest) ↔
        (hop.Fits length position ∧ Fits length hop.egress.gate.writeAt before) ∧ _
      rw [ih, and_assoc]
      rfl

/-- A packet carries its block along the path.  Every hop marks it, and no other byte of
the packet changes. -/
theorem traverse_spec {hops : List Hop} (carries : packet.Carries position block rest)
    (fits : Fits packet.data.length position hops) :
    ∃ passed, traverse hops packet = some passed ∧
      passed.Carries (stop position hops) (mark hops block) rest := by
  induction hops generalizing packet block position with
  | nil => exact ⟨packet, rfl, carries⟩
  | cons hop others ih =>
      rcases fits with ⟨first, further⟩
      rcases hop.traverse_spec carries first with ⟨next, crossed, marked⟩
      rw [← carries.length_eq, marked.length_eq] at further
      rcases ih marked further with ⟨passed, success, arrived⟩
      refine ⟨passed, ?_, arrived⟩
      rw [traverse, crossed, Option.bind_some, success]

theorem header_mark (hops : List Hop) (block : Block) :
    (mark hops block).header.postcard = block.header.postcard ∧
      (mark hops block).header.metric? = block.header.metric? := by
  induction hops generalizing block with
  | nil => exact ⟨rfl, rfl⟩
  | cons hop rest ih =>
      have later := ih (hop.mark block)
      rw [(hop.header_mark block).1, (hop.header_mark block).2] at later
      exact later

/-- The count goes up by one at every hop until there is no more room. -/
theorem count_mark (hops : List Hop) {block : Block} (counted : block.count ≤ 7) :
    (mark hops block).count = min 7 (block.count + hops.length) := by
  induction hops generalizing block with
  | nil => exact (Nat.min_eq_right counted).symm
  | cons hop rest ih =>
      have next := hop.count_mark counted
      rw [mark, ih (by omega), next, List.length_cons]
      omega

/-- No hop touches the records that it finds in a block. -/
theorem record?_mark_of_lt (hops : List Hop) {block : Block} {index : Nat}
    (counted : block.count ≤ 7) (earlier : index < block.count) :
    (mark hops block).record? index = block.record? index := by
  induction hops generalizing block with
  | nil => rfl
  | cons hop rest ih =>
      have next := hop.count_mark counted
      rw [mark, ih (by omega) (by omega), hop.record?_mark_of_lt earlier]

end Path

end InbandTelemetry
