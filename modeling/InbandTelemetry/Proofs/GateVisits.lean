import InbandTelemetry.Proofs.GateTables
import InbandTelemetry.Proofs.Stamping

namespace InbandTelemetry

/-!
# What gates may change in a packet

A packet that carries a block may visit any gates in any order: several ingress
gates of one node, egress gates of nodes that it never entered, with a block that
claims more records than it has room for.  Whatever the order, the records of a
block form a list that only grows.  A gate adds at most one record at its end, and
it can only complete the last one.  Nothing else in the packet changes, apart from
the place of the block and a record that is prepared behind the last one.
-/

open Telemetry

/-! ## One gate and one block -/

namespace Telemetry.Block

/-- What a gate of a node may make of a block.  Magic, flags and the two bytes behind the
records stay.  The count goes up by one at most, and only where there was room.  Of
the records that are counted, only the last one can change, at an egress gate of the
node that it names, which keeps its node and its ingress tag.  A record that is added
names the node. -/
structure Amended (gate : Gate) (nodeId : UInt8) (block later : Block) : Prop where
  fixed : ∀ offset, offset < 5 ∨ 34 ≤ offset →
    Bytes.byteAt later.bytes offset = Bytes.byteAt block.bytes offset
  count : later.count = block.count ∨ block.count < 7 ∧ later.count = block.count + 1
  earlier : ∀ index, index + 1 < block.count → later.record? index = block.record? index
  latest : ∀ index, index + 1 = block.count → later.record? index ≠ block.record? index →
    gate.direction = .egress ∧ ∃ old new, block.record? index = some old ∧
      later.record? index = some new ∧ old.nodeId = nodeId ∧ new.nodeId = old.nodeId ∧
      new.ingress = old.ingress
  added : block.count < later.count →
    ∃ record, later.record? (later.count - 1) = some record ∧ record.nodeId = nodeId

theorem byteAt_putRecord_of_fixed (block : Block) {index offset : Nat} {record : HopRecord}
    (room : index < maxRecords) (fixed : offset < 5 ∨ 34 ≤ offset) :
    Bytes.byteAt (block.putRecord index record room).bytes offset =
      Bytes.byteAt block.bytes offset := by
  have small : index < 7 := room
  rw [byteAt_putRecord, if_neg (by omega)]

theorem amended_stamp (gate : Gate) (nodeId : UInt8) (openRecord : Option Nat) (now : Nat)
    (block : Block) :
    Amended gate nodeId block (gate.stamp nodeId openRecord now block).block := by
  rcases gate.stamp_cases nodeId openRecord now block with
    same | ⟨last, old, new, room, leaves, counted, found, own, node, tag, completed⟩ |
    ⟨record, room, prepared⟩ | ⟨record, room, own, added⟩
  · rw [same]
    exact ⟨fun _ _ => rfl, Or.inl rfl, fun _ _ => rfl, fun _ _ changed => absurd rfl changed,
      fun grown => absurd grown (Nat.lt_irrefl _)⟩
  · rw [completed]
    have narrow := Bytes.mod_sixteen_of_le (ingress_le_of_record? found)
    refine ⟨fun offset => block.byteAt_putRecord_of_fixed room, Or.inl (block.count_putRecord room),
      ?_, ?_, ?_⟩
    · intro index early
      exact block.record?_putRecord_of_ne room (by omega)
    · intro index latest _
      have place : index = last := by omega
      subst place
      refine ⟨leaves, old, new.stored, found, block.record?_putRecord_self room, own, node, ?_⟩
      rw [HopRecord.stored, tag, narrow]
    · intro grown
      rw [count_putRecord] at grown
      exact absurd grown (Nat.lt_irrefl _)
  · rw [prepared]
    refine ⟨fun offset => block.byteAt_putRecord_of_fixed room, Or.inl (block.count_putRecord room),
      ?_, ?_, ?_⟩
    · intro index early
      exact block.record?_putRecord_of_ne room (by omega)
    · intro index latest changed
      exact absurd (block.record?_putRecord_of_ne room (by omega)) changed
    · intro grown
      rw [count_putRecord] at grown
      exact absurd grown (Nat.lt_irrefl _)
  · rw [added]
    have count : (UInt8.ofNat (block.count + 1)).toNat = block.count + 1 := by
      have small : block.count < 7 := room
      rw [UInt8.toNat_ofNat']
      omega
    refine ⟨?_, Or.inr ⟨room, (count_setCount _ _).trans count⟩, ?_, ?_, ?_⟩
    · intro offset fixed
      rw [byteAt_setCount, if_neg (by omega), block.byteAt_putRecord_of_fixed room fixed]
    · intro index early
      rw [record?_setCount, block.record?_putRecord_of_ne room (by omega)]
    · intro index latest changed
      rw [record?_setCount, block.record?_putRecord_of_ne room (by omega)] at changed
      exact absurd rfl changed
    · intro grown
      refine ⟨record.stored, ?_, own⟩
      rw [count_setCount, count, Nat.add_sub_cancel, record?_setCount, record?_putRecord_self]

/-- What holds of a block after any number of amendments. -/
structure Extended (block later : Block) : Prop where
  fixed : ∀ offset, offset < 5 ∨ 34 ≤ offset →
    Bytes.byteAt later.bytes offset = Bytes.byteAt block.bytes offset
  count_le : block.count ≤ later.count
  earlier : ∀ index, index + 1 < block.count → later.record? index = block.record? index

theorem Extended.refl (block : Block) : Extended block block :=
  ⟨fun _ _ => rfl, Nat.le_refl _, fun _ _ => rfl⟩

theorem Extended.trans {first second third : Block} (before : Extended first second)
    (behind : Extended second third) : Extended first third := by
  refine ⟨?_, Nat.le_trans before.count_le behind.count_le, ?_⟩
  · intro offset fixed
    rw [behind.fixed offset fixed, before.fixed offset fixed]
  · intro index early
    rw [behind.earlier index (Nat.lt_of_lt_of_le early before.count_le), before.earlier index early]

theorem Amended.extended {gate : Gate} {nodeId : UInt8} {block later : Block}
    (amended : Amended gate nodeId block later) : Extended block later := by
  refine ⟨amended.fixed, ?_, amended.earlier⟩
  rcases amended.count with same | ⟨-, raised⟩ <;> omega

end Telemetry.Block

/-! ## Visits -/

/-- A batch on a registered gate, whatever its configuration, with a place in it that is
left for one packet behind the `earlier` and in front of the `later` ones. -/
structure Visit where
  forwarder : Forwarder
  gateId : GateId
  /-- The gate as the batch finds it. -/
  gate : Gate
  registered : forwarder.gates.find? gateId = some gate
  earlier : Batch := []
  later : Batch := []
  now : Nat

namespace Visit

/-- The packet that comes out at the same place. -/
def emerge (visit : Visit) (packet : Packet) : Option Packet :=
  (visit.forwarder.process visit.gateId (visit.earlier ++ packet :: visit.later)
    visit.now).1.batch[visit.earlier.length]?

theorem emerge_eq (visit : Visit) (packet : Packet) :
    visit.emerge packet =
      some (visit.gate.forward visit.forwarder.nodeId visit.now packet) := by
  rw [emerge, Forwarder.process_batch visit.registered, List.getElem?_map,
    List.getElem?_append_right (Nat.le_refl _), Nat.sub_self, List.getElem?_cons_zero,
    Option.map_some]

/-- A gate that hands a block on from a position, inside packets of some length, and
writes nothing over them. -/
structure Fits (visit : Visit) (length position : Nat) : Prop where
  reads : visit.gate.readAt = position
  inside : visit.gate.writeAt + 36 ≤ length
  plain : visit.gate.overlay = none

variable {packet : Packet} {position : Nat} {block : Block}

/-- A visit amends the block and moves it, and changes nothing else. -/
theorem emerge_spec (visit : Visit) (carried : Block.at? packet.data position = some block)
    (fits : visit.Fits packet.data.length position) :
    ∃ passed later, visit.emerge packet = some passed ∧
      Block.at? passed.data visit.gate.writeAt = some later ∧
      passed.data.length = packet.data.length ∧
      Bytes.without passed.data visit.gate.writeAt 36 = Bytes.without packet.data position 36 ∧
      Block.Amended visit.gate visit.forwarder.nodeId block later := by
  rcases visit with ⟨forwarder, gateId, gate, registered, earlier, later, now⟩
  rcases fits with ⟨reads, inside, plain⟩
  dsimp only at reads inside plain
  subst reads
  rcases Gate.forward_spec carried plain inside forwarder.nodeId now with
    ⟨marked, length, rest, -⟩
  exact ⟨_, _, emerge_eq _ packet, marked, length, rest, Block.amended_stamp _ _ _ _ _⟩

/-! ## Visits one after the other -/

def traverse : List Visit → Packet → Option Packet
  | [], packet => some packet
  | visit :: rest, packet => (visit.emerge packet).bind (traverse rest)

/-- Each gate expects the block where the one before it left it. -/
def FitAll (length : Nat) : Nat → List Visit → Prop
  | _, [] => True
  | position, visit :: rest => visit.Fits length position ∧ FitAll length visit.gate.writeAt rest

/-- Where the last gate leaves the block. -/
def stop : Nat → List Visit → Nat
  | position, [] => position
  | _, visit :: rest => stop visit.gate.writeAt rest

theorem fitAll_append {length position : Nat} {before rest : List Visit} :
    FitAll length position (before ++ rest) ↔
      FitAll length position before ∧ FitAll length (stop position before) rest := by
  induction before generalizing position with
  | nil => exact ⟨fun fits => ⟨trivial, fits⟩, And.right⟩
  | cons visit before ih =>
      change visit.Fits length position ∧ FitAll length visit.gate.writeAt (before ++ rest) ↔
        (visit.Fits length position ∧ FitAll length visit.gate.writeAt before) ∧ _
      rw [ih, and_assoc]
      rfl

/-- Any number of visits extend the block and move it, and change nothing else. -/
theorem traverse_spec {visits : List Visit}
    (carried : Block.at? packet.data position = some block)
    (fits : FitAll packet.data.length position visits) :
    ∃ passed later, traverse visits packet = some passed ∧
      Block.at? passed.data (stop position visits) = some later ∧
      passed.data.length = packet.data.length ∧
      Bytes.without passed.data (stop position visits) 36 =
        Bytes.without packet.data position 36 ∧
      Block.Extended block later := by
  induction visits generalizing packet block position with
  | nil => exact ⟨packet, block, rfl, carried, rfl, rfl, .refl block⟩
  | cons visit others ih =>
      rcases fits with ⟨first, further⟩
      rcases visit.emerge_spec carried first with
        ⟨next, between, emerged, marked, length, rest, amended⟩
      rw [← length] at further
      rcases ih marked further with
        ⟨passed, later, success, arrived, sameLength, sameRest, extended⟩
      refine ⟨passed, later, ?_, arrived, sameLength.trans length, sameRest.trans rest,
        amended.extended.trans extended⟩
      rw [traverse, emerged, Option.bind_some, success]

/-- A packet with a block makes any number of visits, then one more, and then others.  The
visit in the middle finds the block where the earlier ones left it.  After it the
packet is as long as in the beginning, and so are all its bytes without the block; the
fixed bytes of the block are those of the beginning; and the visit amends the block as
a gate may.  The records that lay before the last one when it came never change again. -/
theorem amended_along_visits {packet : Packet} {block : Block} {position : Nat}
    {earlier later : List Visit} {visit : Visit}
    (carried : Block.at? packet.data position = some block)
    (fits : FitAll packet.data.length position (earlier ++ visit :: later)) :
    ∃ before after last : Packet, ∃ old new final : Block,
      traverse earlier packet = some before ∧
      Block.at? before.data visit.gate.readAt = some old ∧
      visit.emerge before = some after ∧
      Block.at? after.data visit.gate.writeAt = some new ∧
      after.data.length = packet.data.length ∧
      Bytes.without after.data visit.gate.writeAt 36 = Bytes.without packet.data position 36 ∧
      (∀ offset, offset < 5 ∨ 34 ≤ offset →
        Bytes.byteAt new.bytes offset = Bytes.byteAt block.bytes offset) ∧
      Block.Amended visit.gate visit.forwarder.nodeId old new ∧
      traverse later after = some last ∧
      Block.at? last.data (stop visit.gate.writeAt later) = some final ∧
      ∀ index, index + 1 < old.count → final.record? index = old.record? index := by
  rcases fitAll_append.mp fits with ⟨upTo, there, behind⟩
  rcases traverse_spec carried upTo with
    ⟨before, old, success, arrived, length, rest, extended⟩
  rw [← length] at there behind
  rcases visit.emerge_spec arrived there with
    ⟨after, new, emerged, marked, sameLength, sameRest, amended⟩
  rw [← sameLength] at behind
  rcases traverse_spec marked behind with ⟨last, final, continued, left, -, -, further⟩
  have whole := amended.extended.trans further
  refine ⟨before, after, last, old, new, final, success, ?_, emerged, marked,
    sameLength.trans length, sameRest.trans rest, ?_, amended, continued, left, whole.earlier⟩
  · rw [there.reads]
    exact arrived
  · exact (extended.trans amended.extended).fixed

/-- A packet on its own visits the only gate of a node. -/
def alone (nodeId : UInt8) (gate : Gate) (now : Nat) : Visit where
  forwarder := { nodeId, gates := .only gate }
  gateId := 0
  gate
  registered := GateTable.find?_only gate
  now

/-- A block with room for one more record, which asks for postcards, between four bytes
and two more. -/
def nearlyFull : Packet where
  data := [1, 2, 3, 4] ++ (Block.fresh ⟨0, 0, true, 6⟩).bytes ++ [5, 6]

theorem nearlyFull_along_visits :
    ∃ before after last : Packet, ∃ old new final : Block,
      traverse [alone 7 (.plain .ingress 3 4 2) 1000] nearlyFull = some before ∧
      Block.at? before.data 2 = some old ∧
      (alone 7 (.plain .egress 5 2 0) 1250).emerge before = some after ∧
      Block.at? after.data 0 = some new ∧ after.data.length = 42 ∧
      Bytes.without after.data 0 36 = [1, 2, 3, 4, 5, 6] ∧
      Block.Amended (.plain .egress 5 2 0) 7 old new ∧
      traverse [alone 8 (.plain .ingress 1 0 6) 1500] after = some last ∧
      Block.at? last.data 6 = some final ∧
      ∀ index, index + 1 < old.count → final.record? index = old.record? index := by
  have carried : Block.at? nearlyFull.data 4 = some (Block.fresh ⟨0, 0, true, 6⟩) := by decide
  have fits : FitAll nearlyFull.data.length 4
      ([alone 7 (.plain .ingress 3 4 2) 1000] ++
        alone 7 (.plain .egress 5 2 0) 1250 :: [alone 8 (.plain .ingress 1 0 6) 1500]) := by
    refine ⟨⟨rfl, ?_, rfl⟩, ⟨rfl, ?_, rfl⟩, ⟨rfl, ?_, rfl⟩, trivial⟩ <;> decide
  rcases amended_along_visits carried fits with
    ⟨before, after, last, old, new, final, success, arrived, emerged, marked, length, rest, -,
      amended, continued, left, kept⟩
  refine ⟨before, after, last, old, new, final, success, arrived, emerged, marked,
    length.trans (by decide), rest.trans (by decide), amended, continued, left, kept⟩

end Visit

end InbandTelemetry
