import InbandTelemetry.Forwarder
import InbandTelemetry.Proofs.BlockMoves

namespace InbandTelemetry

/-!
# What a gate does to the block of a packet

The stamp of a gate is described case by case.  At an ingress gate the cases are
a block with room and a full one.  At an egress gate they are a record that the
ingress gate of the same node has just opened, and a full block in which no
record was opened.  For a block of which nothing is known, all that a stamp can
do to it is listed.  Whatever the case, the stamped block takes the place of the
old one in the packet and moves to the write position, and no other byte of the
packet changes.
-/

open Telemetry

namespace Gate

/-! ## The stamp, case by case -/

section Stamp

variable {gate : Gate} {nodeId : UInt8} {openRecord : Option Nat} {now : Nat} {block : Block}

theorem isEgress_of_ingress (enters : gate.direction = .ingress) : gate.isEgress = false := by
  rw [isEgress, enters]
  rfl

theorem completes_ingress (enters : gate.direction = .ingress) :
    gate.completes nodeId openRecord block = false := by
  rw [completes, isEgress_of_ingress enters]
  rfl

theorem completes_none : gate.completes nodeId none block = false := by
  rw [completes, Option.none_beq_some, Bool.and_false, Bool.false_and]

/-- An egress gate completes the latest record if the packet says that it was opened
by the last ingress gate and the record says that this was a gate of the node. -/
theorem completes_of_opened {index : Nat} {record : HopRecord} (leaves : gate.direction = .egress)
    (latest : block.count = index + 1) (found : block.record? index = some record)
    (own : record.nodeId = nodeId) : gate.completes nodeId (some index) block = true := by
  have egress : gate.isEgress = true := decide_eq_true leaves
  have counted : 0 < index + 1 := Nat.succ_pos index
  rw [completes, egress, latest, Nat.add_sub_cancel, found, decide_eq_true counted,
    Option.map_some, own]
  simp only [beq_self_eq_true, Bool.and_true]

/-- The record that an ingress gate opens. -/
def opening (gate : Gate) (nodeId : UInt8) (now : Nat) (header : Header) : HopRecord :=
  ⟨nodeId, gate.reportId, 0, gate.measure header.metric? false now 0⟩

theorem stamp_ingress_of_room (enters : gate.direction = .ingress)
    (room : block.count < Block.maxRecords) :
    gate.stamp nodeId openRecord now block =
      ⟨(block.putRecord block.count (gate.opening nodeId now block.header) room).setCount
          (UInt8.ofNat (block.count + 1)),
        some block.count, none⟩ := by
  have ingress : gate.isIngress = true := decide_eq_true enters
  simp only [stamp, completes_ingress enters, ingress, isEgress_of_ingress enters, Bool.and_false,
    Bool.false_eq_true, if_false, if_true, Bool.or_false, dif_pos room, label, enters,
    HopRecord.opened, opening]

theorem stamp_ingress_of_full (enters : gate.direction = .ingress)
    (full : ¬ block.count < Block.maxRecords) :
    gate.stamp nodeId openRecord now block = ⟨block, none, none⟩ := by
  simp only [stamp, completes_ingress enters, isEgress_of_ingress enters, Bool.and_false,
    Bool.false_eq_true, if_false, dif_neg full]

/-- The record that an egress gate makes of the one that the ingress gate opened.  Where
postcards are asked for, nothing is measured. -/
def completed (gate : Gate) (now : Nat) (header : Header) (record : HopRecord) : HopRecord :=
  if header.postcard then { record with egress := gate.reportId }
  else
    { record with
      egress := gate.reportId
      value := gate.measure header.metric? true now record.value }

theorem stamp_egress_of_opened {index : Nat} {record : HopRecord}
    (leaves : gate.direction = .egress) (latest : block.count = index + 1)
    (found : block.record? index = some record) (own : record.nodeId = nodeId)
    (room : index < Block.maxRecords) :
    gate.stamp nodeId (some index) now block =
      ⟨block.putRecord index (gate.completed now block.header record) room, none,
        if block.header.postcard then some (gate.completed now block.header record) else none⟩ := by
  have egress : gate.isEgress = true := decide_eq_true leaves
  have completing := completes_of_opened leaves latest found own
  simp only [stamp, completing, egress, latest, Nat.add_sub_cancel, found, if_true, Bool.and_true,
    Bool.true_or, dif_pos room, label, leaves, Option.getD_some, completed]

theorem stamp_egress_of_full (leaves : gate.direction = .egress)
    (full : ¬ block.count < Block.maxRecords) :
    gate.stamp nodeId none now block =
      ⟨block, none,
        if block.header.postcard then some ⟨nodeId, 0, gate.reportId, 0⟩ else none⟩ := by
  have egress : gate.isEgress = true := decide_eq_true leaves
  simp only [stamp, completes_none, egress, Bool.and_true, Bool.false_eq_true, if_false,
    dif_neg full, label, leaves, HopRecord.opened]
  by_cases postcard : block.header.postcard = true
  · simp only [postcard, if_true]
  · simp only [postcard, Bool.false_eq_true, if_false]

@[simp] theorem nodeId_label (gate : Gate) (record : HopRecord) :
    (gate.label record).nodeId = record.nodeId := by
  rw [label]
  split <;> rfl

theorem ingress_label_of_egress (leaves : gate.direction = .egress) (record : HopRecord) :
    (gate.label record).ingress = record.ingress := by
  rw [label, leaves]

/-- A gate that completes a record is an egress gate, and the record is the last one of
the block and of the same node. -/
theorem completes_spec (completing : gate.completes nodeId openRecord block = true) :
    gate.direction = .egress ∧ ∃ index record, block.count = index + 1 ∧
      block.record? index = some record ∧ record.nodeId = nodeId := by
  rw [completes] at completing
  simp only [Bool.and_eq_true, decide_eq_true_eq, beq_iff_eq] at completing
  rcases completing with ⟨⟨⟨leaves, counted⟩, -⟩, own⟩
  rcases Option.map_eq_some_iff.mp own with ⟨record, found, same⟩
  refine ⟨of_decide_eq_true leaves, block.count - 1, record, ?_, found, same⟩
  omega

/-- A gate that completes a record has got its index from the note of the packet. -/
theorem openRecord_of_completes (completing : gate.completes nodeId openRecord block = true) :
    openRecord = some (block.count - 1) := by
  rw [completes] at completing
  simp only [Bool.and_eq_true, beq_iff_eq] at completing
  exact completing.1.2

/-! ### The record of a stamp and its value -/

/-- The index of the record that a gate writes into a block. -/
def recordIndex (gate : Gate) (nodeId : UInt8) (openRecord : Option Nat) (block : Block) : Nat :=
  if gate.completes nodeId openRecord block then block.count - 1 else block.count

/-- The record that a gate writes into a block, before anything is measured. -/
def begun (gate : Gate) (nodeId : UInt8) (openRecord : Option Nat) (block : Block) : HopRecord :=
  gate.label
    (if gate.completes nodeId openRecord block then
      (block.record? (gate.recordIndex nodeId openRecord block)).getD (.opened nodeId)
    else .opened nodeId)

/-- Whether a gate hands the record of a hop out. -/
def exports (gate : Gate) (block : Block) : Bool := block.header.postcard && gate.isEgress

/-- The value of the record that a gate writes into a block. -/
def value (gate : Gate) (nodeId : UInt8) (openRecord : Option Nat) (now : Nat) (block : Block) :
    UInt16 :=
  let before := (gate.begun nodeId openRecord block).value
  if gate.exports block then before
  else gate.measure block.header.metric? (gate.completes nodeId openRecord block) now before

/-- The stamp of a gate whose record has the value `value`. -/
def stampValue (gate : Gate) (nodeId : UInt8) (openRecord : Option Nat) (block : Block)
    (value : UInt16) : Stamp :=
  let record := { gate.begun nodeId openRecord block with value }
  let index := gate.recordIndex nodeId openRecord block
  let report := if gate.exports block then some record else none
  if room : index < Block.maxRecords then
    let written := block.putRecord index record room
    if gate.completes nodeId openRecord block || gate.exports block then
      ⟨written, none, report⟩
    else
      ⟨written.setCount (UInt8.ofNat (index + 1)), if gate.isIngress then some index else none,
        report⟩
  else
    ⟨block, none, report⟩

theorem stamp_eq_stampValue (gate : Gate) (nodeId : UInt8) (openRecord : Option Nat) (now : Nat)
    (block : Block) :
    gate.stamp nodeId openRecord now block =
      gate.stampValue nodeId openRecord block (gate.value nodeId openRecord now block) := by
  have recorded : { gate.begun nodeId openRecord block with
        value := gate.value nodeId openRecord now block } =
      if gate.exports block then gate.begun nodeId openRecord block
      else { gate.begun nodeId openRecord block with
        value := gate.measure block.header.metric? (gate.completes nodeId openRecord block) now
          (gate.begun nodeId openRecord block).value } := by
    rw [value]
    split <;> rfl
  rw [stampValue, recorded]
  rfl

/-- A gate that finds room for a record writes the record that it has begun, with the value
that it measures. -/
theorem record?_stamp (nodeId : UInt8) (openRecord : Option Nat) (now : Nat) (block : Block)
    (room : gate.recordIndex nodeId openRecord block < Block.maxRecords) :
    (gate.stamp nodeId openRecord now block).block.record?
        (gate.recordIndex nodeId openRecord block) =
      some { gate.begun nodeId openRecord block with
        value := gate.value nodeId openRecord now block }.stored := by
  rw [stamp_eq_stampValue, stampValue]
  dsimp only
  rw [dif_pos room]
  split
  · rw [Block.record?_putRecord_self]
  · rw [Block.record?_setCount, Block.record?_putRecord_self]

/-- An egress gate opens no record for another gate to complete. -/
theorem opened_stamp_of_egress (leaves : gate.direction = .egress) :
    (gate.stamp nodeId openRecord now block).opened = none := by
  have ingress : gate.isIngress = false := by
    rw [isIngress, leaves]
    rfl
  rw [stamp_eq_stampValue, stampValue]
  dsimp only
  split
  · split
    · rfl
    · rw [ingress, if_neg Bool.false_ne_true]
  · rfl

/-- What an egress gate reports about a block that asks for postcards is the record that it
writes, with nothing measured. -/
theorem report_stamp (gate : Gate) (nodeId : UInt8) (openRecord : Option Nat) (now : Nat)
    (block : Block) :
    (gate.stamp nodeId openRecord now block).report =
      if gate.exports block then some (gate.begun nodeId openRecord block) else none := by
  have reported : (gate.stamp nodeId openRecord now block).report =
      if gate.exports block then
        some { gate.begun nodeId openRecord block with
          value := gate.value nodeId openRecord now block }
      else none := by
    rw [stamp_eq_stampValue, stampValue]
    dsimp only
    split
    · split <;> rfl
    · rfl
  rw [reported]
  split
  · rename_i exported
    rw [value, if_pos exported]
  · rfl

/-- An egress gate goes on with the record that it completes. -/
theorem begun_of_completes (completing : gate.completes nodeId openRecord block = true) :
    ∃ index old, gate.direction = .egress ∧ block.count = index + 1 ∧
      block.record? index = some old ∧ old.nodeId = nodeId ∧
      gate.recordIndex nodeId openRecord block = index ∧
      gate.begun nodeId openRecord block = gate.label old := by
  rcases completes_spec completing with ⟨leaves, index, old, counted, found, own⟩
  have place : gate.recordIndex nodeId openRecord block = index := by
    rw [recordIndex, if_pos completing, counted, Nat.add_sub_cancel]
  refine ⟨index, old, leaves, counted, found, own, place, ?_⟩
  rw [begun, if_pos completing, place, found, Option.getD_some]

/-- A gate that completes no record begins one behind the others. -/
theorem begun_of_not_completes (opening : ¬ gate.completes nodeId openRecord block = true) :
    gate.recordIndex nodeId openRecord block = block.count ∧
      gate.begun nodeId openRecord block = gate.label (.opened nodeId) := by
  rw [recordIndex, begun, if_neg opening, if_neg opening]
  exact ⟨rfl, rfl⟩

/-- An egress gate goes on with the record that is pending, and it begins one of its own if
none is. -/
theorem begun_of_pending (leaves : gate.direction = .egress) :
    gate.begun nodeId openRecord block =
      gate.label ((block.pending? nodeId openRecord).getD (.opened nodeId)) := by
  by_cases completing : gate.completes nodeId openRecord block = true
  · rcases begun_of_completes completing with ⟨index, old, -, counted, found, own, -, resumed⟩
    have noted : openRecord = some index := by
      rw [openRecord_of_completes completing, counted, Nat.add_sub_cancel]
    have pending := Block.pending?_eq_some_iff.mpr ⟨index, noted, counted, found, own⟩
    rw [resumed, pending, Option.getD_some]
  · rw [(begun_of_not_completes completing).2]
    cases pending : block.pending? nodeId openRecord with
    | none => rfl
    | some record =>
        rcases Block.pending?_eq_some_iff.mp pending with ⟨index, rfl, counted, found, own⟩
        exact absurd (completes_of_opened leaves counted found own) completing

/-- All that a stamp can do to a block: nothing; complete the last record, at an egress
gate of the node of that record; prepare a record behind the last one; or add a
record of the node. -/
theorem stamp_cases (gate : Gate) (nodeId : UInt8) (openRecord : Option Nat) (now : Nat)
    (block : Block) :
    (gate.stamp nodeId openRecord now block).block = block ∨
    (∃ (index : Nat) (old new : HopRecord) (room : index < Block.maxRecords),
      gate.direction = .egress ∧ block.count = index + 1 ∧ block.record? index = some old ∧
        old.nodeId = nodeId ∧ new.nodeId = old.nodeId ∧ new.ingress = old.ingress ∧
        (gate.stamp nodeId openRecord now block).block = block.putRecord index new room) ∨
    (∃ (record : HopRecord) (room : block.count < Block.maxRecords),
      (gate.stamp nodeId openRecord now block).block =
        block.putRecord block.count record room) ∨
    ∃ (record : HopRecord) (room : block.count < Block.maxRecords), record.nodeId = nodeId ∧
      (gate.stamp nodeId openRecord now block).block =
        (block.putRecord block.count record room).setCount (UInt8.ofNat (block.count + 1)) := by
  rw [stamp_eq_stampValue]
  generalize gate.value nodeId openRecord now block = value
  by_cases room : gate.recordIndex nodeId openRecord block < Block.maxRecords
  · right
    by_cases completing : gate.completes nodeId openRecord block = true
    · rcases begun_of_completes completing with
        ⟨index, old, leaves, counted, found, own, place, resumed⟩
      rw [place] at room
      left
      refine ⟨index, old, { gate.begun nodeId openRecord block with value }, room, leaves, counted,
        found, own, ?_, ?_, ?_⟩
      · rw [resumed, nodeId_label]
      · rw [resumed, ingress_label_of_egress leaves]
      · simp only [stampValue, place, dif_pos room, completing, Bool.true_or, if_true]
    · rcases begun_of_not_completes completing with ⟨place, fresh⟩
      rw [place] at room
      right
      by_cases exported : gate.exports block = true
      · left
        refine ⟨{ gate.begun nodeId openRecord block with value }, room, ?_⟩
        simp only [stampValue, place, dif_pos room, exported, Bool.or_true, if_true]
      · right
        refine ⟨{ gate.begun nodeId openRecord block with value }, room, ?_, ?_⟩
        · rw [fresh, nodeId_label]
          rfl
        · simp only [stampValue, place, dif_pos room, completing, exported, Bool.or_self,
            Bool.false_eq_true, if_false]
  · left
    simp only [stampValue, dif_neg room]

/-- A stamped block is still marked as a block. -/
theorem magic_stamp (gate : Gate) (nodeId : UInt8) (openRecord : Option Nat) (now : Nat)
    (block : Block) :
    (gate.stamp nodeId openRecord now block).block.bytes.take 4 = block.bytes.take 4 := by
  rcases gate.stamp_cases nodeId openRecord now block with
    same | ⟨_, _, _, room, -, -, -, -, -, -, completed⟩ | ⟨_, room, prepared⟩ |
    ⟨_, room, -, added⟩
  · rw [same]
  · rw [completed]
    exact block.magic_putRecord room
  · rw [prepared]
    exact block.magic_putRecord room
  · rw [added]
    exact (Block.magic_setCount _ _).trans (block.magic_putRecord room)

end Stamp

/-! ## The packet behind a gate -/

theorem blockAt?_eq (gate : Gate) (data : Bytes) :
    Forwarder.blockAt? gate data = Block.at? data gate.readAt := by
  rw [Forwarder.blockAt?, Block.at?]
  cases parsed : Block.parse (data.drop gate.readAt) with
  | ok block => rw [if_pos (Block.isPresent_of_parse parsed)]
  | error fault =>
      split
      · rfl
      · rfl

/-- What a gate makes of a packet. -/
def forward (gate : Gate) (nodeId : UInt8) (now : Nat) (packet : Packet) : Packet :=
  let stamped := Forwarder.stampPacket gate nodeId now packet
  if stamped.present then { stamped.packet with data := gate.relocate stamped.packet.data }
  else stamped.packet

/-- A packet with its block replaced by a stamped one, before the block moves. -/
def stampedData (gate : Gate) (packet : Packet) (stamp : Stamp) : Bytes :=
  Bytes.overwrite packet.data gate.readAt stamp.block.bytes

variable {gate : Gate} {packet : Packet} {block : Block}

theorem stampPacket_of_absent (absent : Block.at? packet.data gate.readAt = none)
    (nodeId : UInt8) (now : Nat) :
    Forwarder.stampPacket gate nodeId now packet =
      ⟨{ packet with
          metadata.openRecord := if gate.isEgress then none else packet.metadata.openRecord },
        false, none⟩ := by
  rw [Forwarder.stampPacket, blockAt?_eq, absent]

theorem stampPacket_eq (carried : Block.at? packet.data gate.readAt = some block)
    (nodeId : UInt8) (now : Nat) :
    Forwarder.stampPacket gate nodeId now packet =
      let stamp := gate.stamp nodeId packet.metadata.openRecord now block
      ⟨{ data := gate.stampedData packet stamp
         metadata :=
          { packet.metadata with
            openRecord :=
              stamp.opened.or (if gate.isEgress then none else packet.metadata.openRecord) } },
        true, stamp.report⟩ := by
  rw [Forwarder.stampPacket, blockAt?_eq, carried]
  rfl

/-- A packet behind a gate: without a block at the read position only the note can have
changed, and otherwise the gate has stamped the block and moved it. -/
theorem forward_eq (gate : Gate) (nodeId : UInt8) (now : Nat) (packet : Packet) :
    gate.forward nodeId now packet =
      match Block.at? packet.data gate.readAt with
      | none =>
          { packet with
            metadata.openRecord := if gate.isEgress then none else packet.metadata.openRecord }
      | some block =>
          let stamp := gate.stamp nodeId packet.metadata.openRecord now block
          { data := gate.relocate (gate.stampedData packet stamp)
            metadata :=
              { packet.metadata with
                openRecord :=
                  stamp.opened.or
                    (if gate.isEgress then none else packet.metadata.openRecord) } } := by
  cases carried : Block.at? packet.data gate.readAt with
  | none =>
      rw [forward, stampPacket_of_absent carried]
      rfl
  | some block =>
      rw [forward, stampPacket_eq carried]
      rfl

/-! ### The notes of a packet -/

/-- A gate writes no note but the one about the open record. -/
theorem metadata_forward (gate : Gate) (nodeId : UInt8) (now : Nat) (packet : Packet) :
    ∃ openRecord, (gate.forward nodeId now packet).metadata = { packet.metadata with openRecord } := by
  rw [forward_eq]
  split <;> exact ⟨_, rfl⟩

/-- Behind an egress gate no record is open. -/
theorem openRecord_forward_of_egress (leaves : gate.direction = .egress) (nodeId : UInt8)
    (now : Nat) : (gate.forward nodeId now packet).metadata.openRecord = none := by
  have egress : gate.isEgress = true := decide_eq_true leaves
  rw [forward_eq, egress]
  split
  · rfl
  · simp only [opened_stamp_of_egress leaves, if_true, Option.or_none]

/-- Behind an ingress gate that finds room in a block, the record that it has added is open. -/
theorem openRecord_forward_of_room (enters : gate.direction = .ingress)
    (carried : Block.at? packet.data gate.readAt = some block)
    (room : block.count < Block.maxRecords) (nodeId : UInt8) (now : Nat) :
    (gate.forward nodeId now packet).metadata.openRecord = some block.count := by
  rw [forward_eq, carried]
  simp only [stamp_ingress_of_room enters room, Option.some_or]

/-- An ingress gate that finds no block, or a full one, leaves the note as it is. -/
theorem openRecord_forward_of_idle (enters : gate.direction = .ingress)
    (idle : ∀ block, Block.at? packet.data gate.readAt = some block →
      ¬ block.count < Block.maxRecords) (nodeId : UInt8) (now : Nat) :
    (gate.forward nodeId now packet).metadata.openRecord = packet.metadata.openRecord := by
  rw [forward_eq, isEgress_of_ingress enters]
  split
  · rfl
  · rename_i block carried
    simp only [stamp_ingress_of_full enters (idle block carried), Option.none_or,
      Bool.false_eq_true, if_false]

/-! ### The bytes of a packet -/

/-- Stamping changes the block and nothing else. -/
theorem stampedData_spec (carried : Block.at? packet.data gate.readAt = some block)
    (stamp : Stamp) :
    (gate.stampedData packet stamp).length = packet.data.length ∧
      Bytes.window (gate.stampedData packet stamp) gate.readAt 36 = stamp.block.bytes ∧
      Bytes.without (gate.stampedData packet stamp) gate.readAt 36 =
        Bytes.without packet.data gate.readAt 36 := by
  have size := stamp.block.length_eq
  have inside : gate.readAt + stamp.block.bytes.length ≤ packet.data.length := by
    rw [size]
    exact Block.inside_of_at? carried
  have content := Bytes.window_overwrite inside
  have rest := Bytes.without_overwrite inside
  rw [size] at content rest
  exact ⟨Bytes.length_overwrite inside, content, rest⟩

/-- A packet that carried a block carries the stamped one. -/
theorem at?_stampedData (carried : Block.at? packet.data gate.readAt = some block)
    (nodeId : UInt8) (openRecord : Option Nat) (now : Nat) :
    Block.at? (gate.stampedData packet (gate.stamp nodeId openRecord now block)) gate.readAt =
      some (gate.stamp nodeId openRecord now block).block := by
  rcases stampedData_spec carried (gate.stamp nodeId openRecord now block) with ⟨-, content, -⟩
  have marked := (magic_stamp gate nodeId openRecord now block).trans
    (Block.at?_eq_some_iff.mp carried).2
  exact Block.at?_eq_some_iff.mpr ⟨content, marked⟩

/-- Behind a gate whose overlay spares it, the stamped block is where the gate leaves it. -/
theorem at?_forward (carried : Block.at? packet.data gate.readAt = some block)
    (spares : gate.Spares (gate.leavesAt packet.data.length)) (nodeId : UInt8) (now : Nat) :
    Block.at? (gate.forward nodeId now packet).data (gate.leavesAt packet.data.length) =
      some (gate.stamp nodeId packet.metadata.openRecord now block).block := by
  let stamp := gate.stamp nodeId packet.metadata.openRecord now block
  have size := (stampedData_spec carried stamp).1
  rw [forward_eq, carried, ← size]
  exact at?_relocate (at?_stampedData carried nodeId _ now) (size ▸ spares)

/-- Without an overlay, a block that stays in the packet moves to the write position,
over bytes that keep their order. -/
theorem relocate_spec {data : Bytes} (plain : gate.overlay = none)
    (readInside : gate.readAt + 36 ≤ data.length)
    (writeInside : gate.writeAt + 36 ≤ data.length) :
    (gate.relocate data).length = data.length ∧
      Bytes.window (gate.relocate data) gate.writeAt 36 = Bytes.window data gate.readAt 36 ∧
      Bytes.without (gate.relocate data) gate.writeAt 36 =
        Bytes.without data gate.readAt 36 := by
  have moved := moveBlock_spec readInside
  rw [leavesAt, if_pos writeInside] at moved
  have whole : gate.relocate data = gate.moveBlock data := by
    rw [relocate, applyOverlay, plain]
  rw [whole]
  exact moved

/-- Behind a gate without an overlay, a packet carries the stamped block at the write
position.  Its length and all its other bytes are as before. -/
theorem forward_spec (carried : Block.at? packet.data gate.readAt = some block)
    (plain : gate.overlay = none) (writeInside : gate.writeAt + 36 ≤ packet.data.length)
    (nodeId : UInt8) (now : Nat) :
    let stamp := gate.stamp nodeId packet.metadata.openRecord now block
    let passed := gate.forward nodeId now packet
    Block.at? passed.data gate.writeAt = some stamp.block ∧
      passed.data.length = packet.data.length ∧
      Bytes.without passed.data gate.writeAt 36 = Bytes.without packet.data gate.readAt 36 ∧
      passed.metadata.openRecord =
        stamp.opened.or (if gate.isEgress then none else packet.metadata.openRecord) := by
  intro stamp passed
  rcases stampedData_spec carried stamp with ⟨size, -, rest⟩
  have spares : gate.Spares (gate.leavesAt packet.data.length) := by
    rw [Spares, plain]
    exact nofun
  have arrived := at?_forward carried spares nodeId now
  rw [leavesAt, if_pos writeInside] at arrived
  have readInside := Block.inside_of_at? carried
  rw [← size] at readInside writeInside
  rcases relocate_spec plain readInside writeInside with ⟨movedSize, -, movedRest⟩
  have forwarded := gate.forward_eq nodeId now packet
  rw [carried] at forwarded
  refine ⟨arrived, ?_⟩
  rw [show passed = _ from forwarded]
  exact ⟨movedSize.trans size, movedRest.trans rest, rfl⟩

end Gate

/-! ## Packets of a batch -/

namespace Forwarder

theorem countOffer_batch (passage : Passage) (offer : Offer) :
    (passage.countOffer offer).batch = passage.batch ∧
      (passage.countOffer offer).forwarder = passage.forwarder := by
  cases offer <;> exact ⟨rfl, rfl⟩

theorem passPacket_batch (forwarder : Forwarder) (gate : Gate) (now : Nat) (packet : Packet) :
    (forwarder.passPacket gate now packet).batch =
      [gate.forward forwarder.nodeId now packet] := by
  rw [passPacket]
  dsimp only
  split
  · rfl
  · rw [(countOffer_batch _ _).1]
    rfl

/-- A packet that passes a gate touches the ring and the next number, and nothing else of a
forwarder. -/
theorem forwarder_passPacket (forwarder : Forwarder) (gate : Gate) (now : Nat) (packet : Packet) :
    ∃ ring nextSequence, (forwarder.passPacket gate now packet).forwarder =
      { forwarder with ring, nextSequence } := by
  rw [passPacket]
  dsimp only
  split
  · exact ⟨_, _, rfl⟩
  · rw [(countOffer_batch _ _).2, offerPostcard]
    dsimp only
    split
    · exact ⟨_, _, rfl⟩
    · split <;> exact ⟨_, _, rfl⟩

theorem forwarder_passBatch (forwarder : Forwarder) (gate : Gate) (now : Nat) (batch : Batch) :
    ∃ ring nextSequence, (forwarder.passBatch gate now batch).forwarder =
      { forwarder with ring, nextSequence } := by
  induction batch generalizing forwarder with
  | nil => exact ⟨_, _, rfl⟩
  | cons packet rest ih =>
      rcases forwarder.forwarder_passPacket gate now packet with ⟨ring, nextSequence, first⟩
      rw [passBatch]
      dsimp only
      rw [first]
      exact ih _

/-- Every packet of a batch passes the gate on its own, in order. -/
theorem passBatch_batch (forwarder : Forwarder) (gate : Gate) (now : Nat) (batch : Batch) :
    (forwarder.passBatch gate now batch).batch =
      batch.map (gate.forward forwarder.nodeId now) := by
  induction batch generalizing forwarder with
  | nil => rfl
  | cons packet rest ih =>
      rcases forwarder.forwarder_passPacket gate now packet with ⟨ring, nextSequence, passed⟩
      rw [passBatch]
      dsimp only
      rw [ih, passPacket_batch, passed]
      rfl

/-- A batch on a registered gate comes out packet by packet. -/
theorem process_batch {forwarder : Forwarder} {id : GateId} {gate : Gate}
    (registered : forwarder.gates.find? id = some gate) (batch : Batch) (now : Nat) :
    (forwarder.process id batch now).1.batch =
      batch.map (gate.forward forwarder.nodeId now) := by
  rw [process, registered]
  exact passBatch_batch forwarder gate now batch

end Forwarder

end InbandTelemetry
