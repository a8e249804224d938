import InbandTelemetry.Proofs.ByteStrings
import InbandTelemetry.Telemetry.Block

namespace InbandTelemetry

/-!
# The parts of a telemetry block

A block has three parts that are read and written independently: the packed
header fields, the record count, and seven records.  Each write is described by
what every reader sees afterwards, so that later arguments about blocks never
look at single bytes again.
-/

namespace Telemetry

/-! ## Finding a block in a packet -/

/-- A header that is long enough decodes if it begins with the magic. -/
theorem Header.decode_isOk_iff {source : Bytes} (long : Block.length ≤ source.length) :
    (∃ header, Header.decode source = .ok header) ↔ source.take 4 = Bytes.ofWord32 magic := by
  match source, long with
  | first :: second :: third :: fourth :: flags :: count :: rest, _ =>
      change _ ↔ [first, second, third, fourth] = _
      rw [← Bytes.word32_eq_iff, Header.decode]
      constructor
      · rintro ⟨header, decoded⟩
        split at decoded
        · assumption
        · contradiction
      · intro marked
        exact ⟨_, if_pos marked⟩

namespace Block

/-- A string begins with a block if it is long enough and marked with the magic. -/
theorem parse_eq_ok_iff {source : Bytes} {block : Block} :
    parse source = .ok block ↔
      source.take 36 = block.bytes ∧ block.bytes.take 4 = Bytes.ofWord32 magic := by
  by_cases long : length ≤ source.length
  · have marked : (source.take 36).take 4 = source.take 4 := by
      rw [List.take_take]
      rfl
    rw [parse, dif_pos long]
    constructor
    · intro parsed
      split at parsed
      · rename_i header decoded
        cases parsed
        exact ⟨rfl, marked.trans ((Header.decode_isOk_iff long).mp ⟨header, decoded⟩)⟩
      · contradiction
    · rintro ⟨content, magical⟩
      rw [← content, marked] at magical
      rcases (Header.decode_isOk_iff long).mpr magical with ⟨header, decoded⟩
      rw [decoded]
      rcases block with ⟨bytes, sized⟩
      cases content
      rfl
  · rw [parse, dif_neg long]
    constructor
    · intro impossible
      contradiction
    · rintro ⟨content, -⟩
      have size := congrArg List.length content
      rw [block.length_eq, List.length_take] at size
      have sufficient : 36 ≤ source.length := by omega
      exact absurd sufficient long

theorem isPresent_of_parse {source : Bytes} {block : Block} (parsed : parse source = .ok block) :
    isPresent source = true := by
  rcases parse_eq_ok_iff.mp parsed with ⟨content, magical⟩
  have size := congrArg List.length content
  rw [block.length_eq, List.length_take] at size
  have marked : source.take 4 = Bytes.ofWord32 magic := by
    rw [← magical, ← content, List.take_take]
    rfl
  rw [isPresent, marked, beq_self_eq_true, Bool.and_true]
  have sufficient : 36 ≤ source.length := by omega
  exact decide_eq_true sufficient

/-- The block that a packet carries at an offset. -/
def at? (data : Bytes) (position : Nat) : Option Block := (parse (data.drop position)).toOption

/-- A packet carries a block where it has the bytes of the block. -/
theorem at?_eq_some_iff {data : Bytes} {position : Nat} {block : Block} :
    at? data position = some block ↔
      Bytes.window data position 36 = block.bytes ∧
        block.bytes.take 4 = Bytes.ofWord32 magic := by
  rw [Bytes.window, ← parse_eq_ok_iff, at?]
  cases parse (data.drop position) with
  | ok found => simp only [Except.toOption, Option.some.injEq, Except.ok.injEq]
  | error fault => simp only [Except.toOption, reduceCtorEq]

theorem isPresent_of_at? {data : Bytes} {position : Nat} {block : Block}
    (carried : at? data position = some block) : isPresent (data.drop position) = true :=
  isPresent_of_parse (parse_eq_ok_iff.mpr (at?_eq_some_iff.mp carried))

theorem inside_of_at? {data : Bytes} {position : Nat} {block : Block}
    (carried : at? data position = some block) : position + 36 ≤ data.length := by
  have content := (at?_eq_some_iff.mp carried).1
  have whole : (Bytes.window data position 36).length = 36 := by
    rw [content, block.length_eq]
  exact Bytes.le_length_of_window whole (by omega)

/-! ## Reading after writing -/

variable (block : Block)

theorem magic_setCount (count : UInt8) :
    (block.setCount count).bytes.take 4 = block.bytes.take 4 := by
  apply Bytes.take_overwrite (by decide)
  rw [block.length_eq]
  decide

theorem magic_putRecord {index : Nat} {record : HopRecord} (room : index < maxRecords) :
    (block.putRecord index record room).bytes.take 4 = block.bytes.take 4 := by
  have early : Header.length + index * HopRecord.length ≤ 36 := by
    simp only [maxRecords] at room
    simp only [Header.length, HopRecord.length]
    omega
  apply Bytes.take_overwrite (Nat.le_add_right_of_le (by decide))
  rw [block.length_eq]
  exact early

/-- The record with an index that the block has room for. -/
theorem record?_eq {index : Nat} (room : index < maxRecords) :
    block.record? index =
      some (HopRecord.ofBytes (Bytes.byteAt block.bytes (6 + index * 4))
        (Bytes.byteAt block.bytes (6 + index * 4 + 1))
        (Bytes.byteAt block.bytes (6 + index * 4 + 2))
        (Bytes.byteAt block.bytes (6 + index * 4 + 3))) := if_pos room

theorem record?_eq_none {index : Nat} (outside : ¬ index < maxRecords) :
    block.record? index = none := if_neg outside

/-- The ingress tag of a record in a block has four bits. -/
theorem ingress_le_of_record? {block : Block} {index : Nat} {record : HopRecord}
    (found : block.record? index = some record) : record.ingress ≤ 15 := by
  rw [record?] at found
  split at found
  · cases found
    exact Bytes.highNibble_le _
  · contradiction

/-- The record of a block that is completed where its packet leaves a node: the last one, if
the packet comes with the note that this one is open and if it names the node. -/
def pending? (block : Block) (nodeId : UInt8) (openRecord : Option Nat) : Option HopRecord :=
  openRecord.bind fun index =>
    if block.count = index + 1 then
      (block.record? index).filter fun record => record.nodeId = nodeId
    else
      none

theorem pending?_eq_some_iff {block : Block} {nodeId : UInt8} {openRecord : Option Nat}
    {record : HopRecord} :
    block.pending? nodeId openRecord = some record ↔
      ∃ index, openRecord = some index ∧ block.count = index + 1 ∧
        block.record? index = some record ∧ record.nodeId = nodeId := by
  simp only [pending?, Option.bind_eq_some_iff, Option.ite_none_right_eq_some,
    Option.filter_eq_some_iff, decide_eq_true_eq]

theorem ingress_pending_le {block : Block} {nodeId : UInt8} {openRecord : Option Nat} :
    (block.pending? nodeId openRecord).elim 0 HopRecord.ingress ≤ 15 := by
  cases pending : block.pending? nodeId openRecord with
  | none => exact Nat.zero_le 15
  | some record =>
      rcases pending?_eq_some_iff.mp pending with ⟨index, -, -, found, -⟩
      exact ingress_le_of_record? found

theorem byteAt_setCount (count : UInt8) (offset : Nat) :
    Bytes.byteAt (block.setCount count).bytes offset =
      if offset = 5 then count else Bytes.byteAt block.bytes offset := by
  have inside : 5 + [count].length ≤ block.bytes.length := by
    rw [block.length_eq, List.length_singleton]
    decide
  rw [setCount, Bytes.byteAt_overwrite inside]
  by_cases same : offset = 5
  · subst same
    rfl
  · rw [if_neg same, if_neg (by rw [List.length_singleton]; omega)]

theorem byteAt_putRecord {index : Nat} {record : HopRecord} (room : index < maxRecords)
    (offset : Nat) :
    Bytes.byteAt (block.putRecord index record room).bytes offset =
      if 6 + index * 4 ≤ offset ∧ offset < 6 + index * 4 + 4 then
        Bytes.byteAt record.encode (offset - (6 + index * 4))
      else Bytes.byteAt block.bytes offset := by
  have inside : 6 + index * 4 + record.encode.length ≤ block.bytes.length := by
    simp only [maxRecords] at room
    rw [block.length_eq, HopRecord.length_encode, HopRecord.length]
    omega
  exact Bytes.byteAt_overwrite inside offset

@[simp] theorem count_setCount (count : UInt8) : (block.setCount count).count = count.toNat := by
  rw [Block.count, byteAt_setCount, if_pos rfl]

@[simp] theorem count_putRecord {index : Nat} {record : HopRecord} (room : index < maxRecords) :
    (block.putRecord index record room).count = block.count := by
  rw [count, byteAt_putRecord, if_neg (by omega), count]

@[simp] theorem header_setCount (count : UInt8) :
    (block.setCount count).header = { block.header with count } := by
  rw [header, byteAt_setCount, byteAt_setCount, if_neg (by decide), if_pos rfl]
  rfl

@[simp] theorem header_putRecord {index : Nat} {record : HopRecord} (room : index < maxRecords) :
    (block.putRecord index record room).header = block.header := by
  rw [header, byteAt_putRecord, byteAt_putRecord, if_neg (by omega), if_neg (by omega), header]

@[simp] theorem record?_setCount (count : UInt8) (index : Nat) :
    (block.setCount count).record? index = block.record? index := by
  by_cases room : index < maxRecords
  · simp only [record?_eq _ room, byteAt_setCount]
    rw [if_neg (by omega), if_neg (by omega), if_neg (by omega), if_neg (by omega)]
  · rw [record?_eq_none _ room, record?_eq_none _ room]

theorem record?_putRecord_of_ne {index other : Nat} {record : HopRecord}
    (room : index < maxRecords) (different : other ≠ index) :
    (block.putRecord index record room).record? other = block.record? other := by
  by_cases otherRoom : other < maxRecords
  · simp only [record?_eq _ otherRoom, byteAt_putRecord]
    rw [if_neg (by omega), if_neg (by omega), if_neg (by omega), if_neg (by omega)]
  · rw [record?_eq_none _ otherRoom, record?_eq_none _ otherRoom]

end Block

/-- A record as it can be stored, with tags of four bits. -/
def HopRecord.stored (record : HopRecord) : HopRecord :=
  { record with ingress := record.ingress % 16, egress := record.egress % 16 }

theorem HopRecord.ofBytes_encode (record : HopRecord) :
    HopRecord.ofBytes (Bytes.byteAt record.encode 0) (Bytes.byteAt record.encode 1)
      (Bytes.byteAt record.encode 2) (Bytes.byteAt record.encode 3) = record.stored := by
  change HopRecord.ofBytes record.nodeId (Bytes.packNibbles record.ingress record.egress)
    (UInt8.ofNat (record.value.toNat / 256)) (UInt8.ofNat record.value.toNat) = _
  rw [HopRecord.ofBytes, Bytes.highNibble_packNibbles, Bytes.lowNibble_packNibbles,
    Bytes.word16_ofWord16, HopRecord.stored]

theorem Block.record?_putRecord_self (block : Block) {index : Nat} {record : HopRecord}
    (room : index < maxRecords) :
    (block.putRecord index record room).record? index = some record.stored := by
  rw [record?_eq _ room, ← HopRecord.ofBytes_encode]
  simp only [byteAt_putRecord]
  rw [if_pos (by omega), if_pos (by omega), if_pos (by omega), if_pos (by omega)]
  simp only [Nat.sub_self, Nat.add_sub_cancel_left]

end Telemetry

end InbandTelemetry
