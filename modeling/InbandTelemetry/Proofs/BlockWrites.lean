import InbandTelemetry.Proofs.WireLayouts

namespace InbandTelemetry

/-!
# Writing into a block at the beginning of a buffer

A block is opened at the beginning of a buffer, and then records and counts are written into
it one after the other.  Each write goes over a few bytes of the buffer, either over the four
bytes of one record or over the byte of the count, and it is seen by no reader but the one
for the same place.  So after every run of writes each record is the last one that was
written at its index, the count is the last one that was set, and the other bytes of the
buffer are what they were.
-/

namespace Telemetry

namespace Block

/-! ## Blocks in a buffer -/

/-- A block is opened at the beginning of a buffer, where it is found or begun. -/
inductive OpenedIn (buffer : Bytes) : Block → Prop where
  | found {block : Block} : parse buffer = .ok block → OpenedIn buffer block
  | begun {header : Header} {block : Block} : begin buffer header = .ok block →
      OpenedIn buffer block

/-- The buffer that has a block at its beginning now. -/
def within (block : Block) (buffer : Bytes) : Bytes := block.bytes ++ buffer.drop length

variable {block : Block} {buffer : Bytes}

theorem OpenedIn.reachable (opened : block.OpenedIn buffer) : block.Reachable := by
  cases opened with
  | found parsed => exact .found parsed
  | begun started => exact .begun started

theorem drop_within (block : Block) (buffer : Bytes) :
    (block.within buffer).drop length = buffer.drop length := List.drop_left' block.length_eq

theorem take_within (block : Block) (buffer : Bytes) :
    (block.within buffer).take length = block.bytes := List.take_left' block.length_eq

/-- A block that is found in a buffer is the beginning of this buffer. -/
theorem within_of_parse (parsed : parse buffer = .ok block) : block.within buffer = buffer := by
  rw [within, ← (parse_eq_ok_iff.mp parsed).1]
  exact List.take_append_drop length buffer

/-- Whoever looks into the buffer finds the block that is in it. -/
theorem Reachable.parse_within (reachable : block.Reachable) (buffer : Bytes) :
    parse (block.within buffer) = .ok block :=
  parse_eq_ok_iff.mpr ⟨block.take_within buffer, reachable.marked⟩

/-! ## One write -/

/-- A write into a block. -/
inductive Write where
  | record (index : Nat) (record : HopRecord)
  | count (count : UInt8)

namespace Write

/-- The record that a write is for, if it is for an index. -/
def recordAt? (index : Nat) : Write → Option HopRecord
  | .record place content => if place = index then some content else none
  | .count _ => none

/-- The count that a write sets. -/
def count? : Write → Option UInt8
  | .record _ _ => none
  | .count number => some number

end Write

/-- The answer to a write. -/
def write (block : Block) : Write → Except WireError Block
  | .record index record => block.setRecord index record
  | .count count => .ok (block.setCount count)

/-- The block behind a write, which leaves it as it is if it is refused. -/
def afterWrite (block : Block) (write : Write) : Block :=
  match block.write write with
  | .ok later => later
  | .error _ => block

theorem setRecord_of_room (block : Block) {index : Nat} (room : index < maxRecords)
    (record : HopRecord) :
    block.setRecord index record = .ok (block.putRecord index record room) := dif_pos room

theorem setRecord_of_full (block : Block) {index : Nat} (full : ¬ index < maxRecords)
    (record : HopRecord) :
    block.setRecord index record =
      .error (.outOfBounds (recordOffset index) HopRecord.length length) := dif_neg full

theorem afterWrite_of_room (block : Block) {index : Nat} (room : index < maxRecords)
    (record : HopRecord) :
    block.afterWrite (.record index record) = block.putRecord index record room := by
  rw [afterWrite, write, block.setRecord_of_room room]

theorem afterWrite_of_full (block : Block) {index : Nat} (full : ¬ index < maxRecords)
    (record : HopRecord) : block.afterWrite (.record index record) = block := by
  rw [afterWrite, write, block.setRecord_of_full full]

theorem afterWrite_count (block : Block) (count : UInt8) :
    block.afterWrite (.count count) = block.setCount count := rfl

theorem Reachable.afterWrite (reachable : block.Reachable) (write : Write) :
    (block.afterWrite write).Reachable := by
  cases write with
  | record index record =>
      by_cases room : index < maxRecords
      · rw [block.afterWrite_of_room room]
        exact .recorded reachable (block.setRecord_of_room room record)
      · rw [block.afterWrite_of_full room]
        exact reachable
  | count count => exact .counted count reachable

/-- In the buffer, a write changes bytes of the count and of the records only. -/
theorem agreeOutside_afterWrite (block : Block) (write : Write) (buffer : Bytes) :
    Bytes.AgreeOutside 5 29 (block.within buffer) ((block.afterWrite write).within buffer) := by
  have whole : 36 ≤ (block.within buffer).length := by
    rw [within, List.length_append, block.length_eq]
    exact Nat.le_add_right _ _
  cases write with
  | record index record =>
      by_cases room : index < maxRecords
      · have small : index < 7 := room
        have fits : 6 + index * 4 + record.encode.length ≤ 34 := by
          rw [HopRecord.length_encode, HopRecord.length]
          omega
        have placed : (block.putRecord index record room).within buffer =
            Bytes.overwrite (block.within buffer) (6 + index * 4) record.encode :=
          Bytes.overwrite_append (block.length_eq ▸ Nat.le_trans fits (by decide)) _
        rw [block.afterWrite_of_room room, placed]
        exact .of_overwrite (by omega) fits (by omega)
      · rw [block.afterWrite_of_full room]
        exact .refl _
  | count count =>
      have placed : (block.setCount count).within buffer =
          Bytes.overwrite (block.within buffer) 5 [count] :=
        Bytes.overwrite_append (block.length_eq ▸ Nat.le_add_right 6 30) _
      rw [afterWrite_count, placed]
      exact .of_overwrite (Nat.le_refl 5) (Nat.le_add_right 6 28)
        (Nat.le_trans (Nat.le_add_right 6 30) whole)

/-- A record that a write is for is seen at its index, and nowhere else. -/
theorem record?_afterWrite (block : Block) (write : Write) {index : Nat}
    (room : index < maxRecords) :
    (block.afterWrite write).record? index =
      ((write.recordAt? index).map HopRecord.stored).or (block.record? index) := by
  cases write with
  | record place record =>
      rw [Write.recordAt?]
      by_cases same : place = index
      · subst same
        rw [block.afterWrite_of_room room, block.record?_putRecord_self, if_pos rfl]
        rfl
      · rw [if_neg same]
        by_cases placeRoom : place < maxRecords
        · rw [block.afterWrite_of_room placeRoom]
          exact block.record?_putRecord_of_ne placeRoom (Ne.symm same)
        · rw [block.afterWrite_of_full placeRoom]
          rfl
  | count count => exact block.record?_setCount count index

/-- A count is changed by the writes that set it, and by no record. -/
theorem count_afterWrite (block : Block) (write : Write) :
    (block.afterWrite write).count = (write.count?.map UInt8.toNat).getD block.count := by
  cases write with
  | record index record =>
      by_cases room : index < maxRecords
      · rw [block.afterWrite_of_room room]
        exact block.count_putRecord room
      · rw [block.afterWrite_of_full room]
        rfl
  | count count => exact block.count_setCount count

/-! ## Runs of writes -/

/-- The block behind a run of writes. -/
def afterWrites (block : Block) (writes : List Write) : Block := writes.foldl afterWrite block

/-- The last record that a run of writes is for at an index. -/
def lastRecord? (index : Nat) (writes : List Write) : Option HopRecord :=
  writes.reverse.findSome? (Write.recordAt? index)

/-- The last count that a run of writes sets. -/
def lastCount? (writes : List Write) : Option UInt8 := writes.reverse.findSome? Write.count?

theorem lastRecord?_cons (index : Nat) (write : Write) (writes : List Write) :
    lastRecord? index (write :: writes) =
      (lastRecord? index writes).or (write.recordAt? index) := by
  rw [lastRecord?, lastRecord?, List.reverse_cons, List.findSome?_append,
    List.findSome?_singleton]

theorem lastCount?_cons (write : Write) (writes : List Write) :
    lastCount? (write :: writes) = (lastCount? writes).or write.count? := by
  rw [lastCount?, lastCount?, List.reverse_cons, List.findSome?_append, List.findSome?_singleton]

theorem Reachable.afterWrites (reachable : block.Reachable) (writes : List Write) :
    (block.afterWrites writes).Reachable := by
  induction writes generalizing block with
  | nil => exact reachable
  | cons write writes ih => exact ih (reachable.afterWrite write)

theorem agreeOutside_afterWrites (block : Block) (writes : List Write) (buffer : Bytes) :
    Bytes.AgreeOutside 5 29 (block.within buffer) ((block.afterWrites writes).within buffer) := by
  induction writes generalizing block with
  | nil => exact .refl _
  | cons write writes ih => exact (block.agreeOutside_afterWrite write buffer).trans (ih _)

theorem record?_afterWrites (block : Block) (writes : List Write) {index : Nat}
    (room : index < maxRecords) :
    (block.afterWrites writes).record? index =
      ((lastRecord? index writes).map HopRecord.stored).or (block.record? index) := by
  induction writes generalizing block with
  | nil => rfl
  | cons write writes ih =>
      rw [lastRecord?_cons, Option.map_or, Option.or_assoc, ← block.record?_afterWrite write room]
      exact ih _

theorem count_afterWrites (block : Block) (writes : List Write) :
    (block.afterWrites writes).count = ((lastCount? writes).map UInt8.toNat).getD block.count := by
  induction writes generalizing block with
  | nil => rfl
  | cons write writes ih =>
      rw [lastCount?_cons, Option.map_or, Option.getD_or, ← block.count_afterWrite write]
      exact ih _

/-- What a run of writes has made of a block at the beginning of a buffer.  The records at all
indexes and the count are independent of each other, and nothing else has changed. -/
structure Written (buffer : Bytes) (block : Block) (writes : List Write) (later : Block) :
    Prop where
  /-- The magic, the flags, the last two bytes of the block and all bytes behind it stay. -/
  outside : ∀ offset, offset < 5 ∨ 34 ≤ offset →
    (later.within buffer)[offset]? = (block.within buffer)[offset]?
  rest : (later.within buffer).drop 36 = buffer.drop 36
  parsed : parse (later.within buffer) = .ok later
  records : ∀ index, later.record? index =
    if index < 7 then
      ((lastRecord? index writes).map HopRecord.stored).or (block.record? index)
    else none
  counted : later.count = ((lastCount? writes).map UInt8.toNat).getD block.count
  accepted_iff : ∀ index record,
    (∃ next, later.setRecord index record = .ok next) ↔ index < 7
  refused_iff : ∀ index record,
    later.setRecord index record = .error (.outOfBounds (recordOffset index) 4 36) ↔ 7 ≤ index
  unchanged : ∀ index record, 7 ≤ index → later.afterWrite (.record index record) = later
  unread_iff : ∀ index, later.record? index = none ↔ 7 ≤ index

theorem OpenedIn.written (opened : block.OpenedIn buffer) (writes : List Write) :
    Written buffer block writes (block.afterWrites writes) where
  outside := fun offset apart =>
    ((block.agreeOutside_afterWrites writes buffer).agrees offset apart).symm
  rest := drop_within _ buffer
  parsed := (opened.reachable.afterWrites writes).parse_within buffer
  records := by
    intro index
    by_cases room : index < 7
    · rw [if_pos room]
      exact block.record?_afterWrites writes room
    · rw [if_neg room]
      exact record?_eq_none _ room
  counted := block.count_afterWrites writes
  accepted_iff := by
    intro index record
    by_cases room : index < 7
    · simp only [setRecord_of_room _ room, room, Except.ok.injEq, exists_eq']
    · simp only [setRecord_of_full _ room, room, reduceCtorEq, exists_false]
  refused_iff := by
    intro index record
    by_cases room : index < 7
    · simp only [setRecord_of_room _ room, reduceCtorEq, Nat.not_le.mpr room]
    · exact iff_of_true (setRecord_of_full _ room record) (Nat.le_of_not_lt room)
  unchanged := fun _ record full => afterWrite_of_full _ (Nat.not_lt.mpr full) record
  unread_iff := by
    intro index
    by_cases room : index < 7
    · simp only [record?_eq _ room, reduceCtorEq, Nat.not_le.mpr room]
    · exact iff_of_true (record?_eq_none _ room) (Nat.le_of_not_lt room)

/-- A block can be begun in every buffer that is long enough, and one is found there just if
the buffer begins with the magic; the buffer is then left as it is.  Whatever is written into
the block afterwards, each record is the last one written at its index, reduced to its width,
or what it was when the block was opened; the count is the last one set; the indexes from seven
on are refused and unread; and no other byte of the buffer changes. -/
theorem accessors_independent {buffer : Bytes} (long : 36 ≤ buffer.length) :
    (∀ header, begin buffer header = .ok (fresh header)) ∧
    ((∃ block, parse buffer = .ok block) ↔ buffer.take 4 = Bytes.ofWord32 magic) ∧
    (∀ block, parse buffer = .ok block → block.within buffer = buffer) ∧
    ∀ block : Block, block.OpenedIn buffer → ∀ writes,
      Written buffer block writes (block.afterWrites writes) := by
  have marked : (buffer.take 36).take 4 = buffer.take 4 := by
    rw [List.take_take, Nat.min_eq_left (by decide)]
  refine ⟨fun header => if_pos long, ⟨?_, ?_⟩, fun block => within_of_parse,
    fun block => OpenedIn.written⟩
  · rintro ⟨block, parsed⟩
    rcases parse_eq_ok_iff.mp parsed with ⟨content, magical⟩
    rw [← marked, content, magical]
  · intro magical
    exact ⟨⟨buffer.take 36, List.length_take_of_le long⟩,
      parse_eq_ok_iff.mpr ⟨rfl, marked.trans magical⟩⟩

/-- Two records at one index, with a count and two refused records around them. -/
def mixedWrites : List Write :=
  [.record 6 ⟨2, 1, 0, 99⟩, .record 7 ⟨9, 9, 9, 9⟩, .count 7, .record 6 ⟨5, 31, 18, 8⟩,
    .record 18446744073709551615 ⟨9, 9, 9, 9⟩]

theorem accessors_independent_mixedWrites :
    36 ≤ (List.replicate 40 (255 : UInt8)).length ∧
    ∃ block, begin (List.replicate 40 255) ⟨3, 4, true, 9⟩ = .ok block ∧
      (block.afterWrites mixedWrites).record? 6 = some ⟨5, 15, 2, 8⟩ ∧
      (block.afterWrites mixedWrites).record? 0 = some ⟨0, 0, 0, 0⟩ ∧
      (block.afterWrites mixedWrites).record? 18446744073709551615 = none ∧
      (block.afterWrites mixedWrites).count = 7 ∧
      ((block.afterWrites mixedWrites).within (List.replicate 40 255)).drop 36 =
        [255, 255, 255, 255] := by
  have long : 36 ≤ (List.replicate 40 (255 : UInt8)).length := by decide
  rcases accessors_independent long with ⟨started, -, -, independent⟩
  have written := independent _ (.begun (started ⟨3, 4, true, 9⟩)) mixedWrites
  refine ⟨long, _, started _, ?_, ?_, ?_, ?_, ?_⟩
  · exact (written.records 6).trans (by decide)
  · exact (written.records 0).trans (by decide)
  · exact (written.unread_iff _).mpr (by decide)
  · exact written.counted.trans (by decide)
  · exact written.rest.trans (by decide)

end Block

end Telemetry

end InbandTelemetry
