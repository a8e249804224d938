import InbandTelemetry.Proofs.PostcardStreams
import InbandTelemetry.Proofs.StretchMoves

namespace InbandTelemetry

/-!
# Three wire layouts

Telemetry headers, hop records and postcard headers each have a layout of a fixed number
of bytes.  A layout is known by a few laws about its bytes alone: what is read behind
what was encoded, and what is encoded of what was read.  From these it follows for all
three of them that writing is local, that reading undoes writing up to the width of the
fields, and that writing undoes reading.  A block in a packet shows its header and its
records without going through the layouts; that it shows the same is proved here as well.
-/

open Telemetry

/-! ## Layouts -/

/-- A layout of a fixed number of bytes at the beginning of a string. -/
structure Layout (α : Type) where
  size : Nat
  /-- The bytes that every string of this layout begins with. -/
  mark : Bytes
  encode : α → Bytes
  /-- A value as it can be stored, with every field reduced to its width. -/
  stored : α → α
  write : α → Bytes → Except WireError Bytes
  decode : Bytes → Except WireError α
  length_encode : ∀ value, (encode value).length = size
  write_eq : ∀ value target, write value target =
    if target.length < size then .error (.truncated size target.length)
    else .ok (Bytes.overwrite target 0 (encode value))
  decode_encode : ∀ value rest, decode (encode value ++ rest) = .ok (stored value)
  encode_decode : ∀ source, size ≤ source.length → mark <+: source →
    ∃ value, decode source = .ok value ∧ encode value = source.take size
  decode_short : ∀ source, source.length < size →
    decode source = .error (.truncated size source.length)

/-- Writing and reading are faithful: values come back from their bytes and bytes from their
values, no byte behind the layout changes, and a string that is too short is refused as such
and stays as it is. -/
structure Layout.Faithful {α : Type} (size : Nat) (mark : Bytes) (stored : α → α)
    (write : α → Bytes → Except WireError Bytes) (decode : Bytes → Except WireError α) :
    Prop where
  written : ∀ value target, size ≤ target.length → ∃ changed,
    write value target = .ok changed ∧ decode changed = .ok (stored value) ∧
      changed.length = target.length ∧ changed.drop size = target.drop size
  reproduced : ∀ source, size ≤ source.length → mark <+: source → ∃ value,
    decode source = .ok value ∧ ∀ target, size ≤ target.length → ∃ changed,
      write value target = .ok changed ∧ changed.take size = source.take size
  refused : ∀ value target, target.length < size →
    write value target = .error (.truncated size target.length) ∧
      target.afterTrying (write value target) = target
  unreadable : ∀ source, source.length < size →
    decode source = .error (.truncated size source.length)

namespace Layout

variable {α : Type} (layout : Layout α)

/-- Where there is room, the bytes of the value come in front of what lies behind the layout. -/
theorem write_of_room (value : α) {target : Bytes} (room : layout.size ≤ target.length) :
    layout.write value target = .ok (layout.encode value ++ target.drop layout.size) := by
  rw [layout.write_eq, if_neg (Nat.not_lt.mpr room), Bytes.overwrite, List.take_zero,
    List.nil_append, Nat.zero_add, layout.length_encode]

theorem faithful :
    Faithful layout.size layout.mark layout.stored layout.write layout.decode := by
  refine ⟨?_, ?_, ?_, layout.decode_short⟩
  · intro value target room
    refine ⟨_, layout.write_of_room value room, layout.decode_encode value _, ?_, ?_⟩
    · rw [List.length_append, layout.length_encode, List.length_drop]
      omega
    · exact List.drop_left' (layout.length_encode value)
  · intro source long marked
    rcases layout.encode_decode source long marked with ⟨value, decoded, bytes⟩
    refine ⟨value, decoded, ?_⟩
    intro target room
    refine ⟨_, layout.write_of_room value room, ?_⟩
    rw [List.take_left' (layout.length_encode value), bytes]
  · intro value target short
    have failed : layout.write value target = .error (.truncated layout.size target.length) := by
      rw [layout.write_eq, if_pos short]
    rw [failed]
    exact ⟨rfl, rfl⟩

end Layout

/-! ## Telemetry headers -/

namespace Telemetry

namespace Header

/-- A header as it can be stored, with a version of four bits and a code of three. -/
def stored (header : Header) : Header :=
  { header with version := header.version % 16, metricCode := header.metricCode % 8 }

/-- The last bit of a byte as a flag. -/
theorem lastBit_eq_iff {byte : UInt8} {flag : Bool} :
    decide (byte % 2 = 1) = flag ↔ byte.toNat % 2 = flag.toNat := by
  have odd : byte % 2 = 1 ↔ byte.toNat % 2 = 1 := by
    rw [← UInt8.toNat_inj, UInt8.toNat_mod]
    rfl
  cases flag with
  | true => rw [decide_eq_true_iff, odd, Bool.toNat_true]
  | false =>
      rw [decide_eq_false_iff_not, odd, Bool.toNat_false]
      omega

theorem toNat_flags (header : Header) :
    header.flags.toNat =
      header.version.toNat % 16 * 16 + header.metricCode.toNat % 8 * 2 + header.postcard.toNat := by
  rcases header with ⟨version, metricCode, postcard, count⟩
  cases postcard <;>
    simp only [flags, Bool.toNat_false, Bool.toNat_true, Bool.false_eq_true, if_false, if_true,
      UInt8.toNat_add, UInt8.toNat_mul, UInt8.toNat_mod, UInt8.reduceToNat] <;>
    omega

/-- The packed byte gives back the version, the code and the flag that are in it. -/
theorem ofFlags_flags (header : Header) : ofFlags header.flags header.count = header.stored := by
  have packed := header.toNat_flags
  have flag := header.postcard.toNat_le
  have version : header.flags / 16 = header.version % 16 := by
    apply UInt8.toNat_inj.mp
    simp only [UInt8.toNat_div, UInt8.toNat_mod, UInt8.reduceToNat, packed]
    omega
  have metricCode : header.flags / 2 % 8 = header.metricCode % 8 := by
    apply UInt8.toNat_inj.mp
    simp only [UInt8.toNat_div, UInt8.toNat_mod, UInt8.reduceToNat, packed]
    omega
  have postcard : decide (header.flags % 2 = 1) = header.postcard := by
    rw [lastBit_eq_iff, packed]
    omega
  rw [ofFlags, version, metricCode, postcard, stored]

/-- What is read from a packed byte makes up this byte. -/
theorem flags_ofFlags (packed count : UInt8) : (ofFlags packed count).flags = packed := by
  have bound := packed.toNat_lt
  apply UInt8.toNat_inj.mp
  rw [toNat_flags, ofFlags, ← lastBit_eq_iff.mp rfl]
  simp only [UInt8.toNat_div, UInt8.toNat_mod, UInt8.reduceToNat]
  omega

/-- What a header that is long enough decodes to. -/
theorem decode_of_long {source : Bytes} (long : length ≤ source.length) :
    decode source =
      if source.take 4 = Bytes.ofWord32 magic then
        .ok (ofFlags (Bytes.byteAt source 4) (Bytes.byteAt source 5))
      else .error (.badMagic (Bytes.word32At source 0)) := by
  match source, long with
  | first :: second :: third :: fourth :: flags :: count :: rest, _ =>
      exact if_congr Bytes.word32_eq_iff rfl rfl

theorem decode_of_short {source : Bytes} (short : source.length < length) :
    decode source = .error (.truncated length source.length) := by
  rw [decode.eq_def]
  split
  · simp only [List.length_cons, length] at short
    omega
  · rfl

theorem decode_encode (header : Header) (rest : Bytes) :
    decode (header.encode ++ rest) = .ok header.stored := by
  rw [encode, Bytes.ofWord32]
  simp only [List.cons_append, List.nil_append, decode, Bytes.word32_ofWord32, if_true,
    ofFlags_flags]

/-- A string that begins with the magic is what is encoded of the header that is read. -/
theorem exists_decode {source : Bytes} (long : length ≤ source.length)
    (marked : Bytes.ofWord32 magic <+: source) :
    ∃ header, decode source = .ok header ∧ header.encode = source.take length := by
  have same : source.take 4 = Bytes.ofWord32 magic :=
    (List.prefix_iff_eq_take.mp marked).symm
  have parts : source.take 4 ++ [Bytes.byteAt source 4, Bytes.byteAt source 5] =
      source.take 6 := by
    match source, long with
    | _ :: _ :: _ :: _ :: _ :: _ :: _, _ => rfl
  refine ⟨_, (decode_of_long long).trans (if_pos same), ?_⟩
  rw [encode, flags_ofFlags, ← same]
  exact parts

def layout : Layout Header where
  size := 6
  mark := Bytes.ofWord32 magic
  encode := encode
  stored := stored
  write := write
  decode := decode
  length_encode := length_encode
  write_eq := fun _ _ => rfl
  decode_encode := decode_encode
  encode_decode := fun _ => exists_decode
  decode_short := fun _ => decode_of_short

end Header

/-! ## Hop records -/

namespace HopRecord

/-- What a record that is long enough decodes to. -/
theorem decode_of_long {source : Bytes} (long : length ≤ source.length) :
    decode source =
      .ok (ofBytes (Bytes.byteAt source 0) (Bytes.byteAt source 1) (Bytes.byteAt source 2)
        (Bytes.byteAt source 3)) := by
  match source, long with
  | _ :: _ :: _ :: _ :: _, _ => rfl

theorem decode_of_short {source : Bytes} (short : source.length < length) :
    decode source = .error (.truncated length source.length) := by
  rw [decode.eq_def]
  split
  · simp only [List.length_cons, length] at short
    omega
  · rfl

theorem decode_encode (record : HopRecord) (rest : Bytes) :
    decode (record.encode ++ rest) = .ok record.stored :=
  congrArg Except.ok record.ofBytes_encode

/-- Every string that is long enough is what is encoded of the record that is read. -/
theorem exists_decode {source : Bytes} (long : length ≤ source.length) :
    ∃ record, decode source = .ok record ∧ record.encode = source.take length := by
  match source, long with
  | node :: tags :: high :: low :: rest, _ =>
      refine ⟨ofBytes node tags high low, rfl, ?_⟩
      rw [encode, ofBytes, Bytes.packNibbles_nibbles, Bytes.ofWord16_word16]
      rfl

def layout : Layout HopRecord where
  size := 4
  mark := []
  encode := encode
  stored := stored
  write := write
  decode := decode
  length_encode := length_encode
  write_eq := fun _ _ => rfl
  decode_encode := decode_encode
  encode_decode := fun _ long _ => exists_decode long
  decode_short := fun _ => decode_of_short

end HopRecord

end Telemetry

/-! ## Postcard headers -/

namespace Postcard

theorem Header.decode_of_short {source : Bytes} (short : source.length < length) :
    decode source = .error (.truncated length source.length) := by
  rw [decode.eq_def]
  split
  · simp only [List.length_cons, length] at short
    omega
  · rfl

def Header.layout : Layout Header where
  size := 11
  mark := []
  encode := encode
  stored := stored
  write := write
  decode := decode
  length_encode := length_encode
  write_eq := fun _ _ => rfl
  decode_encode := decode_encode
  encode_decode := fun _ long _ =>
    (exists_decode long).imp fun _ decoded => ⟨decoded, (encode_of_decode decoded).2.1⟩
  decode_short := fun _ => decode_of_short

end Postcard

/-! ## Refused headers -/

namespace Telemetry

/-- A header is refused for its first word just where it is long enough and begins with
another word than the magic. -/
theorem Header.decode_eq_badMagic_iff {source : Bytes} {preamble : UInt32} :
    Header.decode source = .error (.badMagic preamble) ↔
      6 ≤ source.length ∧ ¬ Bytes.ofWord32 magic <+: source ∧
        preamble = Bytes.word32At source 0 := by
  have marked : Bytes.ofWord32 magic <+: source ↔ source.take 4 = Bytes.ofWord32 magic :=
    List.prefix_iff_eq_take.trans eq_comm
  by_cases long : 6 ≤ source.length
  · rw [decode_of_long long, marked]
    split
    · simp only [reduceCtorEq, *, not_true_eq_false, false_and, and_false]
    · simp only [Except.error.injEq, WireError.badMagic.injEq, *, not_false_eq_true, true_and,
        eq_comm]
  · have refused : decode source = .error (.truncated 6 source.length) :=
      layout.decode_short source (Nat.lt_of_not_le long)
    simp only [refused, Except.error.injEq, reduceCtorEq, long, false_and]

/-! ## Blocks -/

/-- A block that can be in a packet: found there or begun there, and changed by the operations
on blocks. -/
inductive Block.Reachable : Block → Prop where
  | found {source : Bytes} {block : Block} : Block.parse source = .ok block → Reachable block
  | begun {source : Bytes} {header : Header} {block : Block} :
      Block.begin source header = .ok block → Reachable block
  | counted {block : Block} (count : UInt8) : Reachable block → Reachable (block.setCount count)
  | recorded {block later : Block} {index : Nat} {record : HopRecord} : Reachable block →
      block.setRecord index record = .ok later → Reachable later

namespace Block

/-- Whatever is done to a block, it begins with the magic. -/
theorem Reachable.marked {block : Block} (reachable : block.Reachable) :
    block.bytes.take 4 = Bytes.ofWord32 magic := by
  induction reachable with
  | found parsed => exact (parse_eq_ok_iff.mp parsed).2
  | begun started =>
      rw [begin] at started
      split at started
      · cases started
        rfl
      · contradiction
  | counted count _ ih => exact (magic_setCount _ count).trans ih
  | recorded _ written ih =>
      rw [setRecord] at written
      split at written
      · cases written
        exact (magic_putRecord _ _).trans ih
      · contradiction

/-- A block shows the header that is read from its bytes. -/
theorem Reachable.decode_bytes {block : Block} (reachable : block.Reachable) :
    Header.decode block.bytes = .ok block.header := by
  have long : Header.length ≤ block.bytes.length := by
    rw [block.length_eq]
    decide
  rw [Header.decode_of_long long, if_pos reachable.marked, header]

/-- A block that is found in a string shows the header that is read from the string. -/
theorem decode_of_parse {source : Bytes} {block : Block} (parsed : parse source = .ok block) :
    Header.decode source = .ok block.header := by
  rcases parse_eq_ok_iff.mp parsed with ⟨content, marked⟩
  have size := congrArg List.length content
  rw [block.length_eq, List.length_take] at size
  have same (offset : Nat) (inside : offset < 36) :
      Bytes.byteAt source offset = Bytes.byteAt block.bytes offset := by
    rw [← content]
    exact Bytes.byteAt_congr (List.getElem?_take_of_lt inside).symm
  have front : source.take 4 = Bytes.ofWord32 magic := by
    rw [← marked, ← content, List.take_take]
    rfl
  have long : Header.length ≤ source.length := by
    rw [Header.length]
    omega
  rw [Header.decode_of_long long, if_pos front, same 4 (by decide), same 5 (by decide), header]

/-- A block shows the records that are read from its bytes, as far as it has room for them. -/
theorem record?_eq_some_iff (block : Block) {index : Nat} {record : HopRecord} :
    block.record? index = some record ↔
      index < 7 ∧ HopRecord.decode (block.bytes.drop (6 + index * 4)) = .ok record := by
  by_cases room : index < 7
  · have long : HopRecord.length ≤ (block.bytes.drop (6 + index * 4)).length := by
      rw [List.length_drop, block.length_eq, HopRecord.length]
      omega
    rw [block.record?_eq room, HopRecord.decode_of_long long]
    simp only [Bytes.byteAt_drop, Nat.add_zero, Option.some.injEq, Except.ok.injEq, room, true_and]
  · rw [block.record?_eq_none room]
    simp only [reduceCtorEq, room, false_and]

end Block

/-! ## The layouts together -/

/-- Telemetry headers, hop records and postcard headers are written and read faithfully, in six,
four and eleven bytes.  A telemetry header is refused for its first word just where it is long
enough and begins with another word than the magic.  Every block that can be in a packet shows
the header and the records that are read from its bytes. -/
theorem layouts_faithful :
    Layout.Faithful 6 (Bytes.ofWord32 magic) Header.stored Header.write Header.decode ∧
    Layout.Faithful 4 [] HopRecord.stored HopRecord.write HopRecord.decode ∧
    Layout.Faithful 11 [] Postcard.Header.stored Postcard.Header.write Postcard.Header.decode ∧
    (∀ source preamble, Header.decode source = .error (.badMagic preamble) ↔
      6 ≤ source.length ∧ ¬ Bytes.ofWord32 magic <+: source ∧
        preamble = Bytes.word32At source 0) ∧
    (∀ source block, Block.parse source = .ok block →
      Header.decode source = .ok block.header) ∧
    ∀ block : Block, (block.Reachable → Header.decode block.bytes = .ok block.header) ∧
      ∀ index record, block.record? index = some record ↔
        index < 7 ∧ HopRecord.decode (block.bytes.drop (6 + index * 4)) = .ok record := by
  refine ⟨Header.layout.faithful, HopRecord.layout.faithful, Postcard.Header.layout.faithful,
    ?_, ?_, ?_⟩
  · intro source preamble
    exact Header.decode_eq_badMagic_iff
  · intro source block parsed
    exact Block.decode_of_parse parsed
  · intro block
    exact ⟨Block.Reachable.decode_bytes, fun _ _ => block.record?_eq_some_iff⟩

/-- A header whose packed fields are wider than their places. -/
def wideHeader : Header := ⟨19, 12, true, 200⟩

/-- A block that holds the numbers from zero on behind the magic, and four bytes more. -/
def countingBytes : Bytes := Bytes.ofWord32 magic ++ (List.range 36).map UInt8.ofNat

theorem layouts_faithful_wideHeader :
    (∃ changed, Header.write wideHeader [1, 2, 3, 4, 5, 6, 7, 8] = .ok changed ∧
      Header.decode changed = .ok ⟨3, 4, true, 200⟩ ∧ changed.length = 8 ∧
      changed.drop 6 = [7, 8]) ∧
    Postcard.Header.decode [1, 2, 3] = .error (.truncated 11 3) ∧
    Header.decode countingBytes = .ok ⟨0, 0, false, 1⟩ ∧
    Header.decode (countingBytes.take 36) = .ok ⟨0, 0, false, 1⟩ := by
  rcases layouts_faithful with ⟨header, -, postcard, -, found, shown⟩
  have parsed : Block.parse countingBytes = .ok ⟨countingBytes.take 36, by decide⟩ := by decide
  refine ⟨?_, ?_, ?_, ?_⟩
  · exact header.written wideHeader [1, 2, 3, 4, 5, 6, 7, 8] (by decide)
  · exact postcard.unreadable [1, 2, 3] (by decide)
  · exact found countingBytes _ parsed
  · exact (shown _).1 (.found parsed)

end Telemetry

end InbandTelemetry
