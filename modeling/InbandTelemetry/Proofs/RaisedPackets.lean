import InbandTelemetry.Proofs.ExactTagging
import InbandTelemetry.Proofs.RaisedFields

namespace InbandTelemetry

/-!
# Packets with raised length fields

The length fields of a tagged packet are raised with the block already in place.  The
headers in front of the block say what they said in the packet that came in.  If they are
whole, the fields lie in them and come out right.  The fixed IPv4 header is not whole if
the frame states a shorter one, and then the fields may lie in the block or in the
addresses.  This is all that can go wrong.
-/

open Telemetry

namespace Frame

variable {frame other : Bytes} {growth offset index : Nat}

/-! ## Frames that agree before an offset -/

section Agreement

variable (agree : ∀ index < offset, frame[index]? = other[index]?)

include agree

theorem headerEnd_congr (behind : 14 < offset) : headerEnd frame = headerEnd other := by
  rw [headerEnd, headerEnd, headerLength_congr (agree _ behind)]

theorem protocol_congr (behind : 24 ≤ offset) :
    Ipv4.protocol (frame.drop ethernetLength) = Ipv4.protocol (other.drop ethernetLength) := by
  rw [protocol_eq, protocol_eq, Bytes.byteAt_congr (agree 23 behind)]

theorem RaisedAt.congr (behind : 24 ≤ offset) (raised : RaisedAt frame offset index) :
    RaisedAt other offset index := by
  rwa [RaisedAt, headerEnd_congr agree (by omega), protocol_congr agree behind] at raised

/-- Fields before the offset are renewed whichever of the frames they are compared with. -/
theorem Renewed.congr {after : Bytes} (whole : 34 ≤ headerEnd frame)
    (reached : headerEnd frame ≤ offset) (renewed : Renewed frame after offset growth) :
    Renewed other after offset growth := by
  have behind : 14 < offset := by omega
  have lengths := headerLength_congr (agree _ behind)
  have ends := headerEnd_congr agree behind
  have total : Bytes.word16At frame 16 = Bytes.word16At other 16 := by
    apply Bytes.word16At_congr <;> exact agree _ (by omega)
  refine ⟨?_, ?_, ?_⟩
  · rw [totalLength_eq other, ← total, ← totalLength_eq]
    exact renewed.total
  · rw [← lengths]
    exact renewed.verifies
  · intro protocol room
    rw [udpLength] at room
    have length : Bytes.word16At frame (headerEnd frame + 4) =
        Bytes.word16At other (headerEnd frame + 4) := by
      apply Bytes.word16At_congr <;> exact agree _ (by omega)
    rw [← protocol_congr agree (by omega)] at protocol
    rw [← ends] at room ⊢
    rw [← length]
    exact renewed.udp protocol room

end Agreement

/-! ## Frames that differ in length fields -/

/-- Whether a byte belongs to a length or a checksum of an IPv4 header or of a UDP header
that lies behind the fixed IPv4 header. -/
def LengthField (frame : Bytes) (index : Nat) : Prop :=
  16 ≤ index ∧ index < 18 ∨ 24 ≤ index ∧ index < 26 ∨
    Ipv4.protocol (frame.drop ethernetLength) = 17 ∧
      ethernetLength + ipv4Length ≤ headerEnd frame ∧
      headerEnd frame + 4 ≤ index ∧ index < headerEnd frame + 8

/-- A frame that differs from another one at most in its length fields. -/
structure SameButLengths (before after : Bytes) : Prop where
  length_eq : after.length = before.length
  agrees : ∀ index, ¬ LengthField before index → after[index]? = before[index]?

/-- Neither the addresses nor the protocol, the identification and the fragment fields are
length fields. -/
theorem SameButLengths.fields_eq {before after : Bytes} (same : SameButLengths before after) :
    Ipv4.source (after.drop ethernetLength) = Ipv4.source (before.drop ethernetLength) ∧
      Ipv4.destination (after.drop ethernetLength) =
        Ipv4.destination (before.drop ethernetLength) ∧
      Ipv4.protocol (after.drop ethernetLength) = Ipv4.protocol (before.drop ethernetLength) ∧
      Bytes.word16At after 18 = Bytes.word16At before 18 ∧
      Bytes.word16At after 20 = Bytes.word16At before 20 := by
  have fixed (index : Nat) (apart : 18 ≤ index ∧ index < 24 ∨ 26 ≤ index ∧ index < 34) :
      after[index]? = before[index]? := by
    apply same.agrees
    rintro (total | checksum | ⟨-, whole, udp⟩)
    · omega
    · omega
    · rw [ethernetLength, ipv4Length] at whole
      omega
  have address (first : Nat) (apart : 26 ≤ first ∧ first ≤ 30) :
      Bytes.word32At after first = Bytes.word32At before first := by
    apply Bytes.word32At_congr
    intro index inside
    exact fixed _ (by omega)
  refine ⟨?_, ?_, ?_, ?_, ?_⟩
  · rw [Ipv4.source, Ipv4.source, Bytes.word32At_drop, Bytes.word32At_drop]
    exact congrArg Address.mk (address 26 (by omega))
  · rw [Ipv4.destination, Ipv4.destination, Bytes.word32At_drop, Bytes.word32At_drop]
    exact congrArg Address.mk (address 30 (by omega))
  · rw [protocol_eq, protocol_eq, Bytes.byteAt_congr (fixed 23 (by omega))]
  · apply Bytes.word16At_congr <;> exact fixed _ (by omega)
  · apply Bytes.word16At_congr <;> exact fixed _ (by omega)

/-- Whether the fields that are raised for bytes inserted at an offset are length fields
before these bytes.  No field is raised for bytes in front of or inside the IPv4 header. -/
def Confined (frame : Bytes) (offset : Nat) : Prop :=
  offset ≤ ethernetLength ∨ offset < headerEnd frame ∨
    26 ≤ offset ∧
      (Ipv4.protocol (frame.drop ethernetLength) = 17 → headerEnd frame + udpLength ≤ offset →
        ethernetLength + ipv4Length ≤ headerEnd frame)

instance (frame : Bytes) (offset : Nat) : Decidable (Confined frame offset) :=
  inferInstanceAs (Decidable (_ ∨ _ ∨ _))

section Insertion

variable {data content : Bytes} {length : Nat} (inside : offset ≤ data.length)
  (filled : content.length = length) (long : 34 ≤ data.length + length)
  (early : offset ≤ ethernetLength → offset < headerEnd (Bytes.insertAt data offset content))

include inside early

theorem lt_headerEnd_insertAt (before : offset < headerEnd data) :
    offset < headerEnd (Bytes.insertAt data offset content) := by
  by_cases behind : ethernetLength < offset
  · rw [headerEnd, headerLength_insertAt inside behind]
    exact before
  · exact early (Nat.not_lt.mp behind)

theorem Confined.lengthField (confined : Confined data offset)
    (raised : RaisedAt (Bytes.insertAt data offset content) offset index) :
    LengthField data index ∧ index < offset := by
  rcases confined with first | beyond | ⟨late, whole⟩
  · exact absurd raised.1 (Nat.not_le.mpr (early first))
  · exact absurd raised.1 (Nat.not_le.mpr (lt_headerEnd_insertAt inside early beyond))
  · have agree (index : Nat) (before : index < offset) :
        (Bytes.insertAt data offset content)[index]? = data[index]? :=
      Bytes.getElem?_insertAt_of_lt inside before
    rcases raised.congr agree (by omega) with ⟨-, total | checksum | ⟨udp, room, fields⟩⟩
    · exact ⟨Or.inl total, by omega⟩
    · exact ⟨Or.inr (Or.inl checksum), by omega⟩
    · have before := whole udp room
      rw [udpLength] at room
      exact ⟨Or.inr (Or.inr ⟨udp, before, fields⟩), by omega⟩

include filled long

omit early in
/-- No bytes are touched but those of the fields, as they lie behind the insertion. -/
theorem growLengths_insertAt :
    let plain := Bytes.insertAt data offset content
    let grown := growLengths plain offset growth
    grown.length = data.length + length ∧
      ∀ index, ¬ RaisedAt plain offset index → grown[index]? = plain[index]? := by
  intro plain grown
  have size : plain.length = data.length + content.length := Bytes.length_insertAt _ _ _
  have within : offset ≤ plain.length := by omega
  constructor
  · rw [length_growLengths (by omega) within, size, filled]
  · exact fun index apart => getElem?_growLengths (by omega) within apart

/-- Where the raised fields are confined, the inserted bytes are found as they were, and
the frame without them differs from the one before at most in length fields. -/
theorem Confined.growLengths (confined : Confined data offset) :
    let grown := Frame.growLengths (Bytes.insertAt data offset content) offset growth
    Bytes.window grown offset length = content ∧
      SameButLengths data (Bytes.without grown offset length) := by
  intro grown
  have size : grown.length = data.length + length := (growLengths_insertAt inside filled long).1
  have kept (index : Nat) (apart : ¬ LengthField data index ∨ offset ≤ index) :
      grown[index]? = (Bytes.insertAt data offset content)[index]? := by
    apply (growLengths_insertAt inside filled long).2
    intro raised
    rcases confined.lengthField inside early raised with ⟨field, before⟩
    rcases apart with other | behind
    · exact other field
    · omega
  constructor
  · rw [← Bytes.window_insertAt inside filled]
    exact Bytes.window_congr fun index behind _ => kept index (Or.inr behind)
  · refine ⟨?_, ?_⟩
    · have rest := Bytes.length_without (show offset + length ≤ grown.length by omega)
      omega
    · intro index other
      -- the frame before is the one with the insertion, without what was inserted
      have plain := congrArg (·[index]?) (Bytes.without_insertAt inside filled)
      rw [Bytes.getElem?_without (by rw [Bytes.length_insertAt]; omega)] at plain
      rw [← plain, Bytes.getElem?_without (by omega)]
      split
      · exact kept index (Or.inl other)
      · exact kept _ (Or.inr (by omega))

/-- If the frame has a whole IPv4 header, the fields are renewed where they belong to headers
that end before the inserted bytes. -/
theorem growLengths_of_whole (whole : ipv4Length ≤ Ipv4.headerLength (data.drop ethernetLength)) :
    let plain := Bytes.insertAt data offset content
    let grown := growLengths plain offset growth
    (offset < headerEnd data → grown = plain) ∧
      (headerEnd data ≤ offset → grown.length = plain.length ∧
        (∀ index, ¬ RaisedAt data offset index → grown[index]? = plain[index]?) ∧
        Renewed data grown offset growth) := by
  intro plain grown
  have size : plain.length = data.length + content.length := Bytes.length_insertAt _ _ _
  have room : 34 ≤ plain.length := by omega
  have within : offset ≤ plain.length := by omega
  constructor
  · intro before
    exact growLengths_of_lt room (lt_headerEnd_insertAt inside early before)
  · intro reached
    have late : 34 ≤ headerEnd data := Nat.add_le_add_left whole 14
    have behind : 14 < offset := by omega
    have agree (index : Nat) (before : index < offset) : plain[index]? = data[index]? :=
      Bytes.getElem?_insertAt_of_lt inside before
    have ends := headerEnd_congr agree behind
    refine ⟨length_growLengths room within, ?_, ?_⟩
    · intro index apart
      apply getElem?_growLengths room within
      exact fun raised => apart (raised.congr agree (by omega))
    · rw [← headerLength_insertAt inside behind content] at whole
      rw [← ends] at late reached
      exact (renewed_growLengths room within whole reached).congr agree late reached

end Insertion

end Frame

namespace Classifier

/-! ## Tagged packets -/

/-- What becomes of a packet that is tagged with its length fields raised.  A block that is
inserted in front of the IPv4 header is taken for a header that reaches further. -/
theorem tag?_eq_some_of_raises {classifier later : Classifier} {packet tagged : Packet}
    (success : classifier.tag? packet = some (tagged, later))
    (raises : classifier.updateLengths = true) :
    ∃ flow spec header, classifier.flowOf? packet.data = some flow ∧
      classifier.specs[flow]? = some spec ∧ spec.headerAt? spec.cursor = some header ∧
      tagged.metadata = packet.metadata ∧ classifier.insertOffset ≤ packet.data.length ∧
      let content := Bytes.ofWord32 magic ++ [header.flags, 0] ++ List.replicate 30 0
      let plain := Bytes.insertAt packet.data classifier.insertOffset content
      content.length = 36 ∧ tagged.data = Frame.growLengths plain classifier.insertOffset 36 ∧
        (classifier.insertOffset ≤ Frame.ethernetLength →
          classifier.insertOffset < Frame.headerEnd plain) := by
  rcases tag?_eq_some success with ⟨flow, spec, header, first, listed, asked, inside, rfl, -⟩
  refine ⟨flow, spec, header, first, listed, asked, rfl, inside, ?_⟩
  rw [← bytes_fresh_of_headerAt? asked]
  refine ⟨(Block.fresh header).length_eq, ?_, lt_headerEnd_of_le header inside⟩
  rw [withBlock_eq, if_pos raises]
  rfl

/-- A classifier that raises length fields touches no other bytes of the packet with the
block in place, whatever the packet states about its headers.  Where these fields are
confined, the block is the one that the first covering flow asks for, and the packet
without it differs from the one that came in at most in its length fields. -/
theorem tagged_same_but_lengths {classifier later : Classifier} {packet tagged : Packet}
    (success : classifier.tag? packet = some (tagged, later))
    (raises : classifier.updateLengths = true) :
    let data := packet.data
    let offset := classifier.insertOffset
    ∃ flow spec header, classifier.flowOf? data = some flow ∧
      classifier.specs[flow]? = some spec ∧ spec.headerAt? spec.cursor = some header ∧
      let content := Bytes.ofWord32 magic ++ [header.flags, 0] ++ List.replicate 30 0
      let plain := Bytes.insertAt data offset content
      tagged.metadata = packet.metadata ∧ tagged.data.length = data.length + 36 ∧
        (∀ index, ¬ Frame.RaisedAt plain offset index → tagged.data[index]? = plain[index]?) ∧
        (Frame.Confined data offset →
          Bytes.window tagged.data offset 36 = content ∧
            let rest := Bytes.without tagged.data offset 36
            Frame.SameButLengths data rest ∧
              Ipv4.source (rest.drop 14) = Ipv4.source (data.drop 14) ∧
              Ipv4.destination (rest.drop 14) = Ipv4.destination (data.drop 14) ∧
              Ipv4.protocol (rest.drop 14) = Ipv4.protocol (data.drop 14) ∧
              Bytes.word16At rest 18 = Bytes.word16At data 18 ∧
              Bytes.word16At rest 20 = Bytes.word16At data 20) := by
  dsimp only
  rcases tag?_eq_some_of_raises success raises with
    ⟨flow, spec, header, first, listed, asked, metadata, inside, filled, bytes, early⟩
  rw [bytes]
  rcases Frame.growLengths_insertAt inside filled (by omega) with ⟨size, outside⟩
  refine ⟨flow, spec, header, first, listed, asked, metadata, size, outside, ?_⟩
  intro confined
  rcases confined.growLengths inside filled (by omega) early with ⟨whole, same⟩
  exact ⟨whole, same, same.fields_eq⟩

/-- A classifier that inserts blocks at an offset and raises the length fields. -/
def raisingAt (offset : Nat) : Classifier where
  insertOffset := offset
  updateLengths := true
  specs := [{ source := .all, destination := .all, metrics := [.latency] }]

/-- A frame whose IPv4 packet states a header of two words. -/
def stuntedFrame (protocol : UInt8) : Bytes :=
  [2, 0, 0, 0, 0, 2, 2, 0, 0, 0, 0, 1, 8, 0, 0x42, 0, 0, 0x20, 0xf9, 0x18, 0, 0, 0x40, protocol,
    0, 0, 10, 0, 0, 1, 192, 168, 0, 1, 3, 232, 7, 208, 0, 12, 0, 0, 0xa0, 0xa1, 0xa2, 0xa3]

theorem tagged_same_but_lengths_stuntedFrame :
    ∃ tagged later, (raisingAt 42).tag? ⟨stuntedFrame 1, {}⟩ = some (tagged, later) ∧
      (raisingAt 42).updateLengths = true ∧ Frame.headerEnd (stuntedFrame 1) = 22 ∧
      Frame.Confined (stuntedFrame 1) 42 ∧
      Bytes.window tagged.data 42 36 = Bytes.ofWord32 magic ++ [0, 0] ++ List.replicate 30 0 ∧
      Frame.SameButLengths (stuntedFrame 1) (Bytes.without tagged.data 42 36) := by
  have taggable : ((raisingAt 42).tag? ⟨stuntedFrame 1, {}⟩).isSome = true := by decide +kernel
  rcases Option.isSome_iff_exists.mp taggable with ⟨⟨tagged, later⟩, success⟩
  rcases tagged_same_but_lengths success rfl with
    ⟨flow, spec, header, -, listed, asked, -, -, -, confined⟩
  have only := List.mem_singleton.mp (List.mem_of_getElem? listed)
  subst only
  cases asked
  have held : Frame.Confined (stuntedFrame 1) 42 := by decide
  rcases confined held with ⟨content, same, -⟩
  exact ⟨tagged, later, success, rfl, by decide, held, content, same⟩

/-- Behind a short header, the fields of a UDP header may be addresses.  So a packet that is
tagged may come out with another source. -/
theorem exists_source_altered :
    ¬ ∀ (classifier later : Classifier) (packet tagged : Packet), Configured classifier →
      classifier.updateLengths = true → classifier.tag? packet = some (tagged, later) →
        Ipv4.source ((Bytes.without tagged.data classifier.insertOffset 36).drop 14) =
          Ipv4.source (packet.data.drop 14) := by
  intro kept
  have configured : Configured (raisingAt 42) := by
    have unused : Configured { raisingAt 42 with specs := [] } := .unused rfl
    have inRotation : ∀ spec ∈ (raisingAt 42).specs, spec.InRotation := by
      intro spec member _
      rw [List.mem_singleton.mp member]
      decide
    exact .addSpecs unused inRotation rfl
  have altered : ((raisingAt 42).tag? ⟨stuntedFrame 17, {}⟩).map (fun result =>
      Ipv4.source ((Bytes.without result.1.data 42 36).drop 14)) =
        some (.ofOctets 10 36 0 0) := by decide +kernel
  rcases Option.map_eq_some_iff.mp altered with ⟨⟨tagged, later⟩, success, source⟩
  have same := kept _ _ _ _ configured rfl success
  have before : Ipv4.source ((stuntedFrame 17).drop 14) = .ofOctets 10 0 0 1 := by decide
  have clash := source.symm.trans (same.trans before)
  exact absurd clash (by decide)

/-- A packet with a whole IPv4 header gets the block alone if it is inserted in front of
the end of that header.  Otherwise the fields in front of the block, and nothing else, are
renewed. -/
theorem tagged_lengths_renewed {classifier later : Classifier} {packet tagged : Packet}
    (success : classifier.tag? packet = some (tagged, later))
    (raises : classifier.updateLengths = true)
    (whole : 20 ≤ Ipv4.headerLength (packet.data.drop 14)) :
    let data := packet.data
    let offset := classifier.insertOffset
    ∃ flow spec header, classifier.flowOf? data = some flow ∧
      classifier.specs[flow]? = some spec ∧ spec.headerAt? spec.cursor = some header ∧
      let content := Bytes.ofWord32 magic ++ [header.flags, 0] ++ List.replicate 30 0
      let plain := Bytes.insertAt data offset content
      tagged.metadata = packet.metadata ∧
        (offset < Frame.headerEnd data → tagged.data = plain) ∧
        (Frame.headerEnd data ≤ offset →
          tagged.data.length = plain.length ∧
            (∀ index, ¬ Frame.RaisedAt data offset index → tagged.data[index]? = plain[index]?) ∧
            Frame.Renewed data tagged.data offset 36) := by
  dsimp only
  rcases tag?_eq_some_of_raises success raises with
    ⟨flow, spec, header, first, listed, asked, metadata, inside, filled, bytes, early⟩
  rw [bytes]
  exact ⟨flow, spec, header, first, listed, asked, metadata,
    Frame.growLengths_of_whole inside filled (by omega) early whole⟩

/-- A frame with one word of options, an IPv4 length near the largest one, and UDP. -/
def optionFrame : Bytes :=
  List.replicate 12 2 ++ [8, 0, 0x46, 0, 0xff, 0xf0, 0, 1, 0, 0, 0x40, 17, 0, 0, 10, 0, 0, 1,
    10, 0, 0, 2, 1, 1, 1, 0, 3, 232, 7, 208, 0, 12, 0xab, 0xcd, 0xa0, 0xa1, 0xa2, 0xa3]

theorem tagged_lengths_renewed_optionFrame :
    ∃ tagged later, (raisingAt 46).tag? ⟨optionFrame, {}⟩ = some (tagged, later) ∧
      (raisingAt 46).updateLengths = true ∧
      20 ≤ Ipv4.headerLength (optionFrame.drop 14) ∧ Frame.headerEnd optionFrame = 38 ∧
      (Ipv4.totalLength (tagged.data.drop 14)).toNat = 65535 ∧
      Checksum.onesSum (Bytes.window tagged.data 14 24) = 65535 ∧
      (Bytes.word16At tagged.data 42).toNat = 48 ∧ Bytes.word16At tagged.data 44 = 0 := by
  have taggable : ((raisingAt 46).tag? ⟨optionFrame, {}⟩).isSome = true := by decide +kernel
  rcases Option.isSome_iff_exists.mp taggable with ⟨⟨tagged, later⟩, success⟩
  have whole : 20 ≤ Ipv4.headerLength (optionFrame.drop 14) := by decide
  rcases tagged_lengths_renewed success rfl whole with ⟨_, _, _, -, -, -, -, -, renewed⟩
  have ends : Frame.headerEnd optionFrame = 38 := by decide
  rcases renewed (show Frame.headerEnd optionFrame ≤ 46 by decide) with ⟨-, -, raised⟩
  rcases raised.udp (by decide) (show Frame.headerEnd optionFrame + 8 ≤ 46 by decide) with
    ⟨length, cleared⟩
  exact ⟨tagged, later, success, rfl, whole, ends, raised.total, raised.verifies, length, cleared⟩

end Classifier

end InbandTelemetry
