import InbandTelemetry.Proofs.FrameReadings

namespace InbandTelemetry

/-!
# Where a payload is said to begin

A description says where the payload of its frame begins.  For UDP this is behind a header of
fixed length, which is tested to be in the frame.  For TCP it is behind a header whose length
the segment states in words of four bytes, and only the fixed part of this header is tested
to be there.  So a segment can state a header that ends inside its fixed part, and then header
bytes are taken for payload; or one that ends behind the frame, and then nothing can be taken.
Each bound on the offset holds just where the stated length meets it.
-/

namespace Frame

/-- The offset behind the fixed part of the transport header. -/
def fixedHeaderEnd (frame : Bytes) (transport : Transport) : Nat :=
  headerEnd frame + transport.headerLength

/-- The number of words of four bytes that a TCP segment states for its header. -/
def statedWords (frame : Bytes) : Nat :=
  (Bytes.highNibble (Bytes.byteAt frame (headerEnd frame + 12))).toNat

/-- What is taken for the payload of a described frame: the bytes from the given offset on,
if the frame reaches so far. -/
def payload? (frame : Bytes) (description : Description) : Option Bytes :=
  if description.payloadOffset ≤ frame.length then some (frame.drop description.payloadOffset)
  else none

variable {frame : Bytes} {description : Description}

theorem transportHeaderLength_tcp (frame : Bytes) :
    transportHeaderLength .tcp (frame.drop (headerEnd frame)) = statedWords frame * 4 := by
  rw [transportHeaderLength, Bytes.byteAt_drop, statedWords]

/-- A frame is described only by what stands in the headers of an IPv4 packet with a whole
fixed transport header. -/
theorem exists_packet_of_describe? (described : describe? frame = some description) :
    ∃ packet transport,
      transport.headerLength ≤ (frame.drop (headerEnd frame)).length ∧
        description = Frame.description frame packet transport := by
  cases carried : ipv4Packet? frame with
  | none =>
      rw [describe?_of_none carried] at described
      contradiction
  | some packet =>
      by_cases lacks : LacksPorts frame (Ipv4.protocol packet)
      · rw [describe?_of_lacksPorts carried lacks] at described
        contradiction
      · cases known : Transport.ofNumber? (Ipv4.protocol packet) with
        | none => exact absurd (lacksPorts_of_unknown known) lacks
        | some transport =>
            have number := Transport.number_of_ofNumber? known
            rw [number, lacksPorts_number_iff, Nat.not_lt] at lacks
            rw [describe?_of_complete carried number lacks] at described
            exact ⟨packet, transport, lacks, (Option.some.inj described).symm⟩

/-- The fixed transport header of a described frame ends inside the frame, and the payload is
counted from behind the headers as they state their lengths. -/
theorem payloadOffset_of_describe? (described : describe? frame = some description) :
    fixedHeaderEnd frame description.transport ≤ frame.length ∧
      description.payloadOffset = headerEnd frame +
        transportHeaderLength description.transport (frame.drop (headerEnd frame)) := by
  rcases exists_packet_of_describe? described with ⟨packet, transport, complete, rfl⟩
  refine ⟨?_, rfl⟩
  -- nothing is left of a frame that ends in front of its transport header
  have positive : 0 < transport.headerLength := by cases transport <;> decide
  rw [List.length_drop] at complete
  dsimp only [Frame.description, fixedHeaderEnd]
  omega

/-- The offset lies behind the fixed transport header, unless a TCP segment states less than
the five words of its fixed header. -/
theorem fixedHeaderEnd_le_payloadOffset_iff (described : describe? frame = some description) :
    fixedHeaderEnd frame description.transport ≤ description.payloadOffset ↔
      (description.transport = .tcp → 5 ≤ statedWords frame) := by
  rcases payloadOffset_of_describe? described with ⟨-, counted⟩
  rw [counted, fixedHeaderEnd]
  cases description.transport with
  | udp => exact iff_of_true (Nat.le_refl _) nofun
  | tcp =>
      rw [transportHeaderLength_tcp, Transport.headerLength]
      simp only [forall_const]
      omega

/-- The offset lies inside the frame, unless a TCP segment states a header that does not. -/
theorem payloadOffset_le_length_iff (described : describe? frame = some description) :
    description.payloadOffset ≤ frame.length ↔
      (description.transport = .tcp → headerEnd frame + statedWords frame * 4 ≤ frame.length) := by
  rcases payloadOffset_of_describe? described with ⟨whole, counted⟩
  rw [counted]
  cases transport : description.transport with
  | udp =>
      rw [transport] at whole
      exact iff_of_true whole nofun
  | tcp => simp only [transportHeaderLength_tcp, forall_const]

/-- What is taken from an offset behind the fixed header is an end of what lies there, and what
is taken from an earlier offset is not. -/
theorem exists_payload?_suffix_iff {limit : Nat} (whole : limit ≤ frame.length) :
    (∃ payload, payload? frame description = some payload ∧ payload <:+ frame.drop limit) ↔
      limit ≤ description.payloadOffset ∧ description.payloadOffset ≤ frame.length := by
  rw [payload?]
  constructor
  · rintro ⟨payload, taken, part⟩
    split at taken
    · rename_i inside
      cases taken
      have shorter := part.length_le
      rw [List.length_drop, List.length_drop] at shorter
      omega
    · contradiction
  · rintro ⟨behind, inside⟩
    refine ⟨_, if_pos inside, ?_⟩
    rw [← Nat.add_sub_cancel' behind, ← List.drop_drop]
    exact List.drop_suffix _ _

/-- A frame is described only with a whole fixed transport header.  The payload offset of its
description lies behind this header for every UDP segment, and for a TCP segment just if it
states at least five words; it lies inside the frame for every UDP segment, and for a TCP
segment just if the header that it states does.  So a payload can be taken from behind the
fixed header just if both hold. -/
theorem payload_of_stated_length (described : describe? frame = some description) :
    fixedHeaderEnd frame description.transport ≤ frame.length ∧
    (fixedHeaderEnd frame description.transport ≤ description.payloadOffset ↔
      (description.transport = .tcp → 5 ≤ statedWords frame)) ∧
    (description.payloadOffset ≤ frame.length ↔
      (description.transport = .tcp → headerEnd frame + statedWords frame * 4 ≤ frame.length)) ∧
    ((∃ payload, payload? frame description = some payload ∧
        payload <:+ frame.drop (fixedHeaderEnd frame description.transport)) ↔
      (description.transport = .tcp →
        5 ≤ statedWords frame ∧ headerEnd frame + statedWords frame * 4 ≤ frame.length)) := by
  have whole := (payloadOffset_of_describe? described).1
  have behind := fixedHeaderEnd_le_payloadOffset_iff described
  have inside := payloadOffset_le_length_iff described
  refine ⟨whole, behind, inside, ?_⟩
  rw [exists_payload?_suffix_iff whole, behind, inside]
  exact imp_and.symm

/-- A TCP frame of seventy-three bytes with an IPv4 option.  Its fixed headers end behind
fifty-eight bytes, and the byte `stated` says how long the TCP header is. -/
def optionedFrame (stated : UInt8) : Bytes :=
  List.replicate 12 2 ++ [8, 0, 0x46] ++ List.replicate 8 0 ++ [6] ++ List.replicate 14 0 ++
    [3, 232, 7, 208] ++ List.replicate 8 0 ++ [stated] ++ List.replicate 19 0 ++ [1, 2, 3]

theorem payload_of_eightWords :
    ∃ description payload, describe? (optionedFrame 0x80) = some description ∧
      58 ≤ description.payloadOffset ∧ description.payloadOffset ≤ 73 ∧
      payload? (optionedFrame 0x80) description = some payload ∧
      payload <:+ (optionedFrame 0x80).drop 58 := by
  have described : describe? (optionedFrame 0x80) = some ⟨⟨0⟩, ⟨0⟩, 1000, 2000, .tcp, 70⟩ := by
    decide
  rcases payload_of_stated_length described with ⟨-, behind, inside, usable⟩
  have words : 5 ≤ statedWords (optionedFrame 0x80) := by decide
  have reached : headerEnd (optionedFrame 0x80) + statedWords (optionedFrame 0x80) * 4 ≤
      (optionedFrame 0x80).length := by decide
  rcases usable.mpr fun _ => ⟨words, reached⟩ with ⟨payload, taken, part⟩
  exact ⟨_, payload, described, behind.mpr fun _ => words, inside.mpr fun _ => reached, taken, part⟩

/-- A segment that states fifteen words is described with an offset behind the frame, and one
that states four words with an offset inside its fixed header. -/
theorem exists_payload_misplaced :
    (∃ frame description, describe? frame = some description ∧
      frame.length < description.payloadOffset ∧ payload? frame description = none) ∧
    ∃ frame description, describe? frame = some description ∧
      description.payloadOffset < fixedHeaderEnd frame description.transport ∧
      payload? frame description = some [0, 0, 0, 0, 0, 0, 0, 0, 0, 0, 0, 0, 0, 0, 0, 0, 1, 2, 3] :=
  ⟨⟨optionedFrame 0xf0, ⟨⟨0⟩, ⟨0⟩, 1000, 2000, .tcp, 98⟩, by decide⟩,
    ⟨optionedFrame 0x40, ⟨⟨0⟩, ⟨0⟩, 1000, 2000, .tcp, 54⟩, by decide⟩⟩

end Frame

end InbandTelemetry
