import InbandTelemetry.Frame.Build
import InbandTelemetry.Proofs.Checksums
import InbandTelemetry.Proofs.FrameReadings

namespace InbandTelemetry

/-!
# Built frames

A built frame is four parts behind each other, and a reader finds each part from what the
one in front of it says.  What is read from a built frame is its plan, for payloads of
every length, because no reading looks at the length of the whole packet.  The checksums
are taken last and leave their own word out, so they verify together with all other words.
That needs a packet whose length fits in its length field: the receiver adds the length of
the segment as a word, and the sender adds it as a number.
-/

namespace Frame

namespace Plan

variable (plan : Plan)

/-! ## The parts of a frame -/

theorem length_transportHeader (checksum : UInt16) :
    (plan.transportHeader checksum).length = plan.transport.headerLength := by
  rw [transportHeader]
  cases plan.transport <;> rfl

/-- What stands behind the IPv4 header. -/
def segment : Bytes := plan.transportHeader plan.transportChecksum ++ plan.payload

/-- What stands behind the Ethernet header. -/
def packet : Bytes := plan.ipv4Header plan.ipv4Checksum ++ plan.segment

theorem build_eq : plan.build = ethernetHeader ++ plan.packet := by
  rw [build, packet, segment, List.append_assoc, List.append_assoc]

theorem length_segment : plan.segment.length = plan.segmentLength := by
  rw [segment, List.length_append, length_transportHeader, segmentLength]

theorem length_packet : plan.packet.length = ipv4Length + plan.segmentLength := by
  rw [packet, List.length_append, length_segment]
  rfl

theorem length_build : plan.build.length = plan.headersLength + plan.payload.length := by
  rw [build_eq, List.length_append, length_packet, segmentLength, headersLength, ← Nat.add_assoc,
    ← Nat.add_assoc]
  rfl

theorem drop_build : plan.build.drop ethernetLength = plan.packet := by
  rw [build_eq]
  exact List.drop_left' rfl

theorem drop_packet : plan.packet.drop ipv4Length = plan.segment := List.drop_left' rfl

theorem drop_headersLength_build : plan.build.drop plan.headersLength = plan.payload := by
  rw [headersLength, ← List.drop_drop, ← List.drop_drop, drop_build, drop_packet]
  exact List.drop_left' (plan.length_transportHeader _)

/-! ## Reading the parts -/

theorem headerLength_packet : Ipv4.headerLength plan.packet = ipv4Length := by
  have first : Bytes.byteAt plan.packet 0 = 0x45 := rfl
  rw [Ipv4.headerLength, first]
  rfl

theorem protocol_packet : Ipv4.protocol plan.packet = plan.transport.number := rfl

theorem source_packet : Ipv4.source plan.packet = plan.source :=
  congrArg Address.mk (Bytes.word32_ofWord32 plan.source.bits)

theorem destination_packet : Ipv4.destination plan.packet = plan.destination :=
  congrArg Address.mk (Bytes.word32_ofWord32 plan.destination.bits)

theorem ipv4Packet?_build : ipv4Packet? plan.build = some plan.packet := by
  have type : Bytes.word16At plan.build 12 = ipv4Type := by
    rw [build_eq]
    exact Bytes.word16_ofWord16 ipv4Type
  have whole : ethernetLength ≤ plan.build.length := by
    rw [build_eq, List.length_append]
    exact Nat.le_add_right _ _
  have packetWhole : ipv4Length ≤ plan.packet.length := by
    rw [length_packet]
    exact Nat.le_add_right _ _
  rw [ipv4Packet?, drop_build, type]
  simp only [whole, packetWhole, decide_true, BEq.rfl, Bool.and_self, if_true]

theorem headerEnd_build : headerEnd plan.build = ethernetLength + ipv4Length := by
  rw [headerEnd, drop_build, headerLength_packet]

theorem drop_headerEnd_build : plan.build.drop (headerEnd plan.build) = plan.segment := by
  rw [headerEnd_build, ← List.drop_drop, drop_build, drop_packet]

theorem sourcePort_segment : Bytes.word16At plan.segment 0 = plan.sourcePort :=
  Bytes.word16_ofWord16 plan.sourcePort

theorem destinationPort_segment : Bytes.word16At plan.segment 2 = plan.destinationPort :=
  Bytes.word16_ofWord16 plan.destinationPort

theorem transportHeaderLength_segment :
    transportHeaderLength plan.transport plan.segment = plan.transport.headerLength := by
  rw [segment, transportHeader]
  cases plan.transport with
  | udp => rfl
  | tcp =>
      -- the TCP header states five words
      change (Bytes.highNibble 0x50).toNat * 4 = 20
      decide

theorem description_build :
    description plan.build plan.packet plan.transport =
      { source := plan.source
        destination := plan.destination
        sourcePort := plan.sourcePort
        destinationPort := plan.destinationPort
        transport := plan.transport
        payloadOffset := plan.headersLength } := by
  rw [description, drop_headerEnd_build, headerEnd_build, source_packet, destination_packet,
    sourcePort_segment, destinationPort_segment, transportHeaderLength_segment, headersLength]

/-- The frame of a plan is read as planned: the description names its addresses, ports and
protocol and points at the payload, and so does the five-tuple as far as it goes.  The
frame has the planned length, and it ends with the payload. -/
theorem build_reads_back :
    describe? plan.build = some
      { source := plan.source
        destination := plan.destination
        sourcePort := plan.sourcePort
        destinationPort := plan.destinationPort
        transport := plan.transport
        payloadOffset := plan.headersLength } ∧
    plan.build.length = plan.headersLength + plan.payload.length ∧
    plan.build.drop plan.headersLength = plan.payload ∧
    FiveTuple.ofFrame? plan.build = some
      { source := plan.source
        destination := plan.destination
        sourcePort := plan.sourcePort
        destinationPort := plan.destinationPort
        protocol := plan.transport.number } := by
  have complete : plan.transport.headerLength ≤
      (plan.build.drop (headerEnd plan.build)).length := by
    rw [drop_headerEnd_build, length_segment, segmentLength]
    exact Nat.le_add_right _ _
  have described := describe?_of_complete plan.ipv4Packet?_build plan.protocol_packet complete
  have parsed := ofFrame?_of_complete plan.ipv4Packet?_build plan.protocol_packet complete
  rw [description_build] at described parsed
  exact ⟨described, plan.length_build, plan.drop_headersLength_build, parsed⟩

/-! ## Checksums -/

theorem onesSum_ipv4Header : Checksum.onesSum (plan.ipv4Header plan.ipv4Checksum) = 65535 := by
  have size : (plan.ipv4Header 0).length = ipv4Length := rfl
  have covered : plan.ipv4Checksum =
      Checksum.complement (Checksum.addWordsExcept 0 5 (plan.ipv4Header 0)) := by
    rw [ipv4Checksum, Checksum.ipv4, size, Nat.max_eq_left (Nat.min_le_right _ _),
      List.take_of_length_le (Nat.le_of_eq size)]
  have written (checksum : UInt16) : plan.ipv4Header checksum =
      Bytes.overwrite (plan.ipv4Header 0) (2 * 5) (Bytes.ofWord16 checksum) := rfl
  rw [written, covered]
  apply Checksum.onesSum_of_checksum
  · rw [size]
    decide
  · rw [size]
    decide

theorem segment_eq (checksum : UInt16) :
    plan.transportHeader checksum ++ plan.payload =
      Bytes.overwrite (plan.transportHeader 0 ++ plan.payload) (2 * plan.checksumIndex)
        (Bytes.ofWord16 checksum) := by
  rw [transportHeader, transportHeader, checksumIndex]
  cases plan.transport <;> rfl

theorem checksum_inside : 2 * plan.checksumIndex + 2 ≤ plan.transport.headerLength := by
  rw [checksumIndex]
  cases plan.transport <;> decide

theorem onesSum_segment (short : plan.segmentLength ≤ 65535) :
    Checksum.onesSum (Checksum.pseudoHeaderBytes plan.source plan.destination
      plan.transport.number plan.segmentLength ++ plan.segment) = 65535 := by
  generalize unsigned : plan.transportHeader 0 ++ plan.payload = content
  generalize pseudo : Checksum.pseudoHeaderBytes plan.source plan.destination
    plan.transport.number plan.segmentLength = front
  have size : content.length = plan.segmentLength := by
    rw [← unsigned, List.length_append, length_transportHeader, segmentLength]
  have twelve : front.length = 2 * 6 := by
    rw [← pseudo]
    rfl
  have covered : plan.transportChecksum = Checksum.complement
      (Checksum.addWordsExcept 0 (6 + plan.checksumIndex) (front ++ content)) := by
    rw [transportChecksum, unsigned, Checksum.transport_eq (size ▸ short), size, pseudo]
  have signed : front ++ plan.segment =
      Bytes.overwrite (front ++ content) (2 * (6 + plan.checksumIndex))
        (Bytes.ofWord16 plan.transportChecksum) := by
    rw [segment, segment_eq, unsigned, Bytes.append_overwrite, twelve, ← Nat.mul_add]
  have inside := plan.checksum_inside
  have whole : plan.transport.headerLength ≤ plan.segmentLength := Nat.le_add_right _ _
  have total : (front ++ content).length = 12 + plan.segmentLength := by
    rw [List.length_append, twelve, size]
  rw [signed, covered]
  exact Checksum.onesSum_of_checksum (by omega) (by omega)

/-- The checksums of a built frame verify, if the length of the packet fits in its length
field: the one over the words of the IPv4 header, and the one over the pseudo-header and the
transport segment. -/
theorem build_verifies (short : ipv4Length + plan.segmentLength ≤ 65535) :
    Checksum.onesSum (Bytes.window plan.build ethernetLength ipv4Length) = 65535 ∧
    Checksum.onesSum (Checksum.pseudoHeaderBytes plan.source plan.destination
      plan.transport.number plan.segmentLength ++
        plan.build.drop (ethernetLength + ipv4Length)) = 65535 := by
  constructor
  · have header : Bytes.window plan.build ethernetLength ipv4Length =
        plan.ipv4Header plan.ipv4Checksum := by
      rw [build_eq]
      exact Bytes.window_append rfl rfl
    rw [header]
    exact plan.onesSum_ipv4Header
  · rw [← List.drop_drop, drop_build, drop_packet]
    exact plan.onesSum_segment (Nat.le_of_add_left_le short)

/-- A plan whose transport checksum is zero: the other words add up to 65535, too. -/
def fullSumPlan : Plan := { payload := [44, 109, 0] }

theorem build_verifies_fullSumPlan :
    ipv4Length + fullSumPlan.segmentLength ≤ 65535 ∧ fullSumPlan.transportChecksum = 0 ∧
      Checksum.onesSum (Bytes.window fullSumPlan.build ethernetLength ipv4Length) = 65535 ∧
      Checksum.onesSum (Checksum.pseudoHeaderBytes fullSumPlan.source fullSumPlan.destination
        17 11 ++ fullSumPlan.build.drop 34) = 65535 :=
  ⟨by decide, by decide, build_verifies fullSumPlan (by decide)⟩

end Plan

end Frame

end InbandTelemetry
