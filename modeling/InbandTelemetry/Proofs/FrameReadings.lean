import InbandTelemetry.Flow.Spec
import InbandTelemetry.Frame.Parse
import InbandTelemetry.Proofs.LengthFields

namespace InbandTelemetry

/-!
# Two readings of a frame

A frame is read in two ways.  Every frame with an IPv4 packet has a five-tuple, by which
flows are told apart; where the ports are missing, it has zeros for them.  Only a frame
with a whole transport header has a description, which says where the payload begins.
The two readings reach the transport header on different ways, the one through the IPv4
packet and the other through the frame, and they treat the end of the frame differently.
Yet there are only three outcomes: both fail, both give the same fields, or the five-tuple
stands alone and has no ports.
-/

namespace Transport

theorem ofNumber?_number (transport : Transport) : ofNumber? transport.number = some transport := by
  cases transport <;> rfl

theorem number_of_ofNumber? {number : UInt8} {transport : Transport}
    (known : ofNumber? number = some transport) : number = transport.number := by
  rw [ofNumber?] at known
  split at known
  · rename_i same
    cases known
    exact same
  · split at known
    · rename_i same
      cases known
      exact same
    · contradiction

end Transport

namespace FiveTuple

variable {protocol : UInt8} {segment : Bytes}

/-- The protocols with ports are those that a frame can be built with, and their ports
are read as soon as the header is there that a frame is built with. -/
theorem portedHeaderLength?_eq (protocol : UInt8) :
    portedHeaderLength? protocol = (Transport.ofNumber? protocol).map Transport.headerLength := by
  by_cases udp : protocol = 17
  · rw [udp]
    rfl
  · by_cases tcp : protocol = 6
    · rw [tcp]
      rfl
    · rw [Transport.ofNumber?, Transport.number, if_neg udp, Transport.number, if_neg tcp,
        portedHeaderLength?]
      · rfl
      · exact udp
      · exact tcp

theorem ports_of_complete {transport : Transport}
    (complete : transport.headerLength ≤ segment.length) :
    ports transport.number segment = (Bytes.word16At segment 0, Bytes.word16At segment 2) := by
  rw [ports, portedHeaderLength?_eq, Transport.ofNumber?_number]
  exact if_pos complete

theorem ports_of_incomplete
    (incomplete : ∀ transport, Transport.ofNumber? protocol = some transport →
      segment.length < transport.headerLength) :
    ports protocol segment = (0, 0) := by
  rw [ports, portedHeaderLength?_eq]
  cases known : Transport.ofNumber? protocol with
  | none => rfl
  | some transport => exact if_neg (Nat.not_le.mpr (incomplete transport known))

end FiveTuple

namespace FlowSpec

/-- A flow that covers a packet without ports asks for any ports. -/
theorem ports_of_covers {spec : FlowSpec} {tuple : FiveTuple} (covered : spec.covers tuple = true)
    (noSource : tuple.sourcePort = 0) (noDestination : tuple.destinationPort = 0) :
    spec.sourcePort = 0 ∧ spec.destinationPort = 0 := by
  simp only [covers, noSource, noDestination, Bool.or_self, Bool.and_eq_true, beq_iff_eq] at covered
  exact ⟨covered.1.2, covered.2⟩

end FlowSpec

namespace Frame

variable {frame packet : Bytes} {transport : Transport}

/-! ## Frames with an IPv4 packet -/

theorem eq_drop_of_ipv4Packet? (carried : ipv4Packet? frame = some packet) :
    packet = frame.drop ethernetLength := by
  rw [ipv4Packet?] at carried
  split at carried
  · exact (Option.some.inj carried).symm
  · contradiction

theorem headerEnd_of_some (carried : ipv4Packet? frame = some packet) :
    headerEnd frame = ethernetLength + Ipv4.headerLength packet := by
  rw [headerEnd, eq_drop_of_ipv4Packet? carried]

/-- The transport segment is the same behind the headers of the frame and behind the header
of the packet. -/
theorem drop_headerLength (carried : ipv4Packet? frame = some packet) :
    packet.drop (Ipv4.headerLength packet) = frame.drop (headerEnd frame) := by
  rw [headerEnd_of_some carried, ← List.drop_drop, ← eq_drop_of_ipv4Packet? carried]

/-- Whether a frame has no ports for a protocol: UDP and TCP alone have ports, and they
have them only with their fixed headers of eight and of twenty bytes. -/
def LacksPorts (frame : Bytes) (protocol : UInt8) : Prop :=
  (protocol ≠ 17 ∧ protocol ≠ 6) ∨
    (protocol = 17 ∧ frame.length < headerEnd frame + 8) ∨
    (protocol = 6 ∧ frame.length < headerEnd frame + 20)

theorem lacksPorts_number_iff :
    LacksPorts frame transport.number ↔
      (frame.drop (headerEnd frame)).length < transport.headerLength := by
  have apart : (17 : UInt8) ≠ 6 := by decide
  rw [List.length_drop]
  cases transport <;>
    simp only [LacksPorts, Transport.number, Transport.headerLength, apart, apart.symm, ne_eq,
      not_true_eq_false, false_and, and_false, true_and, false_or, or_false] <;>
    omega

theorem LacksPorts.incomplete {protocol : UInt8} (lacks : LacksPorts frame protocol)
    (known : Transport.ofNumber? protocol = some transport) :
    (frame.drop (headerEnd frame)).length < transport.headerLength := by
  rw [Transport.number_of_ofNumber? known] at lacks
  exact lacksPorts_number_iff.mp lacks

theorem lacksPorts_of_unknown {protocol : UInt8} (unknown : Transport.ofNumber? protocol = none) :
    LacksPorts frame protocol := by
  refine Or.inl ⟨?_, ?_⟩
  all_goals
    rintro rfl
    contradiction

/-! ## The two readings -/

theorem ofFrame?_of_none (foreign : ipv4Packet? frame = none) :
    FiveTuple.ofFrame? frame = none := by
  rw [FiveTuple.ofFrame?, foreign]

theorem describe?_of_none (foreign : ipv4Packet? frame = none) : describe? frame = none := by
  rw [describe?, foreign]

theorem ofFrame?_of_some (carried : ipv4Packet? frame = some packet) :
    FiveTuple.ofFrame? frame = some
      { source := Ipv4.source packet
        destination := Ipv4.destination packet
        sourcePort := (FiveTuple.ports (Ipv4.protocol packet) (frame.drop (headerEnd frame))).1
        destinationPort := (FiveTuple.ports (Ipv4.protocol packet) (frame.drop (headerEnd frame))).2
        protocol := Ipv4.protocol packet } := by
  rw [FiveTuple.ofFrame?, carried]
  dsimp only
  rw [drop_headerLength carried]

/-- The fields that a description shares with a five-tuple. -/
def Description.tuple (description : Description) : FiveTuple where
  source := description.source
  destination := description.destination
  sourcePort := description.sourcePort
  destinationPort := description.destinationPort
  protocol := description.transport.number

/-- What a frame with a whole transport header is described as. -/
def description (frame packet : Bytes) (transport : Transport) : Description where
  source := Ipv4.source packet
  destination := Ipv4.destination packet
  sourcePort := Bytes.word16At (frame.drop (headerEnd frame)) 0
  destinationPort := Bytes.word16At (frame.drop (headerEnd frame)) 2
  transport := transport
  payloadOffset :=
    headerEnd frame + transportHeaderLength transport (frame.drop (headerEnd frame))

section Carried

variable (carried : ipv4Packet? frame = some packet)

include carried

theorem describe?_of_complete (known : Ipv4.protocol packet = transport.number)
    (complete : transport.headerLength ≤ (frame.drop (headerEnd frame)).length) :
    describe? frame = some (description frame packet transport) := by
  rw [describe?, carried]
  dsimp only
  rw [← headerEnd_of_some carried, known, Transport.ofNumber?_number]
  exact if_pos complete

theorem ofFrame?_of_complete (known : Ipv4.protocol packet = transport.number)
    (complete : transport.headerLength ≤ (frame.drop (headerEnd frame)).length) :
    FiveTuple.ofFrame? frame = some (description frame packet transport).tuple := by
  rw [ofFrame?_of_some carried, known, FiveTuple.ports_of_complete complete]
  rfl

theorem describe?_of_lacksPorts (lacks : LacksPorts frame (Ipv4.protocol packet)) :
    describe? frame = none := by
  rw [describe?, carried]
  dsimp only
  rw [← headerEnd_of_some carried]
  cases known : Transport.ofNumber? (Ipv4.protocol packet) with
  | none => rfl
  | some transport => exact if_neg (Nat.not_le.mpr (lacks.incomplete known))

end Carried

/-- How the two readings of a frame go together. -/
inductive Readings (frame : Bytes) : Option Description → Option FiveTuple → Prop where
  | foreign : Readings frame none none
  | portless {tuple : FiveTuple} (lacks : LacksPorts frame tuple.protocol)
      (noSource : tuple.sourcePort = 0) (noDestination : tuple.destinationPort = 0) :
      Readings frame none (some tuple)
  | described {description : Description}
      (ported : ¬ LacksPorts frame description.transport.number) :
      Readings frame (some description) (some description.tuple)

theorem readings (frame : Bytes) : Readings frame (describe? frame) (FiveTuple.ofFrame? frame) := by
  cases carried : ipv4Packet? frame with
  | none =>
      rw [describe?_of_none carried, ofFrame?_of_none carried]
      exact .foreign
  | some packet =>
      -- a protocol without ports and a cut header are the same to both readings
      by_cases lacks : LacksPorts frame (Ipv4.protocol packet)
      · have noPorts := FiveTuple.ports_of_incomplete fun transport => lacks.incomplete
        rw [describe?_of_lacksPorts carried lacks, ofFrame?_of_some carried, noPorts]
        exact .portless lacks rfl rfl
      · cases known : Transport.ofNumber? (Ipv4.protocol packet) with
        | none => exact absurd (lacksPorts_of_unknown known) lacks
        | some transport =>
            have number := Transport.number_of_ofNumber? known
            rw [number, lacksPorts_number_iff, Nat.not_lt] at lacks
            rw [describe?_of_complete carried number lacks,
              ofFrame?_of_complete carried number lacks]
            exact .described (lacksPorts_number_iff.not.mpr (Nat.not_lt.mpr lacks))

/-- A description agrees with the five-tuple of its frame in addresses, ports and protocol.
A frame without a five-tuple has no description.  A five-tuple stands alone just where the
frame has no ports for its protocol; then its ports are zero, and only flows for any ports
cover it. -/
theorem readings_agree (frame : Bytes) :
    (∀ description, describe? frame = some description →
      FiveTuple.ofFrame? frame = some description.tuple) ∧
    (FiveTuple.ofFrame? frame = none → describe? frame = none) ∧
    ∀ tuple, FiveTuple.ofFrame? frame = some tuple →
      (describe? frame = none ↔ LacksPorts frame tuple.protocol) ∧
      (describe? frame = none → tuple.sourcePort = 0 ∧ tuple.destinationPort = 0 ∧
        ∀ spec : FlowSpec, spec.covers tuple = true →
          spec.sourcePort = 0 ∧ spec.destinationPort = 0) := by
  generalize described : describe? frame = reading
  generalize parsed : FiveTuple.ofFrame? frame = tuple?
  have together := readings frame
  rw [described, parsed] at together
  cases together with
  | foreign => exact ⟨nofun, fun _ => rfl, nofun⟩
  | @portless tuple lacks noSource noDestination =>
      refine ⟨nofun, nofun, ?_⟩
      rintro _ ⟨⟩
      refine ⟨⟨fun _ => lacks, fun _ => rfl⟩, fun _ => ⟨noSource, noDestination, ?_⟩⟩
      intro spec covered
      exact FlowSpec.ports_of_covers covered noSource noDestination
  | described ported =>
      refine ⟨?_, nofun, ?_⟩
      · rintro _ ⟨⟩
        rfl
      · rintro _ ⟨⟩
        exact ⟨⟨nofun, fun lacks => absurd lacks ported⟩, nofun⟩

/-- A frame with an IPv4 option that ends one byte before its TCP header is whole. -/
def clippedFrame : Bytes :=
  List.replicate 12 2 ++ [8, 0, 0x46] ++ List.replicate 8 0 ++ [6] ++ List.replicate 14 0 ++
    [3, 232, 7, 208] ++ List.replicate 15 0

theorem readings_agree_clippedFrame :
    (∃ tuple, FiveTuple.ofFrame? clippedFrame = some tuple ∧ describe? clippedFrame = none ∧
      tuple.sourcePort = 0 ∧ tuple.destinationPort = 0) ∧
    ∃ description, describe? (clippedFrame ++ [0]) = some description ∧
      FiveTuple.ofFrame? (clippedFrame ++ [0]) = some description.tuple ∧
        description.tuple = ⟨⟨0⟩, ⟨0⟩, 1000, 2000, 6⟩ := by
  rcases readings_agree clippedFrame with ⟨-, -, alone⟩
  rcases readings_agree (clippedFrame ++ [0]) with ⟨same, -⟩
  constructor
  · have parsed : FiveTuple.ofFrame? clippedFrame = some ⟨⟨0⟩, ⟨0⟩, 0, 0, 6⟩ := by decide
    rcases alone _ parsed with ⟨lacking, portless⟩
    have undescribed := lacking.mpr (Or.inr (Or.inr ⟨rfl, by decide⟩))
    rcases portless undescribed with ⟨noSource, noDestination, -⟩
    exact ⟨_, parsed, undescribed, noSource, noDestination⟩
  · have described : describe? (clippedFrame ++ [0]) =
        some ⟨⟨0⟩, ⟨0⟩, 1000, 2000, .tcp, 38⟩ := by decide
    exact ⟨_, described, same _ described, rfl⟩

end Frame

end InbandTelemetry
