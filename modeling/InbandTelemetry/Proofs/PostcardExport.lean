import InbandTelemetry.Proofs.HopPaths
import InbandTelemetry.Proofs.Postcards
import InbandTelemetry.Proofs.Tagging

namespace InbandTelemetry

/-!
# Postcards exported along a path

A packet of a flow that asks for postcards makes every hop export one.  The
postcard shows the packet as it was before it was tagged, wherever the block has
been moved meanwhile.  The first seven hops know both of their gates from the
record that they share in the block; a later hop finds the block full and knows
its egress gate only.
-/

open Telemetry

namespace Hop

/-- The postcard that a hop is to export about a frame, if `index` hops lie before it. -/
def postcard (hop : Hop) (index : Nat) (frame : Bytes) : Postcard where
  header :=
    { version := 0
      nextProtocol := hop.egress.gate.nextProtocol
      nodeId := hop.nodeId
      ingress := if index < 7 then hop.ingress.gate.reportId else 0
      egress := hop.egress.gate.reportId
      sequence := hop.egress.forwarder.nextSequence
      leaveTime := UInt32.ofNat hop.egress.now }
  body := frame.take (min hop.egress.gate.truncateAt frame.length)

theorem narrow_postcard (hop : Hop) (index : Nat) (frame : Bytes) :
    (hop.postcard index frame).header.Narrow := by
  have version : (0 : UInt8) ≤ 15 := by decide
  have ingress : (if index < 7 then hop.ingress.gate.reportId else 0) ≤ 15 := by
    split
    · exact hop.ingress.checked.reportId_le
    · decide
  exact ⟨version, hop.egress.checked.nextProtocol_le, ingress, hop.egress.checked.reportId_le⟩

/-- Only the first seven hops can be told apart by the count of a block. -/
theorem postcard_min (hop : Hop) (index : Nat) (frame : Bytes) :
    hop.postcard (min 7 index) frame = hop.postcard index frame := by
  have same : min 7 index < 7 ↔ index < 7 := by omega
  simp only [postcard, same]

/-- A hop that finds a block which asks for postcards reports its tags. -/
theorem report_of_postcard (hop : Hop) {block : Block} (exporting : block.header.postcard = true) :
    ∃ record, hop.report block = some record ∧
      record.ingress = (if block.count < 7 then hop.ingress.gate.reportId else 0) ∧
      record.egress = hop.egress.gate.reportId := by
  rw [report, if_pos exporting]
  by_cases room : block.count < 7
  · refine ⟨hop.record block.header, if_pos room, ?_, ?_⟩
    · rw [record, Gate.completed, if_pos exporting, if_pos room]
      exact Bytes.mod_sixteen_of_le hop.ingress.checked.reportId_le
    · rw [record, Gate.completed, if_pos exporting]
  · exact ⟨_, if_neg room, (if_neg room).symm, rfl⟩

variable {packet : Packet} {position : Nat} {block : Block} {rest : Bytes}

/-- The egress gate of a hop exports a postcard about every packet that brings a block
which asks for it.  The frame is what the packet is without the block. -/
theorem exports (hop : Hop) (carries : packet.Carries position block rest)
    (fits : hop.Fits packet.data.length position) (exporting : block.header.postcard = true)
    (laid : hop.egress.forwarder.ring.IsLaidOut)
    (alone : hop.egress.earlier = [] ∧ hop.egress.later = [])
    (narrow : hop.egress.gate.truncateAt + 36 < wordBound)
    (small : 11 + min hop.egress.gate.truncateAt rest.length ≤
      hop.egress.forwarder.maxPostcardSize)
    (room : 11 + min hop.egress.gate.truncateAt rest.length ≤
      hop.egress.forwarder.ring.capacity) :
    ∃ entering raw, hop.ingress.emerge packet = some entering ∧
      (hop.egress.result entering).1.postcards = 1 ∧
      (hop.egress.result entering).1.postcardsDropped = 0 ∧
      (hop.egress.result entering).2.ring.toList =
        hop.egress.forwarder.ring.toList.drop (hop.egress.result entering).1.evicted ++ [raw] ∧
      Postcard.decode raw = .ok (hop.postcard block.count rest) := by
  rcases hop.emerge_ingress carries fits with ⟨entering, entered, reads, outside, opened⟩
  rcases hop.report_of_postcard exporting with ⟨record, reported, ingressTag, egressTag⟩
  have stamped := hop.stamp_egress block
  rw [← opened] at stamped
  -- what is captured is the frame in front of the truncation position
  have captured : hop.egress.gate.capture (hop.egress.gate.stampedData entering
      ⟨hop.mark block, none, hop.report block⟩) = (hop.postcard block.count rest).body := by
    rcases Gate.stampedData_spec reads ⟨hop.mark block, none, hop.report block⟩ with
      ⟨size, -, kept⟩
    have inside := Block.inside_of_at? reads
    rw [← size] at inside
    rw [Gate.capture_eq inside narrow, kept, outside]
    apply List.take_eq_take_iff.mpr
    omega
  have length : (hop.postcard block.count rest).body.length =
      min hop.egress.gate.truncateAt rest.length := by
    rw [postcard, List.length_take]
    omega
  rw [← length, ← captured] at small room
  rcases Forwarder.offerPostcard_accepted record hop.egress.now laid small room with
    ⟨evicted, ring, offered, queued⟩
  have header : hop.egress.forwarder.postcardHeader hop.egress.gate record hop.egress.now =
      (hop.postcard block.count rest).header := by
    rw [Forwarder.postcardHeader, hop.same_node, ingressTag, egressTag]
    rfl
  rw [header, captured] at queued
  rw [nodeId, ← hop.same_node] at stamped
  have single : hop.egress.result entering =
      hop.egress.forwarder.process hop.egress.gateId [entering] hop.egress.now := by
    rw [Crossing.result, alone.1, alone.2]
    rfl
  rcases Forwarder.process_alone hop.egress.registered reads stamped reported offered with
    ⟨one, noneDropped, gone, left⟩
  rw [← single] at one noneDropped gone left
  refine ⟨entering, (hop.postcard block.count rest).encode, entered, one, noneDropped, ?_,
    Postcard.decode_encode (hop.narrow_postcard _ _)⟩
  rw [left, gone]
  exact queued

end Hop

namespace Path

/-- A path up to a hop, the hop, and what lies behind it. -/
theorem fits_getElem {length position index : Nat} {hops : List Hop}
    (fits : Fits length position hops) (reached : index < hops.length) :
    Fits length position (hops.take index) ∧
      hops[index].Fits length (stop position (hops.take index)) := by
  rw [← List.take_append_drop index hops, fits_append, List.drop_eq_getElem_cons reached] at fits
  exact ⟨fits.1, fits.2.1⟩

/-- A frame that is tagged under a flow which asks for postcards crosses any number of
nodes.  The egress gate of every hop that has room for the postcard queues exactly
one, and whoever reads the newest entry of its ring finds the hop and the leading
bytes of the frame as it was before it was tagged. -/
theorem postcard_exported {classifier next : Classifier} {packet tagged : Packet}
    {spec : FlowSpec} {hops : List Hop}
    (tagging : classifier.tag? packet = some (tagged, next))
    (plain : classifier.updateLengths = false)
    (chosen : classifier.specFor? packet.data = some spec) (exporting : spec.postcard = true)
    (fits : Fits tagged.data.length classifier.insertOffset hops)
    (index : Nat) (reached : index < hops.length)
    (alone : hops[index].egress.earlier = [] ∧ hops[index].egress.later = [])
    (reachable : hops[index].egress.forwarder.ring.Reachable)
    (narrow : hops[index].egress.gate.truncateAt + 36 < wordBound)
    (small : 11 + min hops[index].egress.gate.truncateAt packet.data.length ≤
      hops[index].egress.forwarder.maxPostcardSize)
    (room : 11 + min hops[index].egress.gate.truncateAt packet.data.length ≤
      hops[index].egress.forwarder.ring.capacity) :
    ∃ arriving entering raw,
      traverse (hops.take index) tagged = some arriving ∧
      hops[index].ingress.emerge arriving = some entering ∧
      (hops[index].egress.result entering).1.postcards = 1 ∧
      (hops[index].egress.result entering).1.postcardsDropped = 0 ∧
      (hops[index].egress.result entering).2.ring.toList =
        hops[index].egress.forwarder.ring.toList.drop
            (hops[index].egress.result entering).1.evicted ++ [raw] ∧
      Postcard.decode raw = .ok (hops[index].postcard index packet.data) := by
  rcases Classifier.tag?_spec tagging plain with
    ⟨covering, header, later, covered, asked, carried, rest, -⟩
  have same : covering = spec := Option.some.inj (covered.symm.trans chosen)
  rw [same, Classifier.nextHeader?, if_pos exporting] at asked
  cases asked
  have carries : tagged.Carries classifier.insertOffset (Block.fresh .exporting) packet.data :=
    ⟨carried, rest, Or.inl (by decide)⟩
  rcases fits_getElem fits reached with ⟨before, there⟩
  rcases traverse_spec carries before with ⟨arriving, success, brought⟩
  have count : (mark (hops.take index) (Block.fresh .exporting)).count = min 7 index := by
    have empty : (Block.fresh .exporting).count = 0 := by decide
    rw [count_mark _ (by omega), empty, List.length_take, Nat.zero_add,
      Nat.min_eq_left (Nat.le_of_lt reached)]
  have flagged : (mark (hops.take index) (Block.fresh .exporting)).header.postcard = true := by
    rw [(header_mark _ _).1]
    decide
  rw [← carries.length_eq, brought.length_eq] at there
  rcases hops[index].exports brought there flagged reachable.isLaidOut alone narrow small room with
    ⟨entering, raw, entered, one, noneDropped, queued, decoded⟩
  rw [count, Hop.postcard_min] at decoded
  exact ⟨arriving, entering, raw, success, entered, one, noneDropped, queued, decoded⟩

/-- A classifier with one flow, which covers all packets and asks for postcards. -/
def postcardClassifier : Classifier where
  specs := [{ source := .all, destination := .all, postcard := true }]

/-- A frame that carries IPv4, and three bytes behind its headers. -/
def plainFrame : Bytes :=
  List.replicate 12 2 ++ [8, 0, 69] ++ List.replicate 27 0 ++ [1, 2, 3]

/-- The frame with a block behind its headers. -/
def taggedFrame : Packet where
  data := plainFrame.take 42 ++ ((Block.fresh .exporting).bytes ++ plainFrame.drop 42)

/-- One node more than a block has records. -/
def eightNodes : List Hop := List.replicate 8 (.plain 7 4 6 42 40 42 1000 1250)

theorem postcard_of_last_node :
    ∃ arriving entering raw,
      traverse (eightNodes.take 7) taggedFrame = some arriving ∧
      eightNodes[7].ingress.emerge arriving = some entering ∧
      (eightNodes[7].egress.result entering).1.postcards = 1 ∧
      (eightNodes[7].egress.result entering).2.ring.toList = [raw] ∧
      Postcard.decode raw = .ok ⟨⟨0, 0, 7, 0, 6, 0, 1250⟩, plainFrame.take 42⟩ := by
  have tagging : postcardClassifier.tag? { data := plainFrame } =
      some (taggedFrame, postcardClassifier) := by
    decide
  have chosen : postcardClassifier.specFor? plainFrame =
      some { source := .all, destination := .all, postcard := true } := by
    decide
  have fits : Fits taggedFrame.data.length 42 eightNodes := by
    have each : Hop.Fits (.plain 7 4 6 42 40 42 1000 1250) taggedFrame.data.length 42 := by
      refine ⟨rfl, ?_, rfl, rfl, ?_, rfl⟩ <;> decide
    exact ⟨each, each, each, each, each, each, each, each, trivial⟩
  have capacity : eightNodes[7].egress.forwarder.ring.capacity = defaultRingCapacity :=
    Array.size_replicate
  rcases postcard_exported tagging rfl chosen rfl fits 7 (by decide) ⟨rfl, rfl⟩
      ⟨defaultRingCapacity, [], rfl⟩ (by decide) (by decide) (by rw [capacity]; decide) with
    ⟨arriving, entering, raw, before, entered, one, -, queued, decoded⟩
  have unused : eightNodes[7].egress.forwarder.ring.toList = [] := rfl
  rw [unused, List.drop_nil, List.nil_append] at queued
  exact ⟨arriving, entering, raw, before, entered, one, queued, decoded.trans (by decide)⟩

end Path

end InbandTelemetry
