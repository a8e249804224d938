import InbandTelemetry.Proofs.PostcardAdmission
import InbandTelemetry.Proofs.Rearrangements

namespace InbandTelemetry

/-!
# Raising the truncation position of a gate

A gate that truncates further behind captures more of a packet, as long as it can count so
far.  The end of what it captures is a sum of two 64-bit words.  For a truncation position
among the last ones the sum wraps round, and it comes to lie in front of the end of the
block.  The gate then captures what is in front of the block and nothing behind it.
-/

open Telemetry

namespace Gate

variable {gate : Gate} {data : Bytes}

/-- The number of bytes that a gate captures of a long packet, the block left out. -/
def reach (gate : Gate) : Nat :=
  if gate.truncateAt + 36 < wordBound then gate.truncateAt else gate.readAt

/-- If the end of the second stretch wraps round, the stretch is empty. -/
theorem captureSpans_of_wrap (inside : gate.readAt + 36 ≤ data.length)
    (short : data.length < wordBound) (word : gate.truncateAt < wordBound)
    (wraps : wordBound ≤ gate.truncateAt + 36) :
    gate.captureSpans data.length =
      (⟨0, gate.readAt⟩, ⟨gate.readAt + 36, gate.readAt + 36⟩) := by
  have front : gate.readAt < gate.truncateAt := by omega
  have start : wrapAdd gate.readAt Block.length = gate.readAt + 36 :=
    wrapAdd_of_lt (Nat.lt_of_le_of_lt inside short)
  have stop : wrapAdd gate.truncateAt Block.length = gate.truncateAt + 36 - wordBound :=
    wrapAdd_of_le word (by decide) wraps
  have before : min (gate.truncateAt + 36 - wordBound) data.length ≤ gate.readAt + 36 := by omega
  have whole : min gate.readAt data.length = gate.readAt := Nat.min_eq_left (by omega)
  rw [captureSpans, if_pos front, start, stop, whole, Nat.min_eq_left inside]
  dsimp only
  rw [Nat.max_eq_right before]

/-- Whatever its truncation position is, a gate captures leading bytes of what a packet is
without its block. -/
theorem capture_eq_take_reach (inside : gate.readAt + 36 ≤ data.length)
    (short : data.length < wordBound) (word : gate.truncateAt < wordBound) :
    gate.capture data = (Bytes.without data gate.readAt 36).take gate.reach := by
  unfold reach
  split
  · rename_i bounded
    exact capture_eq inside bounded
  · rename_i wraps
    have reached : gate.readAt ≤ data.length := Nat.le_of_add_right_le inside
    rw [capture, captureSpans_of_wrap inside short word (Nat.le_of_not_lt wraps),
      Bytes.take_without reached]
    simp only [Bytes.slice, Bytes.window, Span.length, Nat.sub_self, List.take_zero,
      List.append_nil, List.drop_zero, Nat.sub_zero]

end Gate

/-- A gate that is registered takes every truncation position. -/
theorem GateTable.setPostcard_of_registered {table : GateTable} {id : GateId} {gate : Gate}
    (registered : table.find? id = some gate) (truncateAt : Nat) {nextProtocol : UInt8}
    (narrow : nextProtocol ≤ 15) :
    ∃ later, table.setPostcard id truncateAt nextProtocol = .ok later ∧
      later.find? id = some { gate with truncateAt, nextProtocol } := by
  let change (gate : Gate) : Gate := { gate with truncateAt, nextProtocol }
  refine ⟨table.modify id change, ?_, ?_⟩
  · have contained : table.contains id = true := by
      rw [contains, registered, Option.isSome_some]
    rw [setPostcard, if_neg (UInt8.not_lt.mpr narrow), configure, if_pos contained]
  · rw [find?_modify, if_pos rfl, registered, Option.map_some]

namespace Forwarder

/-- A postcard that is queued for the only packet of a batch is the newest entry of the ring.
Its body is as long as the gate reaches. -/
theorem exists_newest {forwarder : Forwarder} (reachable : forwarder.ring.Reachable) {id : GateId}
    {gate : Gate} (registered : forwarder.gates.find? id = some gate)
    (leaves : gate.direction = .egress) (word : gate.truncateAt < wordBound) {packet : Packet}
    {block : Block} (carried : Block.at? packet.data gate.readAt = some block)
    (flagged : block.header.postcard = true) (short : packet.data.length < wordBound) {now : Nat}
    (admitted : (forwarder.process id [packet] now).1.postcards = 1) :
    ∃ postcard : Postcard,
      (forwarder.process id [packet] now).2.ring.toList.getLast? = some postcard.encode ∧
        postcard.body = (Bytes.without packet.data gate.readAt 36).take gate.reach := by
  have settled := settles_concat reachable.isLaidOut registered leaves carried flagged [] now
  have before : (forwarder.process id [] now).1.postcards = 0 := by
    rw [process, registered]
    rfl
  dsimp only [List.nil_append] at settled
  rw [Gate.capture_stampPacket _ _ _ short,
    Gate.capture_eq_take_reach (Block.inside_of_at? carried) short word] at settled
  rcases settled with ⟨-, adds, -⟩ | ⟨-, -, adds, -⟩ | ⟨-, -, evicted, -, -, newest⟩
  · have counted := adds.postcards_eq
    omega
  · have counted := adds.postcards_eq
    omega
  · exact ⟨⟨_, _⟩, (congrArg List.getLast? newest).trans List.getLast?_concat, rfl⟩

/-- Two forwarders have a gate alike, and they are told to truncate its postcards at two
positions, which both of them accept.  A packet passes both, and its postcards come into
both rings.  What the lower position captures is a prefix of what the higher one does, if
the end of the second stretch wraps round for neither position, or for both, or if the
lower position captures nothing behind the block.  A position that is no less than the
length of the packet captures all of it but the block, if the end does not wrap. -/
theorem body_of_raised_truncation {one other : Forwarder} (reachable : one.ring.Reachable)
    (otherReachable : other.ring.Reachable) {id : GateId} {gate : Gate}
    (registered : one.gates.find? id = some gate)
    (otherRegistered : other.gates.find? id = some gate) (leaves : gate.direction = .egress)
    {packet : Packet} {block : Block} (carried : Block.at? packet.data gate.readAt = some block)
    (flagged : block.header.postcard = true) (short : packet.data.length < wordBound)
    {truncateAt higher : Nat} (raised : truncateAt ≤ higher) (word : higher < wordBound)
    {nextProtocol : UInt8} (narrow : nextProtocol ≤ 15) (now later : Nat) :
    ∃ gates otherGates,
      one.gates.setPostcard id truncateAt nextProtocol = .ok gates ∧
      other.gates.setPostcard id higher nextProtocol = .ok otherGates ∧
      let first := { one with gates := gates }.process id [packet] now
      let second := { other with gates := otherGates }.process id [packet] later
      (first.1.postcards = 1 → second.1.postcards = 1 →
        ∃ low high : Postcard, first.2.ring.toList.getLast? = some low.encode ∧
          second.2.ring.toList.getLast? = some high.encode ∧
          (low.body <+: high.body ↔
            higher + 36 < wordBound ∨ wordBound ≤ truncateAt + 36 ∨
              min truncateAt (packet.data.length - 36) ≤ gate.readAt) ∧
          (packet.data.length ≤ higher → higher + 36 < wordBound →
            high.body = Bytes.without packet.data gate.readAt 36) ∧
          (wordBound ≤ higher + 36 → high.body = packet.data.take gate.readAt)) := by
  rcases GateTable.setPostcard_of_registered registered truncateAt narrow with
    ⟨gates, accepted, found⟩
  rcases GateTable.setPostcard_of_registered otherRegistered higher narrow with
    ⟨otherGates, otherAccepted, otherFound⟩
  refine ⟨gates, otherGates, accepted, otherAccepted, ?_⟩
  intro first second admitted otherAdmitted
  have lowWord : truncateAt < wordBound := Nat.lt_of_le_of_lt raised word
  rcases @exists_newest { one with gates } reachable id _ found leaves lowWord packet block carried
    flagged short now admitted with ⟨low, newest, body⟩
  rcases @exists_newest { other with gates := otherGates } otherReachable id _ otherFound leaves
    word packet block carried flagged short later otherAdmitted with ⟨high, otherNewest, otherBody⟩
  have inside : gate.readAt + 36 ≤ packet.data.length := Block.inside_of_at? carried
  have length := Bytes.length_without inside
  refine ⟨low, high, newest, otherNewest, ?_, ?_, ?_⟩
  · rw [body, otherBody, List.prefix_take_iff, and_iff_right (List.take_prefix _ _),
      List.length_take, ← length, Nat.add_sub_cancel]
    -- the bound on the length is put against what either gate reaches
    unfold Gate.reach
    dsimp only
    split <;> split <;> omega
  · intro whole counted
    rw [otherBody, Gate.reach, if_pos counted]
    apply List.take_of_length_le
    dsimp only
    omega
  · intro wraps
    rw [otherBody, Gate.reach, if_neg (Nat.not_lt.mpr wraps)]
    exact Bytes.take_without (Nat.le_of_add_right_le inside)

/-- A block that asks for a postcard, between four bytes and four more. -/
def midBlock : Packet where
  data := [1, 2, 3, 4] ++ (Block.fresh .exporting).bytes ++ [5, 6, 7, 8]

/-- A gate that finds the block there and truncates at some position. -/
def midGate (truncateAt : Nat) : Gate := { Gate.plain .egress 3 4 4 with truncateAt }

/-- A forwarder with room for some postcards. -/
def roomy (gates : GateTable) : Forwarder where
  nodeId := 7
  maxPostcardSize := 64
  gates
  ring := .withCapacity 64

/-- The position is raised to the highest one for which the end does not wrap round. -/
theorem body_of_raised_truncation_midBlock :
    ∃ gates otherGates,
      (GateTable.only (midGate 42)).setPostcard 0 6 0 = .ok gates ∧
      (GateTable.only (midGate 42)).setPostcard 0 18446744073709551579 0 = .ok otherGates ∧
      ∃ low high : Postcard,
        ((roomy gates).process 0 [midBlock] 5).2.ring.toList.getLast? = some low.encode ∧
        ((roomy otherGates).process 0 [midBlock] 5).2.ring.toList.getLast? = some high.encode ∧
        low.body <+: high.body ∧ high.body = [1, 2, 3, 4, 5, 6, 7, 8] := by
  have carried : Block.at? midBlock.data 4 = some (Block.fresh .exporting) := by decide
  have registered : (roomy (.only (midGate 42))).gates.find? 0 = some (midGate 42) := rfl
  have raised : 6 ≤ 18446744073709551579 := by decide
  have narrow : (0 : UInt8) ≤ 15 := by decide
  rcases body_of_raised_truncation ⟨64, [], rfl⟩ ⟨64, [], rfl⟩ registered registered rfl carried rfl
      (by decide) raised (by decide) narrow 5 5 with
    ⟨gates, otherGates, accepted, otherAccepted, compared⟩
  have six : (GateTable.only (midGate 42)).setPostcard 0 6 0 = .ok (.only (midGate 6)) := rfl
  have highest : (GateTable.only (midGate 42)).setPostcard 0 18446744073709551579 0 =
      .ok (.only (midGate 18446744073709551579)) := rfl
  cases six.symm.trans accepted
  cases highest.symm.trans otherAccepted
  rcases compared (by decide) (by decide) with ⟨low, high, newest, otherNewest, ordered, whole, -⟩
  refine ⟨_, _, six, highest, low, high, newest, otherNewest, ?_, ?_⟩
  · exact ordered.mpr (Or.inl (by decide))
  · exact (whole (by decide) (by decide)).trans (by decide)

/-- The truncation position is raised from one hundred to the highest offset.  Both gates
capture a packet of forty-four bytes, and the body of the postcard loses what lies behind
the block. -/
theorem exists_body_shortened :
    ∃ (truncateAt higher : Nat) (gates otherGates : GateTable) (low high : Postcard),
      truncateAt ≤ higher ∧ higher < wordBound ∧
      (GateTable.only (midGate 42)).setPostcard 0 truncateAt 0 = .ok gates ∧
      (GateTable.only (midGate 42)).setPostcard 0 higher 0 = .ok otherGates ∧
      ((roomy gates).process 0 [midBlock] 5).1.postcards = 1 ∧
      ((roomy otherGates).process 0 [midBlock] 5).1.postcards = 1 ∧
      ((roomy gates).process 0 [midBlock] 5).2.ring.toList = [low.encode] ∧
      ((roomy otherGates).process 0 [midBlock] 5).2.ring.toList = [high.encode] ∧
      ¬ low.body <+: high.body ∧ midBlock.data.length ≤ higher ∧
      high.body ≠ Bytes.without midBlock.data 4 36 := by
  refine ⟨100, 18446744073709551615, .only (midGate 100), .only (midGate 18446744073709551615),
    ⟨⟨0, 0, 7, 0, 3, 0, 5⟩, [1, 2, 3, 4, 5, 6, 7, 8]⟩, ⟨⟨0, 0, 7, 0, 3, 0, 5⟩, [1, 2, 3, 4]⟩,
    by decide, by decide, rfl, rfl, ?_⟩
  decide

end Forwarder

end InbandTelemetry
