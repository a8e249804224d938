import InbandTelemetry.Proofs.GateVisits

namespace InbandTelemetry

/-!
# Which record an egress gate completes

An egress gate completes the last record of a block if a note of the packet names this
record and the record names the node.  The note is written by an ingress gate that
opens a record and erased by every egress gate.  So the record was opened on the
traversal that the egress gate ends: behind the gate that opened it the packet has met
ingress gates only, none of which opened a record.

An ingress gate that opens none leaves the note of an earlier one standing.  The note
is then not about the last ingress gate, and the next egress gate may complete a record
that the last ingress gate did not open.
-/

open Telemetry

namespace Visit

variable {visit : Visit} {packet next last : Packet} {index : Nat}

/-! ## Opening a record, and opening none -/

/-- An ingress gate opens the record with an index: it finds a block with this many records
and with room for one more. -/
structure Opens (visit : Visit) (packet : Packet) (index : Nat) : Prop where
  enters : visit.gate.direction = .ingress
  found : ∃ block, Block.at? packet.data visit.gate.readAt = some block ∧ block.count = index
  room : index < Block.maxRecords

/-- An ingress gate opens no record: it finds no block, or a full one. -/
structure Idles (visit : Visit) (packet : Packet) : Prop where
  enters : visit.gate.direction = .ingress
  full : ∀ block, Block.at? packet.data visit.gate.readAt = some block →
    ¬ block.count < Block.maxRecords

/-- What a visit does to the note of a packet.  An egress gate erases it, an ingress gate that
opens a record writes the index of the record, and one that opens none leaves it. -/
theorem emerge_cases (emerged : visit.emerge packet = some next) :
    (visit.gate.direction = .egress ∧ next.metadata.openRecord = none) ∨
    (∃ index, visit.Opens packet index ∧ next.metadata.openRecord = some index) ∨
    (visit.Idles packet ∧ next.metadata.openRecord = packet.metadata.openRecord) := by
  rw [emerge_eq, Option.some.injEq] at emerged
  subst emerged
  cases way : visit.gate.direction with
  | egress => exact Or.inl ⟨rfl, Gate.openRecord_forward_of_egress way _ _⟩
  | ingress =>
      right
      by_cases opens : ∃ block, Block.at? packet.data visit.gate.readAt = some block ∧
          block.count < Block.maxRecords
      · rcases opens with ⟨block, carried, room⟩
        exact Or.inl ⟨block.count, ⟨way, ⟨block, carried, rfl⟩, room⟩,
          Gate.openRecord_forward_of_room way carried room _ _⟩
      · have idle : ∀ block, Block.at? packet.data visit.gate.readAt = some block →
            ¬ block.count < Block.maxRecords :=
          fun block carried room => opens ⟨block, carried, room⟩
        exact Or.inr ⟨⟨way, idle⟩, Gate.openRecord_forward_of_idle way idle _ _⟩

/-! ## Along a run of visits -/

/-- A packet meets ingress gates only, and none of them opens a record. -/
inductive Idling : Packet → List Visit → Packet → Prop where
  | nil {packet : Packet} : Idling packet [] packet
  | cons {packet next last : Packet} {visit : Visit} {rest : List Visit}
      (idles : visit.Idles packet) (emerged : visit.emerge packet = some next)
      (further : Idling next rest last) : Idling packet (visit :: rest) last

theorem traverse_append (before rest : List Visit) (packet : Packet) :
    traverse (before ++ rest) packet = (traverse before packet).bind (traverse rest) := by
  induction before generalizing packet with
  | nil => rfl
  | cons visit before ih =>
      rw [List.cons_append, traverse, traverse, Option.bind_assoc]
      exact congrArg _ (funext ih)

/-- The last gate of an idle run opens no record, like the others. -/
theorem Idling.idles_last {visits : List Visit} (idling : Idling packet (visits ++ [visit]) last) :
    ∃ met, traverse visits packet = some met ∧ visit.Idles met := by
  induction visits generalizing packet with
  | nil =>
      cases idling with
      | cons idles _ _ => exact ⟨packet, rfl, idles⟩
  | cons first rest ih =>
      cases idling with
      | cons _ emerged further =>
          rcases ih further with ⟨met, reached, idles⟩
          refine ⟨met, ?_, idles⟩
          rw [traverse, emerged, Option.bind_some, reached]

/-- On a run of visits a gate opens the record with an index, and behind it no gate opens
a record and no egress gate is met. -/
def OpenedAlong (packet : Packet) (visits : List Visit) (last : Packet) (index : Nat)
    (opener : Visit) : Prop :=
  ∃ earlier idle there after, visits = earlier ++ opener :: idle ∧
    traverse earlier packet = some there ∧ opener.Opens there index ∧
    opener.emerge there = some after ∧ Idling after idle last

/-- A note was there from the beginning or was written on the way, and it is about the last
record that was opened. -/
theorem opener_of_note {visits : List Visit} (came : traverse visits packet = some last)
    (noted : last.metadata.openRecord = some index) :
    (Idling packet visits last ∧ packet.metadata.openRecord = some index) ∨
      ∃ opener, OpenedAlong packet visits last index opener := by
  induction visits generalizing packet with
  | nil =>
      cases came
      exact Or.inl ⟨.nil, noted⟩
  | cons visit rest ih =>
      rw [traverse, Option.bind_eq_some_iff] at came
      rcases came with ⟨next, emerged, came⟩
      rcases ih came with
        ⟨idling, before⟩ | ⟨opener, earlier, idle, there, after, rfl, reached, opened⟩
      · rcases emerge_cases emerged with ⟨-, erased⟩ | ⟨other, opens, written⟩ | ⟨idles, kept⟩
        · cases erased.symm.trans before
        · cases written.symm.trans before
          exact Or.inr ⟨visit, [], rest, packet, next, rfl, rfl, opens, emerged, idling⟩
        · exact Or.inl ⟨.cons idles emerged idling, kept.symm.trans before⟩
      · right
        refine ⟨opener, visit :: earlier, idle, there, after, rfl, ?_, opened⟩
        rw [traverse, emerged, Option.bind_some, reached]

/-- The gate in front of an idle run is the last gate of all if the last one does not idle. -/
theorem opener_of_busy {earlier idle early : List Visit} {opener entering : Visit}
    {there after met : Packet} (reached : traverse earlier packet = some there)
    (emerged : opener.emerge there = some after) (idling : Idling after idle last)
    (whole : earlier ++ opener :: idle = early ++ [entering])
    (came : traverse early packet = some met) (busy : ¬ entering.Idles met) :
    earlier = early ∧ opener = entering := by
  rcases List.eq_nil_or_concat' idle with rfl | ⟨others, visit, rfl⟩
  · rcases List.append_inj' whole rfl with ⟨same, single⟩
    exact ⟨same, (List.cons.inj single).1⟩
  · have regrouped : (earlier ++ opener :: others) ++ [visit] = early ++ [entering] := by
      rw [List.append_assoc]
      exact whole
    rcases List.append_inj' regrouped rfl with ⟨rfl, single⟩
    cases single
    rcases idling.idles_last with ⟨other, through, idles⟩
    rw [traverse_append, reached, Option.bind_some, traverse, emerged, Option.bind_some,
      through] at came
    cases came
    exact absurd idles busy

/-! ## Where the block is meanwhile -/

/-- A block is handed on from one offset to another: each gate finds no block, or it finds
the block where it has been left, and its overlay spares the block. -/
inductive HandedOn : Packet → Nat → List Visit → Nat → Prop where
  | nil {packet : Packet} {position : Nat} : HandedOn packet position [] position
  | missed {packet next : Packet} {position stop : Nat} {visit : Visit} {rest : List Visit}
      (absent : Block.at? packet.data visit.gate.readAt = none)
      (emerged : visit.emerge packet = some next) (further : HandedOn next position rest stop) :
      HandedOn packet position (visit :: rest) stop
  | moved {packet next : Packet} {stop : Nat} {visit : Visit} {rest : List Visit}
      (spares : visit.gate.Spares (visit.gate.leavesAt packet.data.length))
      (emerged : visit.emerge packet = some next)
      (further : HandedOn next (visit.gate.leavesAt packet.data.length) rest stop) :
      HandedOn packet visit.gate.readAt (visit :: rest) stop

/-- A block that is handed on by gates which open no record stays as it is. -/
theorem Idling.at?_eq {visits : List Visit} {position stop : Nat} {block : Block}
    (idling : Idling packet visits last) (handed : HandedOn packet position visits stop)
    (carried : Block.at? packet.data position = some block) :
    Block.at? last.data stop = some block := by
  induction idling generalizing position with
  | nil =>
      cases handed
      exact carried
  | @cons packet next last visit rest idles emerged _ ih =>
      rw [emerge_eq, Option.some.injEq] at emerged
      subst emerged
      cases handed with
      | missed absent same further =>
          rw [emerge_eq, Option.some.injEq] at same
          subst same
          apply ih further
          rw [Gate.forward_eq, absent]
          exact carried
      | moved spares same further =>
          rw [emerge_eq, Option.some.injEq] at same
          subst same
          apply ih further
          rw [Gate.at?_forward carried spares,
            Gate.stamp_ingress_of_full idles.enters (idles.full block carried)]

/-- A gate that opens a record leaves a block behind in which the record is that of the gate. -/
theorem Opens.exists_record {opener : Visit} {there after : Packet}
    (opens : opener.Opens there index) (emerged : opener.emerge there = some after)
    (spares : opener.gate.Spares (opener.gate.leavesAt there.data.length)) :
    ∃ block record,
      Block.at? after.data (opener.gate.leavesAt there.data.length) = some block ∧
        block.record? index = some record ∧ record.nodeId = opener.forwarder.nodeId ∧
        record.ingress = opener.gate.reportId % 16 := by
  rcases opens with ⟨enters, ⟨found, held, rfl⟩, room⟩
  rw [emerge_eq, Option.some.injEq] at emerged
  subst emerged
  let opened := opener.gate.opening opener.forwarder.nodeId opener.now found.header
  have left := Gate.at?_forward held spares opener.forwarder.nodeId opener.now
  rw [Gate.stamp_ingress_of_room enters room] at left
  refine ⟨_, opened.stored, left, ?_, rfl, rfl⟩
  rw [Block.record?_setCount, Block.record?_putRecord_self]

/-- A packet comes to an egress gate, over any gates and without a note in the beginning, and
the egress gate completes the last record of the block that it finds.  Then an ingress
gate opened the record with this index, and behind it the packet met ingress gates only,
none of which opened a record.  So it was the last gate of all, unless the last gate was an
ingress gate that opened no record.  The record names the node of the egress gate.  If
the block was handed on from the ingress gate to the egress gate, the record is the one
that the ingress gate opened, and both gates are of one node. -/
theorem opener_of_completes {packet last : Packet} {visits : List Visit} {leaving : Visit}
    {block : Block} (unopened : packet.metadata.openRecord = none)
    (came : traverse visits packet = some last)
    (carried : Block.at? last.data leaving.gate.readAt = some block)
    (completing : leaving.gate.completes leaving.forwarder.nodeId last.metadata.openRecord block =
      true) :
    ∃ earlier opener idle there after, visits = earlier ++ opener :: idle ∧
      traverse earlier packet = some there ∧ opener.Opens there (block.count - 1) ∧
      opener.emerge there = some after ∧ Idling after idle last ∧
      (∀ early entering met, visits = early ++ [entering] → traverse early packet = some met →
        ¬ entering.Idles met → earlier = early ∧ opener = entering) ∧
      ∃ record, block.record? (block.count - 1) = some record ∧
        record.nodeId = leaving.forwarder.nodeId ∧
        (opener.gate.Spares (opener.gate.leavesAt there.data.length) →
          HandedOn after (opener.gate.leavesAt there.data.length) idle leaving.gate.readAt →
          opener.forwarder.nodeId = leaving.forwarder.nodeId ∧
            record.ingress = opener.gate.reportId % 16) := by
  have noted := Gate.openRecord_of_completes completing
  rcases Gate.completes_spec completing with ⟨-, index, record, counted, found, own⟩
  have place : block.count - 1 = index := by omega
  rw [place] at noted ⊢
  rcases opener_of_note came noted with
    ⟨-, before⟩ | ⟨opener, earlier, idle, there, after, split, reached, opens, emerged, idling⟩
  · cases unopened.symm.trans before
  · refine ⟨earlier, opener, idle, there, after, split, reached, opens, emerged, idling, ?_, record,
      found, own, ?_⟩
    · intro early entering met whole through busy
      exact opener_of_busy reached emerged idling (split.symm.trans whole) through busy
    intro spares handed
    rcases opens.exists_record emerged spares with ⟨left, opened, stamped, latest, node, tag⟩
    have arrived := idling.at?_eq handed stamped
    -- the block that the egress gate finds is the one that the ingress gate has left
    cases carried.symm.trans arrived
    cases found.symm.trans latest
    exact ⟨node.symm.trans own, tag⟩

/-- A block behind four bytes, which asks for latencies and holds no record yet. -/
def fourAhead : Packet where
  data := [1, 2, 3, 4] ++ (Block.fresh (.request .latency)).bytes

/-- Two ingress gates of one node, of which the second one looks for a block where none is. -/
def twoIngresses : List Visit :=
  [alone 7 (.plain .ingress 1 4 4) 100, alone 7 (.plain .ingress 2 0 0) 150]

/-- The packet behind both gates.  Its note is still that of the first one. -/
def enteredTwice : Packet :=
  Gate.forward (.plain .ingress 2 0 0) 7 150 (Gate.forward (.plain .ingress 1 4 4) 7 100 fourAhead)

theorem traverse_twoIngresses : traverse twoIngresses fourAhead = some enteredTwice := rfl

/-- An egress gate of the node completes the record. -/
theorem exists_completed_enteredTwice :
    ∃ block, Block.at? enteredTwice.data 4 = some block ∧
      (Gate.plain .egress 3 4 4).completes 7 enteredTwice.metadata.openRecord block = true := by
  have found : (Block.at? enteredTwice.data 4).any
      ((Gate.plain .egress 3 4 4).completes 7 enteredTwice.metadata.openRecord) = true := by
    decide
  exact (Option.any_eq_true _ _).mp found

theorem opener_of_completes_enteredTwice :
    ∃ earlier opener idle there after, twoIngresses = earlier ++ opener :: idle ∧
      traverse earlier fourAhead = some there ∧ opener.gate.direction = .ingress ∧
      opener.emerge there = some after ∧ Idling after idle enteredTwice := by
  rcases exists_completed_enteredTwice with ⟨block, carried, completing⟩
  let leaving := alone 7 (.plain .egress 3 4 4) 160
  have found : Block.at? enteredTwice.data leaving.gate.readAt = some block := carried
  rcases opener_of_completes rfl traverse_twoIngresses found completing with
    ⟨earlier, opener, idle, there, after, split, reached, opens, emerged, idling, -⟩
  exact ⟨earlier, opener, idle, there, after, split, reached, opens.enters, emerged, idling⟩

/-- The last ingress gate need not be the one that opened the record. -/
theorem exists_completed_unopened :
    ¬ ∀ (packet last : Packet) (visits : List Visit) (leaving : Visit) (block : Block),
      packet.metadata.openRecord = none → traverse visits packet = some last →
      Block.at? last.data leaving.gate.readAt = some block →
      leaving.gate.completes leaving.forwarder.nodeId last.metadata.openRecord block = true →
      ∃ earlier entering there, visits = earlier ++ [entering] ∧
        traverse earlier packet = some there ∧
        entering.forwarder.nodeId = leaving.forwarder.nodeId ∧
        entering.Opens there (block.count - 1) := by
  intro claim
  rcases exists_completed_enteredTwice with ⟨block, carried, completing⟩
  rcases claim fourAhead enteredTwice twoIngresses (alone 7 (.plain .egress 3 4 4) 160) block rfl
    traverse_twoIngresses carried completing with
    ⟨earlier, entering, there, split, reached, -, opens⟩
  have parts : [alone 7 (.plain .ingress 1 4 4) 100] ++ [alone 7 (.plain .ingress 2 0 0) 150] =
      earlier ++ [entering] := split
  rcases List.append_inj' parts rfl with ⟨rfl, second⟩
  cases second
  cases reached
  rcases opens.found with ⟨other, found, -⟩
  have absent : Block.at? (Gate.forward (.plain .ingress 1 4 4) 7 100 fourAhead).data 0 = none := by
    decide
  cases absent.symm.trans found

end Visit

end InbandTelemetry
