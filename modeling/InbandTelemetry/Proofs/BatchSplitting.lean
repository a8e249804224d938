import InbandTelemetry.Proofs.GateTables
import InbandTelemetry.Proofs.Stamping

namespace InbandTelemetry

/-!
# Splitting a batch

A gate counts a batch after all its packets have passed.  So a batch that comes in two
parts meets a gate with other counts from the second part on, and with nothing else
changed.  The counts are read for the value of a record in a block that asks for a
rate, and for nothing else.  Postcards carry no such value, so the ring, the numbers
and the accounts of the postcards do not depend on how a batch is split.
-/

open Telemetry

/-- Whether a block asks for one of the four rates. -/
def Telemetry.Block.asksRate (block : Block) : Bool :=
  1 ≤ block.header.metricCode && block.header.metricCode ≤ 4

/-- Whether a packet carries a block at a position, and the block asks for a rate. -/
def Packet.asksRate (packet : Packet) (position : Nat) : Bool :=
  (Block.at? packet.data position).any Block.asksRate

namespace Gate

variable {gate : Gate} {nodeId : UInt8} {openRecord : Option Nat} {now : Nat} {block : Block}

/-! ## Stamps with different values -/

/-- The offset of the two bytes of the value in the record with an index, from the start of
the block. -/
def valueOffset (index : Nat) : Nat := Header.length + index * HopRecord.length + 2

theorem agreeOutside_putRecord (block : Block) {index : Nat} (room : index < Block.maxRecords)
    (record : HopRecord) (value other : UInt16) :
    Bytes.AgreeOutside (valueOffset index) 2
      (block.putRecord index { record with value } room).bytes
      (block.putRecord index { record with value := other } room).bytes := by
  have encoded : Bytes.AgreeOutside 2 2 ({ record with value } : HopRecord).encode
      ({ record with value := other } : HopRecord).encode := by
    refine ⟨rfl, ?_⟩
    intro offset apart
    match offset with
    | 0 => rfl
    | 1 => rfl
    | 2 | 3 => omega
    | _ + 4 => rfl
  apply encoded.overwrite
  rw [block.length_eq, Header.length, HopRecord.length]
  rw [Block.maxRecords] at room
  omega

/-- Stamps with different values agree outside the two bytes of the value. -/
theorem agreeOutside_stampValue
    (room : gate.recordIndex nodeId openRecord block < Block.maxRecords) (value other : UInt16) :
    (gate.stampValue nodeId openRecord block other).opened =
        (gate.stampValue nodeId openRecord block value).opened ∧
      Bytes.AgreeOutside (valueOffset (gate.recordIndex nodeId openRecord block)) 2
        (gate.stampValue nodeId openRecord block value).block.bytes
        (gate.stampValue nodeId openRecord block other).block.bytes := by
  have agree :=
    agreeOutside_putRecord block room (gate.begun nodeId openRecord block) value other
  simp only [stampValue, dif_pos room]
  split
  · exact ⟨rfl, agree⟩
  · refine ⟨rfl, agree.overwritten ?_ _⟩
    rw [Block.length_eq]
    decide

/-- Where no record is handed out, a full block stays as it is. -/
theorem stampValue_of_full
    (full : ¬ gate.recordIndex nodeId openRecord block < Block.maxRecords)
    (kept : gate.exports block = false) (value : UInt16) :
    gate.stampValue nodeId openRecord block value = ⟨block, none, none⟩ := by
  simp only [stampValue, dif_neg full, kept, Bool.false_eq_true, if_false]

/-! ## A gate with other counts -/

/-- The gate that differs in its counts only. -/
def recount (gate : Gate) (counters : Counters) : Gate := { gate with counters }

/-- A measurement that is no rate does not depend on the counts. -/
theorem measure_recount (timed : block.asksRate = false) (counters : Counters)
    (completing : Bool) (value : UInt16) :
    (gate.recount counters).measure block.header.metric? completing now value =
      gate.measure block.header.metric? completing now value := by
  have unrated : block.header.metric? = none ∨ block.header.metric? = some .latency := by
    rw [Block.asksRate] at timed
    rw [Header.metric?]
    generalize block.header.metricCode = code at timed ⊢
    unfold Metric.ofCode?
    split <;> simp_all
  rcases unrated with unknown | latency
  · rw [unknown]
    rfl
  · rw [latency]
    rfl

/-- What a gate makes of a block does not depend on its counts, apart from the value of the
record that it writes into a block that asks for a rate. -/
theorem stamp_recount (gate : Gate) (counters : Counters) (nodeId : UInt8)
    (openRecord : Option Nat) (now : Nat) (block : Block) :
    let stamp := gate.stamp nodeId openRecord now block
    let recounted := (gate.recount counters).stamp nodeId openRecord now block
    let index := gate.recordIndex nodeId openRecord block
    recounted = stamp ∨
      block.asksRate = true ∧ index < Block.maxRecords ∧ recounted.report = none ∧
        stamp.report = none ∧ recounted.opened = stamp.opened ∧
        Bytes.AgreeOutside (valueOffset index) 2 stamp.block.bytes recounted.block.bytes := by
  intro stamp recounted index
  have written : stamp = gate.stampValue nodeId openRecord block
      (gate.value nodeId openRecord now block) := gate.stamp_eq_stampValue ..
  have rewritten : recounted = gate.stampValue nodeId openRecord block
      ((gate.recount counters).value nodeId openRecord now block) :=
    (gate.recount counters).stamp_eq_stampValue ..
  cases exported : gate.exports block with
  -- a record that is handed out has no measured value
  | true =>
      have same : (gate.recount counters).exports block = true := exported
      left
      rw [written, rewritten, value, value, if_pos exported, if_pos same]
      rfl
  | false =>
      have kept : ¬ gate.exports block = true := Bool.eq_false_iff.mp exported
      have silent : stamp.report = none := (gate.report_stamp ..).trans (if_neg kept)
      have unreported : recounted.report = none :=
        ((gate.recount counters).report_stamp ..).trans (if_neg kept)
      by_cases room : index < Block.maxRecords
      · cases rated : block.asksRate with
        | true =>
            right
            refine ⟨rfl, room, unreported, silent, ?_⟩
            rw [written, rewritten]
            exact agreeOutside_stampValue room _ _
        | false =>
            left
            rw [written, rewritten, value, measure_recount rated, value]
            rfl
      · left
        rw [written, rewritten, stampValue_of_full room exported, stampValue_of_full room exported]

/-! ## A packet behind the gate -/

variable {packet : Packet}

/-- The overlay of a gate is the same content at the same place for all packets of one
length. -/
theorem agreeOutside_applyOverlay {start length : Nat} {data other : Bytes}
    (agree : Bytes.AgreeOutside start length data other) :
    Bytes.AgreeOutside start length (gate.applyOverlay data) (gate.applyOverlay other) := by
  unfold applyOverlay
  cases gate.overlay with
  | none => exact agree
  | some overlay =>
      dsimp only
      rw [← agree.length_eq]
      split
      · rename_i fits
        rw [Bool.and_eq_true, decide_eq_true_eq, decide_eq_true_eq] at fits
        exact agree.overwritten (Nat.le_trans fits.1 fits.2) overlay.content
      · exact agree

/-- A stamped block arrives whole where the gate leaves it, over the bytes that were around the
old one. -/
theorem moveBlock_stampedData (carried : Block.at? packet.data gate.readAt = some block)
    (stamp : Stamp) :
    let moved := gate.moveBlock (gate.stampedData packet stamp)
    moved.length = packet.data.length ∧
      Bytes.window moved (gate.leavesAt packet.data.length) 36 = stamp.block.bytes ∧
      Bytes.without moved (gate.leavesAt packet.data.length) 36 =
        Bytes.without packet.data gate.readAt 36 := by
  rcases stampedData_spec carried stamp with ⟨size, content, rest⟩
  have moved := moveBlock_spec (size ▸ Block.inside_of_at? carried)
  rw [size, content, rest] at moved
  exact moved

/-- A gate takes the difference between two stamps along when it moves the block. -/
theorem agreeOutside_relocate (carried : Block.at? packet.data gate.readAt = some block)
    {stamp other : Stamp} {start length : Nat}
    (agree : Bytes.AgreeOutside start length stamp.block.bytes other.block.bytes) :
    Bytes.AgreeOutside (gate.leavesAt packet.data.length + start) length
      (gate.relocate (gate.stampedData packet stamp))
      (gate.relocate (gate.stampedData packet other)) := by
  rcases moveBlock_stampedData carried stamp with ⟨size, content, rest⟩
  rcases moveBlock_stampedData carried other with ⟨otherSize, otherContent, otherRest⟩
  have arrived := leavesAt_inside (Block.inside_of_at? carried)
  apply agreeOutside_applyOverlay
  apply Bytes.AgreeOutside.of_window (size ▸ arrived) (otherSize ▸ arrived)
    (rest.trans otherRest.symm)
  rw [content, otherContent]
  exact agree

/-- What comes out of a gate for a packet, with one count or another: the same notes, and the
same bytes but for the value of the record that the gate has written into a block that
asks for a rate.  The value is at the place where the gate leaves the block. -/
structure AgreeButForRate (gate : Gate) (nodeId : UInt8) (packet out other : Packet) : Prop where
  metadata_eq : out.metadata = other.metadata
  data_agree : out.data = other.data ∨
    ∃ block, Block.at? packet.data gate.readAt = some block ∧ block.asksRate = true ∧
      gate.recordIndex nodeId packet.metadata.openRecord block < Block.maxRecords ∧
      Bytes.AgreeOutside
        (gate.leavesAt packet.data.length +
          valueOffset (gate.recordIndex nodeId packet.metadata.openRecord block)) 2
        out.data other.data

/-- Packets that come for a packet without a request for a rate are the same. -/
theorem AgreeButForRate.eq {out other : Packet}
    (agree : gate.AgreeButForRate nodeId packet out other)
    (unrated : packet.asksRate gate.readAt = false) : out = other := by
  rcases out with ⟨data, metadata⟩
  rcases agree with ⟨rfl, rfl | ⟨block, carried, rated, -⟩⟩
  · rfl
  · rw [Packet.asksRate, carried, Option.any_some, rated] at unrated
    contradiction

theorem agreeButForRate_forward (gate : Gate) (counters : Counters) (nodeId : UInt8) (now : Nat)
    (packet : Packet) :
    gate.AgreeButForRate nodeId packet (gate.forward nodeId now packet)
      ((gate.recount counters).forward nodeId now packet) := by
  have plain := gate.forward_eq nodeId now packet
  have recounted := (gate.recount counters).forward_eq nodeId now packet
  cases carried : Block.at? packet.data gate.readAt with
  | none =>
      have recarried : Block.at? packet.data (gate.recount counters).readAt = none := carried
      rw [carried] at plain
      rw [recarried] at recounted
      rw [plain, recounted]
      exact ⟨rfl, Or.inl rfl⟩
  | some block =>
      have recarried : Block.at? packet.data (gate.recount counters).readAt = some block :=
        carried
      rw [carried] at plain
      rw [recarried] at recounted
      dsimp only at plain recounted
      rcases gate.stamp_recount counters nodeId packet.metadata.openRecord now block with
        same | ⟨rated, room, -, -, opened, agree⟩
      · rw [same] at recounted
        rw [plain, recounted]
        exact ⟨rfl, Or.inl rfl⟩
      · rw [opened] at recounted
        rw [plain, recounted]
        exact ⟨rfl, Or.inr ⟨block, carried, rated, room,
          agreeOutside_relocate carried agree⟩⟩

/-- What a gate hands to its postcards does not depend on its counts. -/
theorem stampPacket_recount (gate : Gate) (counters : Counters) (nodeId : UInt8) (now : Nat)
    (packet : Packet) :
    let stamped := Forwarder.stampPacket gate nodeId now packet
    let recounted := Forwarder.stampPacket (gate.recount counters) nodeId now packet
    (stamped.report = none ∧ recounted.report = none) ∨
      (recounted.report = stamped.report ∧ recounted.packet.data = stamped.packet.data) := by
  cases carried : Block.at? packet.data gate.readAt with
  | none =>
      have recarried : Block.at? packet.data (gate.recount counters).readAt = none := carried
      rw [stampPacket_of_absent carried, stampPacket_of_absent recarried]
      exact Or.inl ⟨rfl, rfl⟩
  | some block =>
      have recarried : Block.at? packet.data (gate.recount counters).readAt = some block :=
        carried
      rw [stampPacket_eq carried, stampPacket_eq recarried]
      rcases gate.stamp_recount counters nodeId packet.metadata.openRecord now block with
        same | ⟨-, -, unreported, silent, -, -⟩
      · rw [same]
        exact Or.inr ⟨rfl, rfl⟩
      · exact Or.inl ⟨silent, unreported⟩

end Gate

namespace Forwarder

/-! ## A batch in two parts -/

/-- A stretch of work on packets and another one behind it. -/
def Passage.andThen (first later : Passage) : Passage where
  forwarder := later.forwarder
  batch := first.batch ++ later.batch
  postcards := first.postcards + later.postcards
  evicted := first.evicted + later.evicted
  postcardsDropped := first.postcardsDropped + later.postcardsDropped

theorem passBatch_append (forwarder : Forwarder) (gate : Gate) (now : Nat) (early late : Batch) :
    forwarder.passBatch gate now (early ++ late) =
      (forwarder.passBatch gate now early).andThen
        ((forwarder.passBatch gate now early).forwarder.passBatch gate now late) := by
  induction early generalizing forwarder with
  | nil => simp only [List.nil_append, passBatch, Passage.andThen, Nat.zero_add]
  | cons packet rest ih =>
      simp only [List.cons_append, passBatch, ih, Passage.andThen, List.append_assoc,
        Nat.add_assoc]

/-- Two stretches of work queue the same postcards and count them alike.  Their forwarders
differ in their gates only. -/
structure Passage.QueuesAlike (passage other : Passage) (gates : GateTable) : Prop where
  forwarder_eq : other.forwarder = { passage.forwarder with gates }
  postcards_eq : other.postcards = passage.postcards
  evicted_eq : other.evicted = passage.evicted
  postcardsDropped_eq : other.postcardsDropped = passage.postcardsDropped

theorem offerPostcard_recount (forwarder : Forwarder) (gates : GateTable) (gate : Gate)
    (counters : Counters) (record : HopRecord) (data : Bytes) (now : Nat) :
    { forwarder with gates }.offerPostcard (gate.recount counters) record data now =
      ((forwarder.offerPostcard gate record data now).1,
        { (forwarder.offerPostcard gate record data now).2 with gates }) := by
  have header : { forwarder with gates }.postcardHeader (gate.recount counters) record now =
      forwarder.postcardHeader gate record now := rfl
  have captured : (gate.recount counters).capture data = gate.capture data := rfl
  rw [offerPostcard, offerPostcard, header, captured]
  dsimp only
  split
  · rfl
  · split <;> rfl

theorem passPacket_recount (forwarder : Forwarder) (gates : GateTable) (gate : Gate)
    (counters : Counters) (now : Nat) (packet : Packet) :
    (forwarder.passPacket gate now packet).QueuesAlike
      ({ forwarder with gates }.passPacket (gate.recount counters) now packet) gates := by
  rw [passPacket, passPacket]
  dsimp only
  rcases gate.stampPacket_recount counters forwarder.nodeId now packet with
    ⟨silent, unreported⟩ | ⟨reported, captured⟩
  · rw [silent, unreported]
    exact ⟨rfl, rfl, rfl, rfl⟩
  · rw [reported, captured]
    cases (stampPacket gate forwarder.nodeId now packet).report with
    | none => exact ⟨rfl, rfl, rfl, rfl⟩
    | some record =>
        dsimp only
        rw [offerPostcard_recount]
        cases (forwarder.offerPostcard gate record _ now).1 with
        | accepted evicted => exact ⟨rfl, rfl, rfl, rfl⟩
        | dropped evicted => exact ⟨rfl, rfl, rfl, rfl⟩

theorem passBatch_recount (forwarder : Forwarder) (gates : GateTable) (gate : Gate)
    (counters : Counters) (now : Nat) (batch : Batch) :
    (forwarder.passBatch gate now batch).QueuesAlike
      ({ forwarder with gates }.passBatch (gate.recount counters) now batch) gates := by
  induction batch generalizing forwarder with
  | nil => exact ⟨rfl, rfl, rfl, rfl⟩
  | cons packet rest ih =>
      rcases passPacket_recount forwarder gates gate counters now packet with
        ⟨same, postcards, evicted, dropped⟩
      rcases ih (forwarder.passPacket gate now packet).forwarder with
        ⟨sameLater, postcardsLater, evictedLater, droppedLater⟩
      rw [← same] at sameLater postcardsLater evictedLater droppedLater
      rw [passBatch, passBatch]
      exact ⟨sameLater, congrArg₂ (· + ·) postcards postcardsLater,
        congrArg₂ (· + ·) evicted evictedLater, congrArg₂ (· + ·) dropped droppedLater⟩

/-- A batch leaves its gate with other counts and everything else as its packets have left
it. -/
theorem process_recount {forwarder : Forwarder} {id : GateId} {gate : Gate}
    (registered : forwarder.gates.find? id = some gate) (batch : Batch) (now : Nat) :
    ∃ gates counters,
      (forwarder.process id batch now).2 =
          { (forwarder.passBatch gate now batch).forwarder with gates } ∧
        gates.find? id = some (gate.recount counters) := by
  rcases forwarder.forwarder_passBatch gate now batch with ⟨ring, nextSequence, passed⟩
  rw [process, registered]
  refine ⟨_, gate.counters.account batch.length
    (forwarder.passBatch gate now batch).batch.totalBytes now, rfl, ?_⟩
  rw [passed, GateTable.find?_modify, if_pos rfl, registered]
  rfl

/-- The outcome of a batch on a registered gate is that of its packets. -/
theorem process_accounts {forwarder : Forwarder} {id : GateId} {gate : Gate}
    (registered : forwarder.gates.find? id = some gate) (batch : Batch) (now : Nat) :
    let result := forwarder.process id batch now
    let passage := forwarder.passBatch gate now batch
    result.2.ring = passage.forwarder.ring ∧
      result.2.nextSequence = passage.forwarder.nextSequence ∧
      result.1.postcards = passage.postcards ∧ result.1.evicted = passage.evicted ∧
      result.1.postcardsDropped = passage.postcardsDropped := by
  rw [process, registered]
  exact ⟨rfl, rfl, rfl, rfl, rfl⟩

section Split

variable {forwarder : Forwarder} {id : GateId} {gate : Gate}
  (registered : forwarder.gates.find? id = some gate) (early late : Batch) (now : Nat)

include registered

theorem accounts_process_split :
    let whole := forwarder.process id (early ++ late) now
    let first := forwarder.process id early now
    let second := first.2.process id late now
    whole.2.ring = second.2.ring ∧ whole.2.nextSequence = second.2.nextSequence ∧
      whole.1.postcards = first.1.postcards + second.1.postcards ∧
      whole.1.evicted = first.1.evicted + second.1.evicted ∧
      whole.1.postcardsDropped = first.1.postcardsDropped + second.1.postcardsDropped := by
  rcases process_recount registered early now with ⟨gates, counters, between, counted⟩
  generalize behind : (forwarder.passBatch gate now early).forwarder = later at between
  have recounted : { later with gates }.gates.find? id = some (gate.recount counters) := counted
  rcases process_accounts registered (early ++ late) now with
    ⟨ring, number, postcards, evicted, dropped⟩
  rcases process_accounts registered early now with
    ⟨-, -, firstPostcards, firstEvicted, firstDropped⟩
  rcases process_accounts recounted late now with
    ⟨laterRing, laterNumber, laterPostcards, laterEvicted, laterDropped⟩
  rcases later.passBatch_recount gates gate counters now late with
    ⟨same, samePostcards, sameEvicted, sameDropped⟩
  rw [passBatch_append, behind] at ring number postcards evicted dropped
  dsimp only
  rw [between, ring, number, postcards, evicted, dropped, firstPostcards, firstEvicted,
    firstDropped, laterRing, laterNumber, laterPostcards, laterEvicted, laterDropped, same,
    samePostcards, sameEvicted, sameDropped]
  exact ⟨rfl, rfl, rfl, rfl, rfl⟩

theorem batch_process_split :
    let whole := forwarder.process id (early ++ late) now
    let first := forwarder.process id early now
    let second := first.2.process id late now
    ∃ counters,
      whole.1.batch = first.1.batch ++ late.map (gate.forward forwarder.nodeId now) ∧
        second.1.batch = late.map ((gate.recount counters).forward forwarder.nodeId now) := by
  rcases process_recount registered early now with ⟨gates, counters, between, counted⟩
  refine ⟨counters, ?_, ?_⟩
  · rw [process_batch registered, process_batch registered, List.map_append]
  · rcases forwarder.forwarder_passBatch gate now early with ⟨ring, nextSequence, passed⟩
    rw [between, passed]
    exact process_batch counted late now

end Split

/-- A batch that comes on a registered gate in two parts, at one time, leaves the same ring
and the same next number behind as the whole batch, and the outcomes of the parts add up
to that of the whole.  The packets that come out are the same, unless a packet of the
second part has a block at the read position that asks for a rate.  Even such a packet
comes out with the same notes, and with the same bytes outside the value of the record
that the gate writes. -/
theorem process_split {forwarder : Forwarder} {id : GateId} {gate : Gate}
    (registered : forwarder.gates.find? id = some gate) (early late : Batch) (now : Nat) :
    let whole := forwarder.process id (early ++ late) now
    let first := forwarder.process id early now
    let second := first.2.process id late now
    whole.2.ring = second.2.ring ∧ whole.2.nextSequence = second.2.nextSequence ∧
      whole.1.postcards = first.1.postcards + second.1.postcards ∧
      whole.1.evicted = first.1.evicted + second.1.evicted ∧
      whole.1.postcardsDropped = first.1.postcardsDropped + second.1.postcardsDropped ∧
      ((∀ packet ∈ late, packet.asksRate gate.readAt = false) →
        whole.1.batch = first.1.batch ++ second.1.batch) ∧
      ∃ tail : Batch, whole.1.batch = first.1.batch ++ tail ∧ tail.length = late.length ∧
        second.1.batch.length = late.length ∧
        ∀ (index : Nat) (packet out other : Packet), late[index]? = some packet →
          tail[index]? = some out → second.1.batch[index]? = some other →
          gate.AgreeButForRate forwarder.nodeId packet out other := by
  intro whole first second
  rcases accounts_process_split registered early late now with
    ⟨ring, number, postcards, evicted, dropped⟩
  rcases batch_process_split registered early late now with ⟨counters, wholeBatch, secondBatch⟩
  refine ⟨ring, number, postcards, evicted, dropped, ?_, _, wholeBatch, List.length_map .., ?_, ?_⟩
  · intro unrated
    rw [wholeBatch, secondBatch]
    congr 1
    apply List.map_congr_left
    intro packet member
    exact (gate.agreeButForRate_forward counters forwarder.nodeId now packet).eq
      (unrated packet member)
  · rw [secondBatch, List.length_map]
  · intro index packet out other found outFound otherFound
    rw [secondBatch] at otherFound
    rw [List.getElem?_map, found] at outFound otherFound
    cases outFound
    cases otherFound
    exact gate.agreeButForRate_forward counters forwarder.nodeId now packet

/-- A forwarder with one gate, whose ring has room for two postcards without a body. -/
def crowded (gate : Gate) : Forwarder where
  nodeId := 7
  maxPostcardSize := 11
  gates := .only gate
  ring := .withCapacity 22

/-- A packet that is nothing but a block without records. -/
def bare (header : Header) : Packet where
  data := (Block.fresh header).bytes

/-- Three packets ask the forwarder for a postcard. -/
theorem evicted_crowded :
    ((crowded (.plain .egress 6 0 0)).process 0 (List.replicate 3 (bare .exporting)) 5).1.evicted =
      1 := by
  decide

theorem process_split_crowded :
    let forwarder := crowded (.plain .egress 6 0 0)
    let whole := forwarder.process 0 (List.replicate 3 (bare .exporting)) 5
    let first := forwarder.process 0 [bare .exporting] 5
    let second := first.2.process 0 [bare .exporting, bare .exporting] 5
    whole.1.evicted = 1 ∧ whole.2.ring = second.2.ring ∧
      whole.1.evicted = first.1.evicted + second.1.evicted := by
  have registered : (crowded (.plain .egress 6 0 0)).gates.find? 0 =
      some (.plain .egress 6 0 0) := rfl
  have accounts := process_split registered [bare .exporting] [bare .exporting, bare .exporting] 5
  exact ⟨evicted_crowded, accounts.1, accounts.2.2.2.1⟩

-- a packet that asks for the rate of an ingress gate is told of the batches before its own
example :
    let forwarder := crowded (.plain .ingress 6 0 0)
    let packet := bare (.request .ingressPacketRate)
    (forwarder.process 0 [packet, packet] 5).1.batch[1]? ≠
      ((forwarder.process 0 [packet] 5).2.process 0 [packet] 5).1.batch[0]? := by
  decide

end Forwarder

end InbandTelemetry
