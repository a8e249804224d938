import InbandTelemetry.Proofs.Emissions
import InbandTelemetry.Proofs.GateTables
import InbandTelemetry.Proofs.Postcards

namespace InbandTelemetry

/-!
# What becomes of the postcards of a node

A forwarder is configured, processes batches and emits queued postcards, in any
order.  Whatever a call does to the ring is a turnover: some postcards come, with
consecutive numbers, and some of the oldest ones leave.  Turnovers compose, so
that the accounts of a whole run are the accounts of its calls.
-/

open Telemetry

/-- The number of the postcard that a string holds. -/
def Postcard.number? (raw : Bytes) : Option UInt32 :=
  (Postcard.decode raw).toOption.map fun postcard => postcard.header.sequence

theorem Postcard.number?_encode (header : Postcard.Header) (body : Bytes) :
    Postcard.number? (header.encode ++ body) = some header.sequence := by
  rw [Postcard.number?, Postcard.decode, header.decode_encode]
  rfl

/-- Whether a packet carries a block at a position, and the block asks for postcards. -/
def Packet.isFlagged (packet : Packet) (position : Nat) : Bool :=
  (Block.at? packet.data position).any fun block => block.header.postcard

namespace Gate

/-- A gate reports a hop if it is an egress gate and the block asks for postcards. -/
theorem isSome_report_stamp (gate : Gate) (nodeId : UInt8) (openRecord : Option Nat) (now : Nat)
    (block : Block) :
    (gate.stamp nodeId openRecord now block).report.isSome =
      (block.header.postcard && gate.isEgress) := by
  rw [report_stamp, Gate.exports]
  split
  · rename_i exported
    exact exported.symm
  · rename_i kept
    exact (eq_false_of_ne_true kept).symm

/-- Whether a postcard is to be queued when a packet passes a gate. -/
def asks (gate : Gate) (packet : Packet) : Bool :=
  gate.isEgress && packet.isFlagged gate.readAt

theorem isSome_report_stampPacket (gate : Gate) (nodeId : UInt8) (now : Nat) (packet : Packet) :
    (Forwarder.stampPacket gate nodeId now packet).report.isSome = gate.asks packet := by
  cases carried : Block.at? packet.data gate.readAt with
  | none =>
      rw [stampPacket_of_absent carried, asks, Packet.isFlagged, carried, Option.any_none,
        Bool.and_false]
      rfl
  | some block =>
      rw [stampPacket_eq carried, asks, Packet.isFlagged, carried, Option.any_some, Bool.and_comm]
      exact gate.isSome_report_stamp nodeId _ now block

end Gate

namespace Forwarder

/-! ## Turnovers of the ring -/

/-- Between two states of a forwarder the ring accepts some entries, with consecutive
numbers, and loses some of the oldest ones. -/
structure Turnover (forwarder later : Forwarder) (accepted : List Bytes) (gone : Nat) : Prop where
  laid : later.ring.IsLaidOut
  bounded : gone ≤ (forwarder.ring.toList ++ accepted).length
  queued : later.ring.toList = (forwarder.ring.toList ++ accepted).drop gone
  counted : later.nextSequence = forwarder.nextSequence + UInt32.ofNat accepted.length
  numbered : accepted.map Postcard.number? =
    (List.range accepted.length).map fun index =>
      some (forwarder.nextSequence + UInt32.ofNat index)

namespace Turnover

variable {forwarder later last : Forwarder} {accepted added : List Bytes} {gone lost : Nat}

/-- Nothing comes, and some of the oldest entries leave. -/
theorem of_drop (laid : later.ring.IsLaidOut) (bounded : gone ≤ forwarder.ring.toList.length)
    (queued : later.ring.toList = forwarder.ring.toList.drop gone)
    (counted : later.nextSequence = forwarder.nextSequence) :
    Turnover forwarder later [] gone := by
  refine ⟨laid, ?_, ?_, ?_, rfl⟩
  · rwa [List.append_nil]
  · rwa [List.append_nil]
  · rw [counted]
    exact (UInt32.add_zero _).symm

theorem of_clear (forwarder : Forwarder) :
    Turnover forwarder { forwarder with ring := forwarder.ring.clear } [] forwarder.ring.size := by
  have all : forwarder.ring.size = forwarder.ring.toList.length :=
    forwarder.ring.length_toList.symm
  refine of_drop LaidOut.nil (Nat.le_of_eq all) ?_ rfl
  rw [all, List.drop_length]
  rfl

/-- Some of the oldest entries leave, then one comes. -/
theorem of_append {raw : Bytes} (laid : later.ring.IsLaidOut)
    (bounded : gone ≤ forwarder.ring.toList.length)
    (queued : later.ring.toList = forwarder.ring.toList.drop gone ++ [raw])
    (counted : later.nextSequence = forwarder.nextSequence + 1)
    (numbered : Postcard.number? raw = some forwarder.nextSequence) :
    Turnover forwarder later [raw] gone := by
  refine ⟨laid, ?_, ?_, counted, ?_⟩
  · rw [List.length_append]
    omega
  · rw [queued, List.drop_append_of_le_length bounded]
  · rw [List.map_singleton, numbered, List.length_singleton, List.range_one, List.map_singleton]
    exact congrArg (fun number => [some number]) (UInt32.add_zero _).symm

theorem refl (laid : forwarder.ring.IsLaidOut) : Turnover forwarder forwarder [] 0 :=
  of_drop laid (Nat.zero_le _) rfl rfl

theorem trans (first : Turnover forwarder later accepted gone)
    (second : Turnover later last added lost) :
    Turnover forwarder last (accepted ++ added) (gone + lost) := by
  have bounded := second.bounded
  rw [first.queued, List.length_append, List.length_drop, List.length_append] at bounded
  have enough := first.bounded
  rw [List.length_append] at enough
  refine ⟨second.laid, ?_, ?_, ?_, ?_⟩
  · simp only [List.length_append]
    omega
  · rw [second.queued, first.queued, ← List.drop_append_of_le_length first.bounded,
      List.drop_drop, List.append_assoc]
  · rw [second.counted, first.counted, List.length_append, UInt32.ofNat_add, UInt32.add_assoc]
  · rw [List.map_append, first.numbered, second.numbered, List.length_append, List.range_add,
      List.map_append, List.map_map, first.counted]
    congr 1
    apply List.map_congr_left
    intro index _
    rw [Function.comp_apply, UInt32.ofNat_add, UInt32.add_assoc]

/-- A forwarder that has numbered no postcard yet numbers them from zero on. -/
theorem numbered_of_zero (turnover : Turnover forwarder later accepted gone)
    (first : forwarder.nextSequence = 0) :
    accepted.map Postcard.number? =
      ((List.range accepted.length).map UInt32.ofNat).map some := by
  rw [turnover.numbered, first, List.map_map]
  apply List.map_congr_left
  intro index _
  exact congrArg some (UInt32.zero_add _)

/-- The gates have no part in a turnover. -/
theorem with_gates (turnover : Turnover forwarder later accepted gone) (gates : GateTable) :
    Turnover forwarder { later with gates } accepted gone :=
  ⟨turnover.laid, turnover.bounded, turnover.queued, turnover.counted, turnover.numbered⟩

/-! ### From an empty ring on -/

section Empty

variable (turnover : Turnover forwarder later accepted gone)

include turnover

/-- What has come into an empty ring has left it or is still there. -/
theorem accepted_eq (empty : forwarder.ring.toList = []) :
    accepted.length = gone + later.ring.size := by
  have bounded := turnover.bounded
  have queued := turnover.queued
  rw [empty, List.nil_append] at bounded queued
  rw [Ring.size, ← Ring.length_toList, queued, List.length_drop]
  omega

/-- The ring holds what it has accepted last. -/
theorem toList_eq (empty : forwarder.ring.toList = []) :
    later.ring.toList = accepted.drop (accepted.length - later.ring.size) := by
  rw [turnover.accepted_eq empty, Nat.add_sub_cancel, turnover.queued, empty, List.nil_append]

/-- The numbers in the ring are consecutive and end in front of the next one. -/
theorem numbers_eq (empty : forwarder.ring.toList = []) :
    later.ring.toList.map Postcard.number? =
      (List.range later.ring.size).map fun index =>
        some (later.nextSequence - UInt32.ofNat (later.ring.size - index)) := by
  have total := turnover.accepted_eq empty
  rw [turnover.toList_eq empty, List.map_drop, turnover.numbered]
  apply List.ext_getElem
  · simp only [List.length_drop, List.length_map, List.length_range]
    omega
  · intro index _ inside
    rw [List.length_map, List.length_range] at inside
    have place : accepted.length - later.ring.size + index =
        accepted.length - (later.ring.size - index) := by
      omega
    simp only [List.getElem_drop, List.getElem_map, List.getElem_range]
    rw [place, UInt32.ofNat_sub (by omega), turnover.counted, UInt32.sub_eq_add_neg,
      UInt32.sub_eq_add_neg, UInt32.add_assoc]

end Empty

end Turnover

/-! ## Packets and batches -/

/-- The postcard that a packet leaves in the ring when it passes a gate, if any. -/
def queuedBy (forwarder : Forwarder) (gate : Gate) (now : Nat) (packet : Packet) : List Bytes :=
  let stamped := stampPacket gate forwarder.nodeId now packet
  match stamped.report with
  | none => []
  | some record =>
      if (forwarder.offerPostcard gate record stamped.packet.data now).1.isAccepted then
        [forwarder.entry gate record stamped.packet.data now]
      else
        []

/-- What a stretch of work on packets counts agrees with what it does to the ring, and
every packet that asks for a postcard is counted. -/
structure Passage.Balanced (passage : Passage) (forwarder : Forwarder) (accepted : List Bytes)
    (asking : Nat) : Prop where
  turnover : Turnover forwarder passage.forwarder accepted passage.evicted
  postcards : passage.postcards = accepted.length
  settled : passage.postcards + passage.postcardsDropped = asking

theorem balanced_passPacket {forwarder : Forwarder} (laid : forwarder.ring.IsLaidOut)
    (gate : Gate) (now : Nat) (packet : Packet) :
    (forwarder.passPacket gate now packet).Balanced forwarder
      (forwarder.queuedBy gate now packet) (if gate.asks packet then 1 else 0) := by
  rw [← gate.isSome_report_stampPacket forwarder.nodeId now packet, passPacket, queuedBy]
  dsimp only
  cases (stampPacket gate forwarder.nodeId now packet).report with
  | none => exact ⟨.refl laid, rfl, rfl⟩
  | some record =>
      generalize (stampPacket gate forwarder.nodeId now packet).packet.data = data
      dsimp only
      rcases offerPostcard_cases laid gate record data now with
        ⟨-, dropped⟩ | ⟨-, -, dropped⟩ | ⟨-, -, evicted, ring, accepted, kept, bounded, queued⟩
      · rw [dropped]
        exact ⟨.refl laid, rfl, rfl⟩
      · rw [dropped]
        have turnover : Turnover forwarder { forwarder with ring := forwarder.ring.clear } []
            (0 + forwarder.ring.size) := by
          rw [Nat.zero_add]
          exact .of_clear forwarder
        exact ⟨turnover, rfl, rfl⟩
      · rw [accepted]
        have turnover : Turnover forwarder
            { forwarder with ring, nextSequence := forwarder.nextSequence + 1 }
            [forwarder.entry gate record data now] (0 + evicted) := by
          rw [Nat.zero_add]
          exact .of_append kept bounded queued rfl (Postcard.number?_encode _ _)
        exact ⟨turnover, rfl, rfl⟩

/-- The postcards that the packets of a batch leave in the ring, in order. -/
def queuedByBatch (forwarder : Forwarder) (gate : Gate) (now : Nat) : Batch → List Bytes
  | [] => []
  | packet :: rest =>
      forwarder.queuedBy gate now packet ++
        (forwarder.passPacket gate now packet).forwarder.queuedByBatch gate now rest

theorem balanced_passBatch {forwarder : Forwarder} (laid : forwarder.ring.IsLaidOut)
    (gate : Gate) (now : Nat) (batch : Batch) :
    (forwarder.passBatch gate now batch).Balanced forwarder
      (forwarder.queuedByBatch gate now batch) (batch.countP gate.asks) := by
  induction batch generalizing forwarder with
  | nil => exact ⟨.refl laid, rfl, rfl⟩
  | cons packet rest ih =>
      have first := balanced_passPacket laid gate now packet
      have later := ih first.turnover.laid
      rw [passBatch, queuedByBatch, List.countP_cons]
      refine ⟨first.turnover.trans later.turnover, ?_, ?_⟩
      · rw [List.length_append, ← first.postcards, ← later.postcards]
      · rw [← first.settled, ← later.settled]
        dsimp only
        omega

/-! ## Calls -/

/-- The postcards that a batch leaves in the ring when it is processed. -/
def queuedOn (forwarder : Forwarder) (id : GateId) (batch : Batch) (now : Nat) : List Bytes :=
  match forwarder.gates.find? id with
  | none => []
  | some gate => forwarder.queuedByBatch gate now batch

/-- The number of packets of a batch that ask for a postcard: the packets with a flagged
block at the read position of an egress gate. -/
def asking (forwarder : Forwarder) (id : GateId) (batch : Batch) : Nat :=
  match forwarder.gates.find? id with
  | none => 0
  | some gate => if gate.isEgress then batch.countP (·.isFlagged gate.readAt) else 0

theorem countP_asks (gate : Gate) (batch : Batch) :
    batch.countP gate.asks =
      if gate.isEgress then batch.countP (·.isFlagged gate.readAt) else 0 := by
  cases leaves : gate.isEgress with
  | true =>
      apply List.countP_congr
      intro packet _
      rw [Gate.asks, leaves, Bool.true_and]
  | false =>
      rw [if_neg Bool.false_ne_true, List.countP_eq_zero]
      intro packet _
      rw [Gate.asks, leaves, Bool.false_and]
      exact Bool.false_ne_true

/-- The accounts of one batch: the postcards that came into the ring and the older ones
that left, and every packet that asked for a postcard. -/
theorem process_postcards {forwarder : Forwarder} (laid : forwarder.ring.IsLaidOut) (id : GateId)
    (batch : Batch) (now : Nat) :
    let result := forwarder.process id batch now
    Turnover forwarder result.2 (forwarder.queuedOn id batch now) result.1.evicted ∧
      result.1.postcards = (forwarder.queuedOn id batch now).length ∧
      result.1.postcards + result.1.postcardsDropped = forwarder.asking id batch := by
  rw [process, queuedOn, asking]
  cases forwarder.gates.find? id with
  | none => exact ⟨.refl laid, rfl, rfl⟩
  | some gate =>
      have balanced := balanced_passBatch laid gate now batch
      rw [countP_asks] at balanced
      exact ⟨balanced.turnover.with_gates _, balanced.postcards, balanced.settled⟩

/-- An emission is a turnover in which only entries leave, one for every packet. -/
theorem turnover_emitPostcards {σ : Type} {forwarder : Forwarder}
    (laid : forwarder.ring.IsLaidOut) (allocate : Allocator σ) (allocator : σ) (limit : Nat) :
    Turnover forwarder (forwarder.emitPostcards allocate allocator limit).forwarder []
      (forwarder.emitPostcards allocate allocator limit).batch.length := by
  rcases forwarder.emitPostcards_spec allocate allocator limit with ⟨bounded, -, left⟩
  rw [left]
  exact .of_drop (Ring.isLaidOut_drop laid _) bounded (Ring.toList_drop _ _) rfl

/-! ## Runs -/

/-- What can be done to a forwarder.  Registration and configuration leave some table of
gates behind, and here it may be any table.  Every emission brings its own source of
packets. -/
inductive Call : Type 1 where
  | configure (gates : GateTable)
  | process (id : GateId) (batch : Batch) (now : Nat)
  | emit {σ : Type} (allocate : Allocator σ) (allocator : σ) (limit : Nat)

/-- A forwarder, and what has become of its postcards so far. -/
structure Ledger where
  forwarder : Forwarder
  /-- The entries that the ring has accepted, the first one first. -/
  accepted : List Bytes := []
  /-- The sum of what the outcomes count as queued. -/
  postcards : Nat := 0
  /-- The sum of what the outcomes count as evicted. -/
  evicted : Nat := 0
  /-- The number of packets that emissions have made of entries. -/
  emitted : Nat := 0

namespace Ledger

/-- Enter a call. -/
def enter (ledger : Ledger) : Call → Ledger
  | .configure gates => { ledger with forwarder := { ledger.forwarder with gates } }
  | .process id batch now =>
      let (outcome, forwarder) := ledger.forwarder.process id batch now
      { ledger with
        forwarder
        accepted := ledger.accepted ++ ledger.forwarder.queuedOn id batch now
        postcards := ledger.postcards + outcome.postcards
        evicted := ledger.evicted + outcome.evicted }
  | .emit allocate allocator limit =>
      let emission := ledger.forwarder.emitPostcards allocate allocator limit
      { ledger with
        forwarder := emission.forwarder
        emitted := ledger.emitted + emission.batch.length }

/-- The ledger of a run, the first call first. -/
def after (ledger : Ledger) (calls : List Call) : Ledger := calls.foldl enter ledger

/-- The accounts of a run agree with what has become of the ring. -/
structure Balanced (start : Forwarder) (ledger : Ledger) : Prop where
  turnover : Turnover start ledger.forwarder ledger.accepted (ledger.evicted + ledger.emitted)
  postcards : ledger.postcards = ledger.accepted.length

theorem Balanced.enter {start : Forwarder} {ledger : Ledger} (balanced : Balanced start ledger)
    (call : Call) : Balanced start (ledger.enter call) := by
  have laid := balanced.turnover.laid
  cases call with
  | configure gates => exact ⟨balanced.turnover.with_gates gates, balanced.postcards⟩
  | process id batch now =>
      rcases process_postcards laid id batch now with ⟨turnover, counted, -⟩
      have whole := balanced.turnover.trans turnover
      rw [Nat.add_right_comm] at whole
      refine ⟨whole, ?_⟩
      rw [Ledger.enter]
      dsimp only
      rw [List.length_append, balanced.postcards, counted]
  | emit allocate allocator limit =>
      have whole := balanced.turnover.trans (turnover_emitPostcards laid allocate allocator limit)
      rw [List.append_nil, Nat.add_assoc] at whole
      exact ⟨whole, balanced.postcards⟩

theorem Balanced.after {start : Forwarder} {ledger : Ledger} (balanced : Balanced start ledger)
    (calls : List Call) : Balanced start (ledger.after calls) := by
  induction calls generalizing ledger with
  | nil => exact balanced
  | cons call later ih => exact ih (balanced.enter call)

end Ledger

/-- A forwarder that has not been called yet. -/
def unused (nodeId : UInt8) (maxPostcardSize capacity : Nat) : Forwarder :=
  { nodeId, maxPostcardSize, ring := .withCapacity capacity }

/-- The ledger of a run from an unused forwarder. -/
def ledger (nodeId : UInt8) (maxPostcardSize capacity : Nat) (calls : List Call) : Ledger :=
  Ledger.after { forwarder := unused nodeId maxPostcardSize capacity } calls

theorem balanced_ledger (nodeId : UInt8) (maxPostcardSize capacity : Nat) (calls : List Call) :
    Ledger.Balanced (unused nodeId maxPostcardSize capacity)
      (ledger nodeId maxPostcardSize capacity calls) :=
  Ledger.Balanced.after ⟨.refl (Ring.isLaidOut_withCapacity capacity), rfl⟩ calls

/-- At every point of every run from an unused forwarder, the next number is that of the
accepted postcards, modulo two to the power of 32.  The ring holds the postcards that
were accepted last, with consecutive numbers that end in front of the next one.  A
postcard that was queued has been evicted, has been emitted or is in the ring.  A
batch that comes next settles one postcard for every packet that asks for one. -/
theorem postcards_settled (nodeId : UInt8) (maxPostcardSize capacity : Nat) (calls : List Call) :
    let ledger := ledger nodeId maxPostcardSize capacity calls
    let forwarder := ledger.forwarder
    forwarder.nextSequence = UInt32.ofNat ledger.accepted.length ∧
      forwarder.ring.size ≤ ledger.accepted.length ∧
      forwarder.ring.toList =
        ledger.accepted.drop (ledger.accepted.length - forwarder.ring.size) ∧
      forwarder.ring.toList.map Postcard.number? =
        (List.range forwarder.ring.size).map (fun index =>
          some (forwarder.nextSequence - UInt32.ofNat (forwarder.ring.size - index))) ∧
      ledger.postcards = ledger.accepted.length ∧
      ledger.postcards = ledger.evicted + ledger.emitted + forwarder.ring.size ∧
      ∀ id batch now,
        (forwarder.process id batch now).1.postcards +
            (forwarder.process id batch now).1.postcardsDropped =
          forwarder.asking id batch := by
  intro ledger forwarder
  have balanced := balanced_ledger nodeId maxPostcardSize capacity calls
  have total : ledger.accepted.length =
      ledger.evicted + ledger.emitted + forwarder.ring.size :=
    balanced.turnover.accepted_eq rfl
  refine ⟨?_, ?_, balanced.turnover.toList_eq rfl, balanced.turnover.numbers_eq rfl,
    balanced.postcards, balanced.postcards.trans total, ?_⟩
  · exact balanced.turnover.counted.trans (UInt32.zero_add _)
  · rw [total]
    exact Nat.le_add_left _ _
  · intro id batch now
    exact (process_postcards balanced.turnover.laid id batch now).2.2

-- three postcards of eleven bytes come into a ring that has room for two
example :
    let ledger := ledger 7 11 22
      [.configure (.only (.plain .egress 6 0 0)),
        .process 0 (List.replicate 3 { data := (Block.fresh .exporting).bytes }) 0,
        .emit .unlimited () 1]
    ledger.postcards = 3 ∧ ledger.evicted = 1 ∧ ledger.emitted = 1 ∧
      ledger.forwarder.ring.toList.map Postcard.number? = [some 2] := by
  decide

end Forwarder

end InbandTelemetry
