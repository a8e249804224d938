import Mathlib.Algebra.GroupWithZero.Nat
import Mathlib.Order.Bounds.Basic
import InbandTelemetry.Forwarder
import InbandTelemetry.Proofs.RingQueue

namespace InbandTelemetry

/-!
# Emissions through any source of packets

Postcards leave the ring in two ways.  A drain hands them out one by one, and an emission
moves them into packets that it has to ask for.  An emission ends when it may move no
more, when nothing is queued, or when a packet is refused; the postcard that it has asked
for then stays queued.  So what it does is known from one number, that of the packets
that are granted in a row, and with packets for all it does what a drain does.
-/

/-! ## What a drain has still to hand out -/

namespace Ring

/-- The entries that successive pulls of a drain hand out, up to the first pull that finds
none, and the drain that is left. -/
inductive Drain.Yields : Drain → List Bytes → Drain → Prop where
  | done {drain : Drain} : drain.next? = none → Yields drain [] drain
  | pulled {drain later last : Drain} {entry : Bytes} {entries : List Bytes} :
      drain.next? = some (entry, later) → Yields later entries last →
      Yields drain (entry :: entries) last

/-- A drain yields the oldest entries, as many as it may remove, and the others stay queued. -/
theorem Drain.exists_yields (drain : Drain) :
    ∃ last, drain.Yields (drain.ring.toList.take drain.remaining) last ∧
      last.ring =
        { drain.ring with queue := drain.ring.queue.drop drain.remaining } := by
  rcases drain with ⟨⟨store, queue⟩, remaining⟩
  induction remaining generalizing queue with
  | zero => exact ⟨_, .done rfl, rfl⟩
  | succ remaining ih =>
      cases queue with
      | nil => exact ⟨_, .done rfl, rfl⟩
      | cons oldest rest =>
          rcases ih rest with ⟨last, yielded, left⟩
          exact ⟨last, .pulled rfl yielded, left⟩

theorem Drain.length_of_sizeHint (drain : Drain) :
    drain.sizeHint = (drain.ring.toList.take drain.remaining).length := by
  rw [sizeHint, size, List.length_take, length_toList]

end Ring

theorem Batch.totalBytes_append (batch rest : Batch) :
    Batch.totalBytes (batch ++ rest) = batch.totalBytes + rest.totalBytes := by
  induction batch with
  | nil => exact (Nat.zero_add _).symm
  | cons packet others ih =>
      rw [List.cons_append, Batch.totalBytes, Batch.totalBytes, ih, Nat.add_assoc]

namespace Forwarder

/-! ## Packets that are granted in a row -/

namespace Allocator

variable {σ : Type} (allocate : Allocator σ)

/-- Whether packets of all these sizes are granted, asked for one after the other. -/
def grantsAll : List Nat → σ → Bool
  | [], _ => true
  | size :: rest, allocator =>
      (allocate size allocator).1 && grantsAll rest (allocate size allocator).2

/-- The source after packets of these sizes have been asked for. -/
def afterAsking (sizes : List Nat) (allocator : σ) : σ :=
  sizes.foldl (fun allocator size => (allocate size allocator).2) allocator

/-- The number of packets that are granted before the first one is refused. -/
def granted : List Nat → σ → Nat
  | [], _ => 0
  | size :: rest, allocator =>
      if (allocate size allocator).1 then granted rest (allocate size allocator).2 + 1 else 0

theorem granted_le (sizes : List Nat) (allocator : σ) :
    allocate.granted sizes allocator ≤ sizes.length := by
  induction sizes generalizing allocator with
  | nil => exact Nat.le_refl 0
  | cons size rest ih =>
      rw [granted]
      split
      · exact Nat.succ_le_succ (ih _)
      · exact Nat.zero_le _

/-- It is the greatest number of packets that are all granted. -/
theorem isGreatest_granted (sizes : List Nat) (allocator : σ) :
    IsGreatest {count | count ≤ sizes.length ∧
      allocate.grantsAll (sizes.take count) allocator = true}
      (allocate.granted sizes allocator) := by
  induction sizes generalizing allocator with
  | nil => exact ⟨⟨Nat.le_refl 0, rfl⟩, fun _ member => member.1⟩
  | cons size rest ih =>
      rw [granted]
      cases answer : (allocate size allocator).1 with
      | false =>
          refine ⟨⟨Nat.zero_le _, rfl⟩, ?_⟩
          rintro (_ | count) ⟨-, all⟩
          · exact Nat.le_refl 0
          · rw [List.take_succ_cons, grantsAll, answer, Bool.false_and] at all
            contradiction
      | true =>
          rcases ih (allocate size allocator).2 with ⟨⟨bounded, all⟩, greatest⟩
          refine ⟨⟨Nat.succ_le_succ bounded, ?_⟩, ?_⟩
          · rw [if_pos rfl, List.take_succ_cons, grantsAll, answer, Bool.true_and, all]
          · rintro (_ | count) ⟨short, everyOne⟩
            · exact Nat.zero_le _
            · rw [List.take_succ_cons, grantsAll, answer, Bool.true_and] at everyOne
              exact Nat.succ_le_succ (greatest ⟨Nat.le_of_succ_le_succ short, everyOne⟩)

theorem granted_unlimited (sizes : List Nat) :
    unlimited.granted sizes () = sizes.length := by
  induction sizes with
  | nil => rfl
  | cons size rest ih =>
      rw [granted, List.length_cons]
      exact congrArg (· + 1) ih

end Allocator

/-! ## What an emission does -/

/-- The state of a forwarder when its oldest postcards have left. -/
def afterLosing (forwarder : Forwarder) (count : Nat) : Forwarder :=
  { forwarder with
    ring := { forwarder.ring with queue := forwarder.ring.queue.drop count } }

theorem toList_afterLosing (forwarder : Forwarder) (count : Nat) :
    (forwarder.afterLosing count).ring.toList = forwarder.ring.toList.drop count :=
  forwarder.ring.toList_drop count

/-- The packets that the oldest postcards are moved into. -/
def oldestPackets (forwarder : Forwarder) (count : Nat) : Batch :=
  (forwarder.ring.toList.take count).map fun entry => { data := entry }

theorem data_oldestPackets (forwarder : Forwarder) (count : Nat) :
    (forwarder.oldestPackets count).map Packet.data = forwarder.ring.toList.take count := by
  rw [oldestPackets, List.map_map]
  exact List.map_id _

theorem totalBytes_oldestPackets (forwarder : Forwarder) (count : Nat) :
    (forwarder.oldestPackets count).totalBytes =
      ((forwarder.ring.toList.take count).map List.length).sum := by
  rw [oldestPackets]
  induction forwarder.ring.toList.take count with
  | nil => rfl
  | cons entry rest ih =>
      rw [List.map_cons, List.map_cons, List.sum_cons, Batch.totalBytes, ih]

theorem length_oldestPackets (forwarder : Forwarder) (count : Nat) :
    (forwarder.oldestPackets count).length = min count forwarder.ring.size := by
  rw [oldestPackets, List.length_map, List.length_take, Ring.length_toList]
  rfl

/-- The sizes of the packets that an emission asks for, as long as they are granted. -/
def wantedSizes (forwarder : Forwarder) (limit : Nat) : List Nat :=
  (forwarder.ring.toList.take limit).map List.length

theorem length_wantedSizes (forwarder : Forwarder) (limit : Nat) :
    (forwarder.wantedSizes limit).length = min limit forwarder.ring.size := by
  rw [wantedSizes, List.length_map, List.length_take, Ring.length_toList]
  rfl

/-- An emission moves the postcards for which packets are granted in a row, oldest first.  It
has asked for a packet for each of them, and for one more if that was refused. -/
theorem emitPostcards_eq {σ : Type} (forwarder : Forwarder) (allocate : Allocator σ)
    (allocator : σ) (limit : Nat) :
    let count := allocate.granted (forwarder.wantedSizes limit) allocator
    forwarder.emitPostcards allocate allocator limit =
      { forwarder := forwarder.afterLosing count
        allocator := allocate.afterAsking ((forwarder.wantedSizes limit).take (count + 1)) allocator
        batch := forwarder.oldestPackets count } := by
  induction limit generalizing forwarder allocator with
  | zero => rfl
  | succ limit ih =>
      rcases forwarder with ⟨nodeId, maxPostcardSize, gates, ⟨store, queue⟩, nextSequence⟩
      cases queue with
      | nil => rfl
      | cons oldest rest =>
          let entry := Ring.read ⟨store, oldest :: rest⟩ oldest
          let later : Forwarder := ⟨nodeId, maxPostcardSize, gates, ⟨store, rest⟩, nextSequence⟩
          have wanted : wantedSizes ⟨nodeId, maxPostcardSize, gates, ⟨store, oldest :: rest⟩,
              nextSequence⟩ (limit + 1) = entry.length :: later.wantedSizes limit := rfl
          have asked : ∀ sizes, allocate.afterAsking (entry.length :: sizes) allocator =
              allocate.afterAsking sizes (allocate entry.length allocator).2 := fun _ => rfl
          rw [wanted, emitPostcards, Allocator.granted]
          dsimp only [Ring.front?, List.head?_cons, Option.map_some, Ring.popFront]
          rw [List.take_succ_cons, asked]
          rcases answer : allocate entry.length allocator with ⟨_ | _, next⟩
          · rfl
          · rw [if_pos rfl]
            dsimp only
            rw [ih]
            rfl

theorem granted_le_size {σ : Type} (forwarder : Forwarder) (allocate : Allocator σ)
    (allocator : σ) (limit : Nat) :
    allocate.granted (forwarder.wantedSizes limit) allocator ≤ forwarder.ring.size := by
  have bounded := allocate.granted_le (forwarder.wantedSizes limit) allocator
  rw [length_wantedSizes] at bounded
  exact bounded.trans (Nat.min_le_right _ _)

/-- Emitted packets hold the oldest entries, in order, and the others stay queued. -/
theorem emitPostcards_spec {σ : Type} (forwarder : Forwarder) (allocate : Allocator σ)
    (allocator : σ) (limit : Nat) :
    let emission := forwarder.emitPostcards allocate allocator limit
    emission.batch.length ≤ forwarder.ring.toList.length ∧
      emission.batch.map Packet.data = forwarder.ring.toList.take emission.batch.length ∧
      emission.forwarder =
        { forwarder with
          ring := { forwarder.ring with
            queue := forwarder.ring.queue.drop emission.batch.length } } := by
  have bounded := forwarder.granted_le_size allocate allocator limit
  rw [emitPostcards_eq]
  dsimp only
  rw [length_oldestPackets, Nat.min_eq_left bounded, Ring.length_toList, data_oldestPackets]
  exact ⟨bounded, rfl, rfl⟩

theorem take_wantedSizes (forwarder : Forwarder) (limit count : Nat) :
    (forwarder.wantedSizes limit).take count = forwarder.wantedSizes (min limit count) := by
  rw [wantedSizes, wantedSizes, ← List.map_take, List.take_take, Nat.min_comm]

/-- The number of the postcards that an emission moves is bounded by its limit, by the ring
and by the first refusal, and by nothing else. -/
theorem isGreatest_moved {σ : Type} (forwarder : Forwarder) (allocate : Allocator σ)
    (allocator : σ) (limit : Nat) :
    IsGreatest {count | count ≤ limit ∧ count ≤ forwarder.ring.toList.length ∧
      allocate.grantsAll ((forwarder.ring.toList.take count).map List.length) allocator = true}
      (allocate.granted (forwarder.wantedSizes limit) allocator) := by
  have member : ∀ count, count ≤ (forwarder.wantedSizes limit).length ∧
      allocate.grantsAll ((forwarder.wantedSizes limit).take count) allocator = true ↔
      count ≤ limit ∧ count ≤ forwarder.ring.toList.length ∧
        allocate.grantsAll ((forwarder.ring.toList.take count).map List.length) allocator =
          true := by
    intro count
    rw [length_wantedSizes, take_wantedSizes, Ring.length_toList, Nat.le_min, and_assoc]
    refine and_congr_right fun allowed => ?_
    rw [Nat.min_eq_right allowed]
    rfl
  rcases allocate.isGreatest_granted (forwarder.wantedSizes limit) allocator with
    ⟨granted, greatest⟩
  exact ⟨(member _).mp granted, fun count moved => greatest ((member count).mpr moved)⟩

/-- With packets for all of them, an emission moves as many postcards as it may. -/
theorem emitPostcards_unlimited (forwarder : Forwarder) (limit : Nat) :
    forwarder.emitPostcards .unlimited () limit =
      { forwarder := forwarder.afterLosing limit
        allocator := ()
        batch := forwarder.oldestPackets limit } := by
  have left : forwarder.afterLosing (min limit forwarder.ring.size) =
      forwarder.afterLosing limit := by
    have dropped : forwarder.ring.queue.drop (min limit forwarder.ring.size) =
        forwarder.ring.queue.drop limit :=
      List.drop_eq_drop_iff.mpr (by rw [Ring.size]; omega)
    rw [afterLosing, dropped]
    rfl
  have moved : forwarder.oldestPackets (min limit forwarder.ring.size) =
      forwarder.oldestPackets limit := by
    have taken : forwarder.ring.toList.take (min limit forwarder.ring.size) =
        forwarder.ring.toList.take limit :=
      List.take_eq_take_iff.mpr (by rw [Ring.length_toList, Ring.size]; omega)
    rw [oldestPackets, taken]
    rfl
  rw [emitPostcards_eq, Allocator.granted_unlimited, length_wantedSizes, left, moved]

theorem afterLosing_afterLosing (forwarder : Forwarder) (early late : Nat) :
    (forwarder.afterLosing early).afterLosing late = forwarder.afterLosing (early + late) := by
  rw [afterLosing, afterLosing, afterLosing]
  dsimp only
  rw [List.drop_drop]

theorem oldestPackets_add (forwarder : Forwarder) (early late : Nat) :
    forwarder.oldestPackets (early + late) =
      forwarder.oldestPackets early ++ (forwarder.afterLosing early).oldestPackets late := by
  rw [oldestPackets, oldestPackets, oldestPackets, toList_afterLosing, List.take_add,
    List.map_append]

/-- Whatever the source of packets, an emission moves the oldest postcards, each into a packet
of its own.  There are as many as it may move, as are queued and as packets are granted in
a row; the others stay queued as they are, and the source has been asked once for each
packet, and once more if it refused.  With packets for all, it hands out what a drain
hands out, and two emissions do what one with both their limits does.  What a drain
announces, at any time, is the number of the entries that it has still to hand out. -/
theorem oldest_emitted {σ : Type} (forwarder : Forwarder) (allocate : Allocator σ)
    (allocator : σ) (limit : Nat) :
    let queued := forwarder.ring.toList
    let emission := forwarder.emitPostcards allocate allocator limit
    (∃ count,
      IsGreatest {count | count ≤ limit ∧ count ≤ queued.length ∧
        allocate.grantsAll ((queued.take count).map List.length) allocator = true} count ∧
      emission.batch = (queued.take count).map (fun entry => { data := entry }) ∧
      emission.forwarder = { forwarder with
        ring := { forwarder.ring with queue := forwarder.ring.queue.drop count } } ∧
      emission.forwarder.ring.toList = queued.drop count ∧
      emission.allocator = allocate.afterAsking
        ((queued.take (min limit (count + 1))).map List.length) allocator ∧
      emission.packets.toNat = count % 2 ^ 32 ∧
      emission.bits = 8 * ((queued.take count).map List.length).sum ∧
      (emission.isBlocked = true ↔ count = 0)) ∧
    (let whole := forwarder.emitPostcards .unlimited () limit
      ∃ last, (forwarder.ring.drain limit).Yields (whole.batch.map Packet.data) last ∧
        whole.forwarder = { forwarder with ring := last.ring }) ∧
    (∀ early late,
      let first := forwarder.emitPostcards .unlimited () early
      let second := first.forwarder.emitPostcards .unlimited () late
      let whole := forwarder.emitPostcards .unlimited () (early + late)
      first.batch ++ second.batch = whole.batch ∧ second.forwarder = whole.forwarder ∧
        first.packets + second.packets = whole.packets ∧
        first.bits + second.bits = whole.bits ∧
        (first.isBlocked && second.isBlocked) = whole.isBlocked) ∧
    ∀ pulls,
      let drain := ((forwarder.ring.drain limit).pull pulls).2
      ∃ entries last, drain.Yields entries last ∧ drain.sizeHint = entries.length := by
  refine ⟨?_, ?_, ?_, ?_⟩
  · rw [emitPostcards_eq]
    have bounded := forwarder.granted_le_size allocate allocator limit
    have greatest := forwarder.isGreatest_moved allocate allocator limit
    generalize allocate.granted (forwarder.wantedSizes limit) allocator = count at bounded greatest
    refine ⟨count, greatest, rfl, rfl, forwarder.toList_afterLosing count, ?_, ?_, ?_, ?_⟩
    · dsimp only
      rw [take_wantedSizes]
      rfl
    · rw [Emission.packets, UInt32.toNat_ofNat', length_oldestPackets, Nat.min_eq_left bounded]
    · rw [Emission.bits, Nat.mul_comm, totalBytes_oldestPackets]
    · rw [Emission.isBlocked, List.isEmpty_iff_length_eq_zero, length_oldestPackets,
        Nat.min_eq_left bounded]
  · rcases (forwarder.ring.drain limit).exists_yields with ⟨last, yielded, left⟩
    rw [emitPostcards_unlimited]
    dsimp only
    rw [data_oldestPackets]
    exact ⟨last, yielded, congrArg (fun ring => { forwarder with ring }) left.symm⟩
  · intro early late
    simp only [emitPostcards_unlimited]
    dsimp only [Emission.packets, Emission.bits, Emission.isBlocked]
    rw [afterLosing_afterLosing, oldestPackets_add, List.length_append, UInt32.ofNat_add,
      Batch.totalBytes_append, Nat.add_mul]
    refine ⟨rfl, rfl, rfl, rfl, ?_⟩
    rw [Bool.eq_iff_iff, Bool.and_eq_true, List.isEmpty_iff, List.isEmpty_iff, List.isEmpty_iff,
      List.append_eq_nil_iff]
  · intro pulls drain
    rcases drain.exists_yields with ⟨last, yielded, -⟩
    exact ⟨_, last, yielded, drain.length_of_sizeHint⟩

end Forwarder

end InbandTelemetry
