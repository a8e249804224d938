import Mathlib.Data.List.Basic
import InbandTelemetry.Proofs.RingHistories

namespace InbandTelemetry

/-!
# The layout of a ring in its store

A ring stores only where its entries lie.  Whether they wrap round the end of the
store is not stored: it is read off from the two outer offsets, the start of the
oldest entry and the stop of the newest one.  This module says what arrangement
of the entries makes that reading right, and that every history of a ring leads
to such an arrangement.

The older entries lie side by side up to some offset inside the store, and the
newer ones lie side by side from offset zero on, below the older ones.  An entry
that gives way is always the first of the older ones; once they are used up, the
newer ones become the older ones.
-/

/-! ## Stretches side by side -/

/-- Nonempty stretches that fill the offsets from one up to another, each of them
beginning where the one before it ends. -/
inductive Tiles : Nat → List Span → Nat → Prop where
  | nil {offset : Nat} : Tiles offset [] offset
  | cons {start middle stop : Nat} {rest : List Span} (nonempty : start < middle)
      (later : Tiles middle rest stop) : Tiles start (⟨start, middle⟩ :: rest) stop

namespace Tiles

variable {start middle stop : Nat} {spans : List Span}

theorem append_span (tiles : Tiles start spans middle) (nonempty : middle < stop) :
    Tiles start (spans ++ [⟨middle, stop⟩]) stop := by
  induction tiles with
  | nil => exact .cons nonempty .nil
  | cons first _ ih => exact .cons first (ih nonempty)

theorem le (tiles : Tiles start spans stop) : start ≤ stop := by
  induction tiles with
  | nil => exact Nat.le_refl _
  | cons first _ ih => exact Nat.le_trans (Nat.le_of_lt first) ih

theorem bounds (tiles : Tiles start spans stop) :
    ∀ span ∈ spans, start ≤ span.start ∧ span.start < span.stop ∧ span.stop ≤ stop := by
  induction tiles with
  | nil =>
      intro span impossible
      cases impossible
  | cons first later ih =>
      intro span member
      rcases List.mem_cons.mp member with rfl | behind
      · exact ⟨Nat.le_refl _, first, later.le⟩
      · rcases ih span behind with ⟨after, nonempty, inside⟩
        exact ⟨Nat.le_trans (Nat.le_of_lt first) after, nonempty, inside⟩

theorem start_of_head? (tiles : Tiles start spans stop) :
    ∀ first ∈ spans.head?, first.start = start := by
  intro first found
  cases tiles with
  | nil => cases found
  | cons _ _ =>
      cases found
      rfl

theorem stop_of_getLast? (tiles : Tiles start spans stop) :
    ∀ last ∈ spans.getLast?, last.stop = stop := by
  induction tiles with
  | nil =>
      intro last impossible
      cases impossible
  | cons first later ih =>
      intro last found
      cases later with
      | nil =>
          cases found
          rfl
      | cons nonempty later => exact ih last (by rwa [List.getLast?_cons_cons] at found)

theorem lt_of_ne_nil (tiles : Tiles start spans stop) (nonempty : spans ≠ []) :
    start < stop := by
  cases tiles with
  | nil => contradiction
  | cons first later => exact Nat.lt_of_lt_of_le first later.le

theorem adjacent (tiles : Tiles start spans stop) :
    spans.IsChain fun left right => left.stop = right.start := by
  induction tiles with
  | nil => exact .nil
  | cons first later ih =>
      cases later with
      | nil => exact .singleton _
      | cons second later => exact .cons_cons rfl ih

theorem ordered (tiles : Tiles start spans stop) :
    spans.Pairwise fun left right => left.stop ≤ right.start := by
  induction tiles with
  | nil => exact .nil
  | cons first later ih => exact .cons (fun span behind => (later.bounds span behind).1) ih

/-- The stretches have as many bytes as they fill offsets. -/
theorem total (tiles : Tiles start spans stop) (others : Nat) :
    start + spans.foldr (fun span total => span.length + total) others = stop + others := by
  induction tiles with
  | nil => rfl
  | cons first later ih =>
      rw [List.foldr_cons, Span.length]
      dsimp only
      omega

end Tiles

/-! ## The arrangement of a queue -/

/-- The queue lies well in a store: the `older` entries fill the offsets from `head`
to `turn`, and the `newer` ones fill those from zero to `tail`, below the older
ones.  There are newer entries only as long as there are older ones. -/
structure Arranged (capacity : Nat) (older newer : List Span) (head turn tail : Nat) : Prop where
  older_tiles : Tiles head older turn
  newer_tiles : Tiles 0 newer tail
  inside : turn ≤ capacity
  below : tail ≤ head
  older_first : older = [] → newer = []

/-- The queue can be split into older and newer entries that lie well. -/
def LaidOut (capacity : Nat) (queue : List Span) : Prop :=
  ∃ older newer head turn tail,
    queue = older ++ newer ∧ Arranged capacity older newer head turn tail

namespace LaidOut

variable {capacity : Nat} {queue : List Span}

theorem nil : LaidOut capacity [] :=
  ⟨[], [], 0, 0, 0, rfl, .nil, .nil, Nat.zero_le _, Nat.le_refl 0, fun _ => rfl⟩

/-- If the oldest entry gives way, the others still lie well.  If it was the last
of the older ones, the newer ones are from now on the older ones. -/
theorem tail {oldest : Span} (laid : LaidOut capacity (oldest :: queue)) :
    LaidOut capacity queue := by
  rcases laid with ⟨older, newer, head, turn, tail, split, arranged⟩
  cases arranged.older_tiles with
  | nil =>
      rw [arranged.older_first rfl] at split
      contradiction
  | @cons _ middle _ rest first later =>
      rcases List.cons.inj split with ⟨rfl, rfl⟩
      have turned : middle ≤ turn := later.le
      have above : tail ≤ middle := Nat.le_trans arranged.below (Nat.le_of_lt first)
      have within : tail ≤ capacity := Nat.le_trans above (Nat.le_trans turned arranged.inside)
      cases rest with
      | nil =>
          refine ⟨newer, [], 0, tail, 0, (List.append_nil newer).symm, ?_⟩
          exact ⟨arranged.newer_tiles, .nil, within, Nat.le_refl 0, fun _ => rfl⟩
      | cons second rest =>
          refine ⟨second :: rest, newer, middle, turn, tail, rfl, ?_⟩
          exact ⟨later, arranged.newer_tiles, arranged.inside, above, fun impossible => by
            contradiction⟩

theorem drop (laid : LaidOut capacity queue) (count : Nat) :
    LaidOut capacity (queue.drop count) := by
  induction count generalizing queue with
  | zero => exact laid
  | succ count ih =>
      cases queue with
      | nil => exact laid
      | cons oldest rest => exact ih laid.tail

end LaidOut

/-! ## The reading of the two outer offsets -/

namespace Arranged

variable {capacity length head turn tail : Nat} {older newer : List Span}

theorem oldest_start (arranged : Arranged capacity older newer head turn tail) :
    ∀ oldest ∈ (older ++ newer).head?, oldest.start = head := by
  intro oldest found
  cases older with
  | nil =>
      rw [arranged.older_first rfl] at found
      cases found
  | cons first rest => exact arranged.older_tiles.start_of_head? oldest found

theorem newest_stop (arranged : Arranged capacity older newer head turn tail) :
    ∀ newest ∈ (older ++ newer).getLast?, newest.stop = if newer = [] then turn else tail := by
  intro newest found
  by_cases unwrapped : newer = []
  · rw [if_pos unwrapped]
    rw [unwrapped, List.append_nil] at found
    exact arranged.older_tiles.stop_of_getLast? newest found
  · rw [if_neg unwrapped]
    rw [List.getLast?_append_of_ne_nil older unwrapped] at found
    exact arranged.newer_tiles.stop_of_getLast? newest found

/-- The test on the two outer offsets tells whether the queue wraps round. -/
theorem test_iff (arranged : Arranged capacity older newer head turn tail)
    {oldest newest : Span} (first : oldest ∈ (older ++ newer).head?)
    (last : newest ∈ (older ++ newer).getLast?) :
    oldest.start < newest.stop ↔ newer = [] := by
  have start := arranged.oldest_start oldest first
  have stop := arranged.newest_stop newest last
  by_cases unwrapped : newer = []
  · rw [if_pos unwrapped] at stop
    have used : older ≠ [] := by
      rintro rfl
      rw [unwrapped] at first
      cases first
    have filled := arranged.older_tiles.lt_of_ne_nil used
    exact ⟨fun _ => unwrapped, fun _ => by omega⟩
  · rw [if_neg unwrapped] at stop
    have below := arranged.below
    exact ⟨fun passed => by omega, fun impossible => absurd impossible unwrapped⟩

/-- Where a queue that is not empty leaves room for an entry: behind the newest
entry and before the oldest one, or between the two if the queue wraps round. -/
theorem placement?_eq (arranged : Arranged capacity older newer head turn tail)
    (used : older ≠ []) (length : Nat) :
    Ring.placement? capacity length (older ++ newer) =
      if newer = [] then
        if length ≤ capacity - turn then some turn else if length ≤ head then some 0 else none
      else if length ≤ head - tail then some tail
      else none := by
  have waiting : older ++ newer ≠ [] := List.append_ne_nil_of_left_ne_nil used newer
  rcases Option.isSome_iff_exists.mp (List.isSome_head?.mpr waiting) with ⟨oldest, first⟩
  rcases Option.isSome_iff_exists.mp (List.getLast?_isSome.mpr waiting) with ⟨newest, last⟩
  have start := arranged.oldest_start oldest first
  have stop := arranged.newest_stop newest last
  have test := arranged.test_iff first last
  rw [Ring.placement?, first, last]
  by_cases unwrapped : newer = []
  · have passed := test.mpr unwrapped
    rw [if_pos unwrapped] at stop ⊢
    simp only [if_pos passed]
    rw [start, stop]
  · have failed : ¬ oldest.start < newest.stop := fun passed => unwrapped (test.mp passed)
    rw [if_neg unwrapped] at stop ⊢
    simp only [if_neg failed]
    rw [start, stop]

end Arranged

/-- What an entry needs of its place: the slot lies in the store, touches no queued
entry, and the queue still lies well when the entry is appended. -/
structure Fits (capacity length start : Nat) (queue : List Span) : Prop where
  inside : start + length ≤ capacity
  apart : ∀ span ∈ queue, span.stop ≤ start ∨ start + length ≤ span.start
  laid : LaidOut capacity (queue ++ [⟨start, start + length⟩])

/-- The place that is found for an entry is one that the entry fits in. -/
theorem LaidOut.fits {capacity length start : Nat} {queue : List Span}
    (laid : LaidOut capacity queue) (nonempty : 0 < length)
    (found : Ring.placement? capacity length queue = some start) :
    Fits capacity length start queue := by
  rcases laid with ⟨older, newer, head, turn, tail, rfl, arranged⟩
  have olderBounds := arranged.older_tiles.bounds
  have newerBounds := arranged.newer_tiles.bounds
  have inside := arranged.inside
  have below := arranged.below
  by_cases used : older = []
  · have unwrapped := arranged.older_first used
    subst used unwrapped
    change (if length ≤ capacity then some 0 else none) = some start at found
    split at found
    · cases found
      refine ⟨by omega, ?_, ?_⟩
      · intro span impossible
        cases impossible
      · exact ⟨[⟨0, 0 + length⟩], [], 0, 0 + length, 0, rfl, .cons (by omega) .nil, .nil,
          by omega, Nat.le_refl 0, fun _ => rfl⟩
    · contradiction
  · have filled := arranged.older_tiles.lt_of_ne_nil used
    rw [arranged.placement?_eq used] at found
    by_cases unwrapped : newer = []
    · subst unwrapped
      rw [if_pos rfl] at found
      split at found
      · -- the entry goes behind the newest one and becomes one of the older ones
        cases found
        refine ⟨by omega, ?_, ?_⟩
        · intro span member
          rw [List.append_nil] at member
          exact Or.inl (olderBounds span member).2.2
        · refine ⟨older ++ [⟨start, start + length⟩], [], head, start + length, 0, ?_, ?_⟩
          · rw [List.append_nil, List.append_nil]
          · exact ⟨arranged.older_tiles.append_span (by omega), .nil, by omega, Nat.zero_le _,
              fun _ => rfl⟩
      · split at found
        · -- the entry is the first to go before the oldest one
          cases found
          refine ⟨by omega, ?_, ?_⟩
          · intro span member
            rw [List.append_nil] at member
            have behind := (olderBounds span member).1
            exact Or.inr (by omega)
          · refine ⟨older, [⟨0, 0 + length⟩], head, turn, 0 + length, ?_, ?_⟩
            · rw [List.append_nil]
            · exact ⟨arranged.older_tiles, .cons (by omega) .nil, inside, by omega,
                fun impossible => absurd impossible used⟩
        · contradiction
    · rw [if_neg unwrapped] at found
      split at found
      · -- the entry goes behind the newer ones, below the older ones
        cases found
        refine ⟨by omega, ?_, ?_⟩
        · intro span member
          rcases List.mem_append.mp member with old | new
          · have behind := (olderBounds span old).1
            exact Or.inr (by omega)
          · exact Or.inl (newerBounds span new).2.2
        · refine ⟨older, newer ++ [⟨start, start + length⟩], head, turn, start + length, ?_, ?_⟩
          · rw [List.append_assoc]
          · exact ⟨arranged.older_tiles, arranged.newer_tiles.append_span (by omega), inside,
              by omega, fun impossible => absurd impossible used⟩
      · contradiction

/-! ## Every history keeps the layout -/

namespace Ring

/-- The entries of a ring lie well in its store. -/
def IsLaidOut (ring : Ring) : Prop := LaidOut ring.capacity ring.queue

theorem isLaidOut_withCapacity (capacity : Nat) : (withCapacity capacity).IsLaidOut :=
  LaidOut.nil

theorem isLaidOut_drop {ring : Ring} (laid : ring.IsLaidOut) (count : Nat) :
    ({ ring with queue := ring.queue.drop count } : Ring).IsLaidOut :=
  LaidOut.drop laid count

theorem isLaidOut_offerWith {ring : Ring} (laid : ring.IsLaidOut) (length : Nat)
    (fill : Vector UInt8 length → Vector UInt8 length) :
    (ring.offerWith length fill).2.IsLaidOut := by
  rcases ring.offerWith_cases length fill with
    ⟨-, dropped⟩ | ⟨-, dropped⟩ | ⟨evicted, start, nonempty, -, -, found, accepted⟩
  · rw [dropped]
    exact laid
  · rw [dropped]
    exact LaidOut.nil
  · rw [accepted, IsLaidOut, capacity, size_put]
    exact ((isLaidOut_drop laid evicted).fits nonempty found).laid

theorem isLaidOut_act {ring : Ring} (laid : ring.IsLaidOut) (action : Action) :
    (ring.act action).2.IsLaidOut := by
  cases action with
  | offer entry => exact isLaidOut_offerWith laid _ _
  | offerWith length fill => exact isLaidOut_offerWith laid length fill
  | popFront =>
      rw [act, popFront_eq]
      exact isLaidOut_drop laid 1
  | clear => exact LaidOut.nil
  | drain limit pulls =>
      rw [act, pull_ring]
      exact isLaidOut_drop laid _

theorem isLaidOut_after {ring : Ring} (laid : ring.IsLaidOut) (history : List Action) :
    (ring.after history).IsLaidOut := by
  induction history generalizing ring with
  | nil => exact laid
  | cons action later ih => exact ih (isLaidOut_act laid action)

theorem Reachable.isLaidOut {ring : Ring} (reachable : ring.Reachable) : ring.IsLaidOut := by
  rcases reachable with ⟨capacity, history, rfl⟩
  exact isLaidOut_after (isLaidOut_withCapacity capacity) history

theorem capacity_offerWith (ring : Ring) (length : Nat)
    (fill : Vector UInt8 length → Vector UInt8 length) :
    (ring.offerWith length fill).2.capacity = ring.capacity := by
  rcases ring.offerWith_cases length fill with
    ⟨-, dropped⟩ | ⟨-, dropped⟩ | ⟨_, _, -, -, -, -, accepted⟩
  · rw [dropped]
  · rw [dropped]
    rfl
  · rw [accepted]
    exact size_put _ _ _

theorem capacity_act (ring : Ring) (action : Action) :
    (ring.act action).2.capacity = ring.capacity := by
  cases action with
  | offer entry => exact capacity_offerWith ring _ _
  | offerWith length fill => exact capacity_offerWith ring length fill
  | popFront =>
      rw [act, popFront_eq]
      rfl
  | clear => rfl
  | drain limit pulls =>
      rw [act, pull_ring]
      rfl

theorem capacity_after (ring : Ring) (history : List Action) :
    (ring.after history).capacity = ring.capacity := by
  induction history generalizing ring with
  | nil => rfl
  | cons action later ih => exact (ih (ring.act action).2).trans (capacity_act ring action)

end Ring

/-! ## What the layout guarantees -/

/-- Stretches that have no offset in common. -/
def Span.Apart (left right : Span) : Prop := left.stop ≤ right.start ∨ right.stop ≤ left.start

/-- Older and newer entries in a store: none is empty or leaves the store, each begins
where the one before it ends, and the newer ones go from offset zero up to at
most the start of the older ones. -/
structure Wrapping (capacity : Nat) (older newer : List Span) : Prop where
  nonempty : ∀ span ∈ older ++ newer, span.start < span.stop
  inside : ∀ span ∈ older ++ newer, span.stop ≤ capacity
  older_adjacent : older.IsChain fun left right => left.stop = right.start
  newer_adjacent : newer.IsChain fun left right => left.stop = right.start
  newer_from_zero : ∀ first ∈ newer.head?, first.start = 0
  newer_below : ∀ last ∈ newer.getLast?, ∃ first ∈ older.head?, last.stop ≤ first.start

namespace Ring

/-- What the operations on a ring rely on.  The entries lie apart and inside the
store, the test on the two outer offsets tells whether they wrap round, and the
differences and slots that are computed from them exist. -/
structure Sound (ring : Ring) : Prop where
  wrapping : ∃ older newer, ring.queue = older ++ newer ∧ Wrapping ring.capacity older newer ∧
    ∀ oldest ∈ ring.queue.head?, ∀ newest ∈ ring.queue.getLast?,
      (oldest.start < newest.stop ↔ newer = [])
  apart : ring.queue.Pairwise Span.Apart
  used_le : ring.used ≤ ring.capacity
  /-- The room behind the newest entry. -/
  newest_inside : ∀ newest ∈ ring.queue.getLast?, newest.stop ≤ ring.capacity
  /-- The room between the newest and the oldest entry, where the test fails. -/
  newest_below : ∀ oldest ∈ ring.queue.head?, ∀ newest ∈ ring.queue.getLast?,
    ¬ oldest.start < newest.stop → newest.stop ≤ oldest.start
  /-- The slot of a new entry. -/
  slot_inside : ∀ length start, 0 < length →
    placement? ring.capacity length ring.queue = some start → start + length ≤ ring.capacity

end Ring

theorem Arranged.wrapping {capacity head turn tail : Nat} {older newer : List Span}
    (arranged : Arranged capacity older newer head turn tail) :
    Wrapping capacity older newer := by
  have olderBounds := arranged.older_tiles.bounds
  have newerBounds := arranged.newer_tiles.bounds
  have headBelow := arranged.older_tiles.le
  have inside := arranged.inside
  have below := arranged.below
  refine ⟨?_, ?_, arranged.older_tiles.adjacent, arranged.newer_tiles.adjacent,
    arranged.newer_tiles.start_of_head?, ?_⟩
  · intro span member
    rcases List.mem_append.mp member with old | new
    · exact (olderBounds span old).2.1
    · exact (newerBounds span new).2.1
  · intro span member
    rcases List.mem_append.mp member with old | new
    · exact Nat.le_trans (olderBounds span old).2.2 inside
    · have small := (newerBounds span new).2.2
      omega
  · intro last found
    cases older with
    | nil =>
        rw [arranged.older_first rfl] at found
        cases found
    | cons first rest =>
        have start := arranged.older_tiles.start_of_head? first rfl
        have stop := arranged.newer_tiles.stop_of_getLast? last found
        exact ⟨first, rfl, by omega⟩

theorem Arranged.apart {capacity head turn tail : Nat} {older newer : List Span}
    (arranged : Arranged capacity older newer head turn tail) :
    (older ++ newer).Pairwise Span.Apart := by
  have below := arranged.below
  refine List.pairwise_append.mpr ⟨?_, ?_, ?_⟩
  · exact arranged.older_tiles.ordered.imp Or.inl
  · exact arranged.newer_tiles.ordered.imp Or.inl
  · intro old oldMember new newMember
    have behind := (arranged.older_tiles.bounds old oldMember).1
    have before := (arranged.newer_tiles.bounds new newMember).2.2
    exact Or.inr (by omega)

theorem Arranged.total_le {capacity head turn tail : Nat} {older newer : List Span}
    (arranged : Arranged capacity older newer head turn tail) :
    (older ++ newer).foldr (fun span total => span.length + total) 0 ≤ capacity := by
  have newerTotal := arranged.newer_tiles.total 0
  have olderTotal := arranged.older_tiles.total
    (newer.foldr (fun span total => span.length + total) 0)
  have inside := arranged.inside
  have below := arranged.below
  rw [List.foldr_append]
  omega

namespace Ring

theorem IsLaidOut.sound {ring : Ring} (laid : ring.IsLaidOut) : ring.Sound := by
  rcases id laid with ⟨older, newer, head, turn, tail, split, arranged⟩
  have wrapping := arranged.wrapping
  refine ⟨⟨older, newer, split, wrapping, ?_⟩, ?_, ?_, ?_, ?_, ?_⟩
  · rw [split]
    exact fun oldest first newest last => arranged.test_iff first last
  · rw [split]
    exact arranged.apart
  · rw [used, split]
    exact arranged.total_le
  · rw [split]
    exact fun newest last => wrapping.inside newest (List.mem_of_getLast? last)
  · exact fun _ _ _ _ failed => Nat.le_of_not_lt failed
  · exact fun length start nonempty found => (LaidOut.fits laid nonempty found).inside

/-- Whatever is done to an empty ring, it keeps the size of its store, and its entries
lie well: in the ring as it is, and also after any number of evictions inside an
offer.  The slot that an offer writes lies in the store. -/
theorem sound_after (capacity : Nat) (history : List Action) (evictions : Nat) :
    let ring := (withCapacity capacity).after history
    ring.capacity = capacity ∧
      ({ ring with queue := ring.queue.drop evictions } : Ring).Sound ∧
      ∀ length start, 0 < length → (makeRoom capacity length ring.queue).place = some start →
        start + length ≤ capacity := by
  intro ring
  have laid : ring.IsLaidOut := isLaidOut_after (isLaidOut_withCapacity capacity) history
  have size : ring.capacity = capacity := by
    rw [capacity_after, Ring.capacity, withCapacity, Array.size_replicate]
  refine ⟨size, (isLaidOut_drop laid evictions).sound, ?_⟩
  intro length start nonempty found
  rcases makeRoom_eq capacity length ring.queue with ⟨evicted, -, made, -, -⟩
  rw [made] at found
  have remaining : LaidOut capacity (ring.queue.drop evicted) :=
    size ▸ LaidOut.drop laid evicted
  exact (remaining.fits nonempty found).inside

end Ring

end InbandTelemetry
