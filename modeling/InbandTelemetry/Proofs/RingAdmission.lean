import Mathlib.Algebra.GroupWithZero.Nat
import Mathlib.Order.Bounds.Defs
import InbandTelemetry.Proofs.RingLayout

namespace InbandTelemetry

/-!
# Which entries give way

An offer looks for a place by the two outer offsets of the queue alone, and each
entry that gives way may change what these offsets say.  Here the room that a queue
leaves is described without them: as slots that lie in the store and touch no queued
entry.  A queue that lies well leaves room in this sense just where a place is found.
Room does not go away when entries do, so the number of entries that give way is the
least one that will do.
-/

/-! ## Free slots -/

/-- The slot of `length` bytes at an offset lies in the store and has no offset in
common with a queued entry. -/
structure FreeSlot (capacity length : Nat) (queue : List Span) (start : Nat) : Prop where
  inside : start + length ≤ capacity
  apart : ∀ span ∈ queue, span.Apart ⟨start, start + length⟩

/-- A queue leaves room for an entry if it is empty, if the slot behind its newest entry
is free, or if it does not wrap round and the slot at offset zero is free. -/
def HasRoom (capacity length : Nat) (queue : List Span) : Prop :=
  queue = [] ∨ ∃ oldest ∈ queue.head?, ∃ newest ∈ queue.getLast?,
    FreeSlot capacity length queue newest.stop ∨
      oldest.start < newest.stop ∧ FreeSlot capacity length queue 0

/-- Where a queue that leaves room takes an entry: behind its newest entry if that slot is
free, and at offset zero if it is not or if there is no entry. -/
structure TakesAt (capacity length : Nat) (queue : List Span) (start : Nat) : Prop where
  of_nil : queue = [] → start = 0
  of_free : ∀ newest ∈ queue.getLast?, FreeSlot capacity length queue newest.stop →
    start = newest.stop
  of_not_free : ∀ newest ∈ queue.getLast?, ¬ FreeSlot capacity length queue newest.stop →
    start = 0

instance (left right : Span) : Decidable (left.Apart right) :=
  inferInstanceAs (Decidable (_ ∨ _))

instance (capacity length : Nat) (queue : List Span) (start : Nat) :
    Decidable (FreeSlot capacity length queue start) :=
  decidable_of_iff (start + length ≤ capacity ∧ ∀ span ∈ queue, span.Apart ⟨start, start + length⟩)
    ⟨fun ⟨inside, apart⟩ => ⟨inside, apart⟩, fun ⟨inside, apart⟩ => ⟨inside, apart⟩⟩

instance (capacity length : Nat) (queue : List Span) : Decidable (HasRoom capacity length queue) :=
  inferInstanceAs (Decidable (_ ∨ _))

example :
    ¬ HasRoom 100 10 [⟨50, 90⟩, ⟨0, 30⟩, ⟨30, 50⟩] ∧ HasRoom 100 10 [⟨0, 30⟩, ⟨30, 50⟩] := by
  decide

theorem FreeSlot.of_subset {capacity length start : Nat} {queue fewer : List Span}
    (free : FreeSlot capacity length queue start) (remain : fewer ⊆ queue) :
    FreeSlot capacity length fewer start :=
  ⟨free.inside, fun span member => free.apart span (remain member)⟩

/-! ## Room in a queue that lies well -/

namespace Arranged

variable {capacity length head turn tail : Nat} {older newer : List Span}

/-- The slot behind the newest entry is free as far as the end of the store, or as far as
the oldest entry if the queue wraps round. -/
theorem freeSlot_newest_iff (arranged : Arranged capacity older newer head turn tail)
    (used : older ≠ []) (nonempty : 0 < length) {newest : Span}
    (last : newest ∈ (older ++ newer).getLast?) :
    FreeSlot capacity length (older ++ newer) newest.stop ↔
      length ≤ if newer = [] then capacity - turn else head - tail := by
  have stop := arranged.newest_stop newest last
  have place := arranged.placement?_eq used length
  have laid : LaidOut capacity (older ++ newer) := ⟨_, _, _, _, _, rfl, arranged⟩
  have filled := arranged.older_tiles.lt_of_ne_nil used
  by_cases unwrapped : newer = []
  · rw [if_pos unwrapped] at stop place ⊢
    constructor
    · intro free
      have inside := free.inside
      omega
    · intro room
      rw [if_pos room, ← stop] at place
      have fits := laid.fits nonempty place
      exact ⟨fits.inside, fits.apart⟩
  · rw [if_neg unwrapped] at stop place ⊢
    constructor
    · intro free
      -- the oldest entry begins behind the slot, and so the slot ends before it
      rcases Option.isSome_iff_exists.mp (List.isSome_head?.mpr used) with ⟨oldest, first⟩
      have member := List.mem_of_head? first
      have start := arranged.older_tiles.start_of_head? oldest first
      have bounds := arranged.older_tiles.bounds oldest member
      have below := arranged.below
      have apart := free.apart oldest (List.mem_append_left newer member)
      rw [Span.Apart] at apart
      dsimp only at apart
      omega
    · intro room
      rw [if_pos room, ← stop] at place
      have fits := laid.fits nonempty place
      exact ⟨fits.inside, fits.apart⟩

/-- Without a wrap, the slot at offset zero is free as far as the oldest entry. -/
theorem freeSlot_zero_iff (arranged : Arranged capacity older [] head turn tail)
    (used : older ≠ []) : FreeSlot capacity length older 0 ↔ length ≤ head := by
  rcases Option.isSome_iff_exists.mp (List.isSome_head?.mpr used) with ⟨oldest, first⟩
  have start := arranged.older_tiles.start_of_head? oldest first
  have bounds := arranged.older_tiles.bounds
  constructor
  · intro free
    have member := List.mem_of_head? first
    have filled := bounds oldest member
    have apart := free.apart oldest member
    rw [Span.Apart] at apart
    dsimp only at apart
    omega
  · intro room
    have reached := arranged.older_tiles.le
    have inside := arranged.inside
    refine ⟨by omega, fun span member => Or.inr ?_⟩
    have behind := (bounds span member).1
    dsimp only
    omega

end Arranged

namespace LaidOut

variable {capacity length start : Nat} {queue : List Span}

/-- The place of an entry in a queue that is not empty, read off the free slots. -/
theorem placement?_eq (laid : LaidOut capacity queue) (nonempty : 0 < length)
    {oldest newest : Span} (first : oldest ∈ queue.head?) (last : newest ∈ queue.getLast?) :
    Ring.placement? capacity length queue =
      if FreeSlot capacity length queue newest.stop then some newest.stop
      else if oldest.start < newest.stop ∧ FreeSlot capacity length queue 0 then some 0
      else none := by
  rcases laid with ⟨older, newer, head, turn, tail, rfl, arranged⟩
  have used : older ≠ [] := by
    rintro rfl
    rw [arranged.older_first rfl] at first
    cases first
  have stop := arranged.newest_stop newest last
  have test := arranged.test_iff first last
  have behind := arranged.freeSlot_newest_iff used nonempty last
  rw [arranged.placement?_eq used, if_congr behind rfl rfl]
  by_cases unwrapped : newer = []
  · subst unwrapped
    rw [if_pos rfl] at stop ⊢
    have low : oldest.start < newest.stop ∧ FreeSlot capacity length (older ++ []) 0 ↔
        length ≤ head := by
      rw [List.append_nil, arranged.freeSlot_zero_iff used]
      exact and_iff_right (test.mpr rfl)
    rw [if_pos rfl, if_congr low rfl rfl, stop]
  · have wrapped : ¬ (oldest.start < newest.stop ∧
        FreeSlot capacity length (older ++ newer) 0) := fun low => unwrapped (test.mp low.1)
    rw [if_neg unwrapped] at stop ⊢
    rw [if_neg wrapped, if_neg unwrapped, stop]

/-- A queue leaves room for an entry just if a place is found for it. -/
theorem hasRoom_iff (laid : LaidOut capacity queue) (nonempty : 0 < length)
    (fits : length ≤ capacity) :
    HasRoom capacity length queue ↔ (Ring.placement? capacity length queue).isSome = true := by
  by_cases used : queue = []
  · subst used
    have place : Ring.placement? capacity length [] = some 0 := if_pos fits
    rw [place]
    exact ⟨fun _ => rfl, fun _ => Or.inl rfl⟩
  · rcases Option.isSome_iff_exists.mp (List.isSome_head?.mpr used) with ⟨oldest, first⟩
    rcases Option.isSome_iff_exists.mp (List.getLast?_isSome.mpr used) with ⟨newest, last⟩
    have room : HasRoom capacity length queue ↔ FreeSlot capacity length queue newest.stop ∨
        oldest.start < newest.stop ∧ FreeSlot capacity length queue 0 := by
      constructor
      · rintro (empty | ⟨_, same, _, alike, free⟩)
        · contradiction
        · cases Option.mem_unique first same
          cases Option.mem_unique last alike
          exact free
      · exact fun free => Or.inr ⟨oldest, first, newest, last, free⟩
    rw [room, laid.placement?_eq nonempty first last]
    by_cases behind : FreeSlot capacity length queue newest.stop
    · rw [if_pos behind]
      exact ⟨fun _ => rfl, fun _ => Or.inl behind⟩
    · rw [if_neg behind, or_iff_right behind]
      split
      · rename_i low
        exact ⟨fun _ => rfl, fun _ => low⟩
      · rename_i full
        exact ⟨fun low => absurd low full, fun impossible => by cases impossible⟩

/-- A place that is found is the one where the queue takes the entry. -/
theorem takesAt (laid : LaidOut capacity queue) (nonempty : 0 < length)
    (found : Ring.placement? capacity length queue = some start) :
    TakesAt capacity length queue start := by
  refine ⟨?_, ?_, ?_⟩
  · rintro rfl
    change (if length ≤ capacity then some 0 else none) = some start at found
    split at found
    · exact (Option.some.inj found).symm
    · contradiction
  all_goals
    intro newest last behind
    have used : queue ≠ [] := List.ne_nil_of_mem (List.mem_of_getLast? last)
    rcases Option.isSome_iff_exists.mp (List.isSome_head?.mpr used) with ⟨oldest, first⟩
    rw [laid.placement?_eq nonempty first last] at found
  · rw [if_pos behind] at found
    exact (Option.some.inj found).symm
  · rw [if_neg behind] at found
    split at found
    · exact (Option.some.inj found).symm
    · contradiction

/-- If the newest entry ends behind the start of the oldest one, it ends behind the start of
each, so that no wrap comes about when entries give way. -/
theorem start_lt_of_test (laid : LaidOut capacity queue) {oldest newest : Span}
    (first : oldest ∈ queue.head?) (last : newest ∈ queue.getLast?)
    (passed : oldest.start < newest.stop) : ∀ span ∈ queue, span.start < newest.stop := by
  rcases laid with ⟨older, newer, head, turn, tail, rfl, arranged⟩
  have unwrapped := (arranged.test_iff first last).mp passed
  have stop := arranged.newest_stop newest last
  subst unwrapped
  rw [if_pos rfl] at stop
  rw [List.append_nil]
  intro span member
  have bounds := arranged.older_tiles.bounds span member
  omega

/-- Room does not go away when entries do. -/
theorem hasRoom_drop (laid : LaidOut capacity queue) (room : HasRoom capacity length queue)
    (count : Nat) : HasRoom capacity length (queue.drop count) := by
  by_cases remains : queue.length ≤ count
  · exact Or.inl (List.drop_eq_nil_of_le remains)
  · right
    have used : queue.drop count ≠ [] := fun empty => remains (List.drop_eq_nil_iff.mp empty)
    have subset := List.drop_subset count queue
    rcases Option.isSome_iff_exists.mp (List.isSome_head?.mpr used) with ⟨next, foremost⟩
    rcases room with rfl | ⟨oldest, first, newest, last, free⟩
    · rw [List.drop_nil] at used
      contradiction
    · have stays : newest ∈ (queue.drop count).getLast? := by
        rw [List.getLast?_drop, if_neg remains]
        exact last
      refine ⟨next, foremost, newest, stays, ?_⟩
      rcases free with behind | ⟨passed, low⟩
      · exact Or.inl (behind.of_subset subset)
      · have member := subset (List.mem_of_head? foremost)
        exact Or.inr ⟨laid.start_lt_of_test first last passed next member, low.of_subset subset⟩

end LaidOut

/-! ## Offers one after the other -/

/-- Stretches of the given lengths, each beginning where the one before it ends. -/
def sideBySide (start : Nat) : List Nat → List Span
  | [] => []
  | length :: rest => ⟨start, start + length⟩ :: sideBySide (start + length) rest

theorem tiles_sideBySide {start : Nat} {lengths : List Nat}
    (nonempty : ∀ length ∈ lengths, 0 < length) :
    Tiles start (sideBySide start lengths) (start + lengths.sum) := by
  induction lengths generalizing start with
  | nil => exact .nil
  | cons length rest ih =>
      rw [List.sum_cons, ← Nat.add_assoc]
      have first := nonempty length List.mem_cons_self
      exact .cons (by omega) (ih fun other member => nonempty other (List.mem_cons_of_mem _ member))

theorem sideBySide_append (start : Nat) (lengths : List Nat) (length : Nat) :
    sideBySide start (lengths ++ [length]) =
      sideBySide start lengths ++ [⟨start + lengths.sum, start + lengths.sum + length⟩] := by
  induction lengths generalizing start with
  | nil => rfl
  | cons first rest ih =>
      rw [List.cons_append, sideBySide, ih, sideBySide, List.sum_cons, Nat.add_assoc start]
      rfl

/-- Entries side by side from offset zero on leave the rest of the store to the next one. -/
theorem placement?_sideBySide {capacity length : Nat} {lengths : List Nat}
    (nonempty : ∀ length ∈ lengths, 0 < length) (room : lengths.sum + length ≤ capacity) :
    Ring.placement? capacity length (sideBySide 0 lengths) = some lengths.sum := by
  have tiles : Tiles 0 (sideBySide 0 lengths) (0 + lengths.sum) := tiles_sideBySide nonempty
  cases lengths with
  | nil => exact if_pos (by simpa using room)
  | cons first rest =>
      have used : sideBySide 0 (first :: rest) ≠ [] := List.cons_ne_nil _ _
      have arranged : Arranged capacity (sideBySide 0 (first :: rest)) [] 0
          (0 + (first :: rest).sum) 0 :=
        ⟨tiles, .nil, by omega, Nat.le_refl 0, fun _ => rfl⟩
      have place := arranged.placement?_eq used length
      rw [List.append_nil, if_pos rfl, if_pos (by omega), Nat.zero_add] at place
      exact place

namespace Ring

/-- The length of the entry that an action offers, zero if it offers none. -/
def Action.offeredLength : Action → Nat
  | .offer entry => entry.length
  | .offerWith length _ => length
  | _ => 0

/-- What a ring answers to the actions of a history. -/
def answers (ring : Ring) : List Action → List Answer
  | [] => []
  | action :: later => (ring.act action).1 :: (ring.act action).2.answers later

/-- An offer for which the queue leaves a place. -/
theorem act_of_placement? {ring : Ring} {action : Action} {start : Nat}
    (nonempty : 0 < action.offeredLength)
    (found : placement? ring.capacity action.offeredLength ring.queue = some start) :
    (ring.act action).1 = .offered (.accepted 0) ∧
      (ring.act action).2.queue = ring.queue ++ [⟨start, start + action.offeredLength⟩] := by
  have accepted (length : Nat) (fill : Vector UInt8 length → Vector UInt8 length)
      (nonempty : 0 < length) (found : placement? ring.capacity length ring.queue = some start) :
      (ring.offerWith length fill).1 = .accepted 0 ∧
        (ring.offerWith length fill).2.queue = ring.queue ++ [⟨start, start + length⟩] := by
    rw [offerWith, if_neg (Nat.ne_of_gt nonempty), makeRoom_of_place found]
    exact ⟨rfl, rfl⟩
  cases action with
  | offer entry =>
      rcases accepted _ (fun _ => ⟨entry.toArray, List.size_toArray⟩) nonempty found with
        ⟨answer, queue⟩
      exact ⟨congrArg Answer.offered answer, queue⟩
  | offerWith length fill =>
      rcases accepted length fill nonempty found with ⟨answer, queue⟩
      exact ⟨congrArg Answer.offered answer, queue⟩
  | popFront => cases nonempty
  | clear => cases nonempty
  | drain limit pulls => cases nonempty

/-- Offers that together are no larger than what is left of the store evict nothing. -/
theorem answers_of_sum_le {ring : Ring} {lengths : List Nat} {offers : List Action}
    (queued : ring.queue = sideBySide 0 lengths) (filled : ∀ length ∈ lengths, 0 < length)
    (nonempty : ∀ action ∈ offers, 0 < action.offeredLength)
    (room : lengths.sum + (offers.map Action.offeredLength).sum ≤ ring.capacity) :
    ring.answers offers = offers.map (fun _ => .offered (.accepted 0)) ∧
      (ring.after offers).queue = sideBySide 0 (lengths ++ offers.map Action.offeredLength) := by
  induction offers generalizing ring lengths with
  | nil => exact ⟨rfl, by rw [List.map_nil, List.append_nil, ← queued]; rfl⟩
  | cons action later ih =>
      rw [List.map_cons, List.sum_cons] at room
      have first := nonempty action List.mem_cons_self
      have place : placement? ring.capacity action.offeredLength ring.queue =
          some lengths.sum := by
        rw [queued]
        exact placement?_sideBySide filled (by omega)
      rcases act_of_placement? first place with ⟨answer, queue⟩
      have next : (ring.act action).2.queue =
          sideBySide 0 (lengths ++ [action.offeredLength]) := by
        rw [queue, queued, sideBySide_append, Nat.zero_add]
      have filledNext : ∀ length ∈ lengths ++ [action.offeredLength], 0 < length := by
        intro length member
        rcases List.mem_append.mp member with old | new
        · exact filled length old
        · exact List.mem_singleton.mp new ▸ first
      have roomNext : (lengths ++ [action.offeredLength]).sum +
          (later.map Action.offeredLength).sum ≤ (ring.act action).2.capacity := by
        rw [capacity_act, List.sum_append, List.sum_singleton]
        omega
      rcases ih next filledNext (fun other member => nonempty other (List.mem_cons_of_mem _ member))
        roomNext with ⟨answers, last⟩
      refine ⟨?_, ?_⟩
      · rw [Ring.answers, answer, answers, List.map_cons]
      · rw [List.append_assoc] at last
        exact last

/-! ## Admission -/

/-- An entry that is no larger than the store is accepted.  The number of entries that give
way is the least one after which the queue has room. -/
theorem offerWith_of_le {ring : Ring} (laid : ring.IsLaidOut) {length : Nat}
    (fill : Vector UInt8 length → Vector UInt8 length) (nonempty : 0 < length)
    (fits : length ≤ ring.capacity) :
    ∃ evicted start,
      IsLeast {count | HasRoom ring.capacity length (ring.queue.drop count)} evicted ∧
      TakesAt ring.capacity length (ring.queue.drop evicted) start ∧
      ring.offerWith length fill =
        (.accepted evicted,
          { store := put ring.store start (fill (ring.slot start length)).toList
            queue := ring.queue.drop evicted ++ [⟨start, start + length⟩] }) := by
  rcases ring.offerWith_cases length fill with
    ⟨empty, -⟩ | ⟨large, -⟩ | ⟨evicted, start, -, -, needed, found, accepted⟩
  · omega
  · omega
  · have room (count : Nat) := (LaidOut.drop laid count).hasRoom_iff nonempty fits
    refine ⟨evicted, start, ⟨?_, ?_⟩, (LaidOut.drop laid evicted).takesAt nonempty found, accepted⟩
    · exact (room evicted).mpr (Option.isSome_iff_exists.mpr ⟨start, found⟩)
    · intro count leaves
      apply Nat.le_of_not_lt
      intro fewer
      have place := (room count).mp leaves
      rw [needed count fewer] at place
      cases place

/-- Whatever has been done to an empty ring, an offer without bytes changes nothing, one
that is larger than the store empties the ring, and every other one is accepted, when as
few of the oldest entries have given way as leave room for it.  Room does not go away when
entries do.  So offers to an empty ring that together fit in its store evict nothing, and
they lie side by side from offset zero on. -/
theorem admission_after (capacity : Nat) (history : List Action) (length : Nat)
    (fill : Vector UInt8 length → Vector UInt8 length) :
    let ring := (withCapacity capacity).after history
    (length = 0 → ring.offerWith length fill = (.dropped 0, ring)) ∧
      (capacity < length → ring.offerWith length fill = (.dropped ring.size, ring.clear)) ∧
      (0 < length → length ≤ capacity → ∃ evicted start,
        IsLeast {count | HasRoom capacity length (ring.queue.drop count)} evicted ∧
        TakesAt capacity length (ring.queue.drop evicted) start ∧
        ring.offerWith length fill =
          (.accepted evicted,
            { store := put ring.store start (fill (ring.slot start length)).toList
              queue := ring.queue.drop evicted ++ [⟨start, start + length⟩] })) ∧
      (∀ count more, HasRoom capacity length (ring.queue.drop count) →
        HasRoom capacity length (ring.queue.drop (count + more))) ∧
      (ring.queue = [] → ∀ offers : List Action,
        (∀ action ∈ offers, 0 < action.offeredLength) →
        (offers.map Action.offeredLength).sum ≤ capacity →
        ring.answers offers = offers.map (fun _ => .offered (.accepted 0)) ∧
          (ring.after offers).queue = sideBySide 0 (offers.map Action.offeredLength)) := by
  intro ring
  have laid : ring.IsLaidOut := isLaidOut_after (isLaidOut_withCapacity capacity) history
  have size : ring.capacity = capacity := by
    rw [capacity_after, Ring.capacity, withCapacity, Array.size_replicate]
  rw [← size]
  refine ⟨?_, ?_, offerWith_of_le laid fill, ?_, ?_⟩
  · intro empty
    rw [offerWith, if_pos empty]
  · intro large
    rcases ring.offerWith_cases length fill with
      ⟨empty, -⟩ | ⟨-, dropped⟩ | ⟨evicted, start, nonempty, -, -, found, -⟩
    · omega
    · exact dropped
    · have inside : start + length ≤ ring.capacity :=
        ((isLaidOut_drop laid evicted).fits nonempty found).inside
      omega
  · intro count more room
    rw [← List.drop_drop]
    exact (LaidOut.drop laid count).hasRoom_drop room more
  · intro unused offers nonempty room
    have queued : ring.queue = sideBySide 0 [] := unused
    have filled (length : Nat) (member : length ∈ []) : 0 < length :=
      absurd member List.not_mem_nil
    exact answers_of_sum_le queued filled nonempty (by simpa using room)

end Ring

end InbandTelemetry
