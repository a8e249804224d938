import InbandTelemetry.Ring

namespace InbandTelemetry

/-!
# Histories of a ring

What can be done to a ring is listed as data, so that a ring in use is an empty
ring and a history.  Each operation is described once, by what it does to the
queue of stretches: it forgets some of the oldest ones, and an accepted offer
appends a new one.  Where that one lies is the subject of the layout of the
store, not of this module.
-/

namespace Ring

/-! ## Making room -/

theorem makeRoom_of_place {capacity length place : Nat} {queue : List Span}
    (found : placement? capacity length queue = some place) :
    makeRoom capacity length queue = ⟨some place, queue, 0⟩ := by
  unfold makeRoom
  rw [found]

theorem makeRoom_nil {capacity length : Nat} (full : placement? capacity length [] = none) :
    makeRoom capacity length [] = ⟨none, [], 0⟩ := by
  unfold makeRoom
  rw [full]

theorem makeRoom_cons {capacity length : Nat} {oldest : Span} {rest : List Span}
    (full : placement? capacity length (oldest :: rest) = none) :
    makeRoom capacity length (oldest :: rest) =
      { makeRoom capacity length rest with
        evicted := (makeRoom capacity length rest).evicted + 1 } := by
  conv => lhs; unfold makeRoom
  rw [full]

/-- Entries give way one after the other, oldest first, until the remaining ones
leave a place, and no longer.  If there is no place in the end, all have given
way. -/
theorem makeRoom_eq (capacity length : Nat) (queue : List Span) :
    ∃ evicted, evicted ≤ queue.length ∧
      makeRoom capacity length queue =
        ⟨placement? capacity length (queue.drop evicted), queue.drop evicted, evicted⟩ ∧
      (placement? capacity length (queue.drop evicted) = none → evicted = queue.length) ∧
      ∀ fewer, fewer < evicted → placement? capacity length (queue.drop fewer) = none := by
  induction queue with
  | nil =>
      refine ⟨0, Nat.le_refl 0, ?_, fun _ => rfl, fun fewer impossible => by omega⟩
      cases found : placement? capacity length [] with
      | some place => rw [makeRoom_of_place found, List.drop_zero, found]
      | none => rw [makeRoom_nil found, List.drop_zero, found]
  | cons oldest rest ih =>
      cases found : placement? capacity length (oldest :: rest) with
      | some place =>
          refine ⟨0, Nat.zero_le _, ?_, ?_, fun fewer impossible => by omega⟩
          · rw [makeRoom_of_place found, List.drop_zero, found]
          · intro full
            rw [List.drop_zero, found] at full
            contradiction
      | none =>
          rcases ih with ⟨evicted, bounded, made, exhausted, needed⟩
          refine ⟨evicted + 1, Nat.succ_le_succ bounded, ?_, ?_, ?_⟩
          · rw [makeRoom_cons found, made, List.drop_succ_cons]
          · intro full
            rw [List.drop_succ_cons] at full
            rw [exhausted full, List.length_cons]
          · intro fewer before
            cases fewer with
            | zero => exact found
            | succ fewer => exact needed fewer (Nat.lt_of_succ_lt_succ before)

/-! ## Offers -/

/-- All that an offer can do.  It is dropped, either because it has no bytes or
because even the empty store is too small for it.  Otherwise it is accepted: the
oldest entries give way, no more of them than needed, and the new one goes where the
remaining ones leave a place. -/
theorem offerWith_cases (ring : Ring) (length : Nat)
    (fill : Vector UInt8 length → Vector UInt8 length) :
    (length = 0 ∧ ring.offerWith length fill = (.dropped 0, ring)) ∨
    (ring.capacity < length ∧
      ring.offerWith length fill = (.dropped ring.queue.length, ring.clear)) ∨
    (∃ evicted start, 0 < length ∧ evicted ≤ ring.queue.length ∧
      (∀ fewer, fewer < evicted →
        placement? ring.capacity length (ring.queue.drop fewer) = none) ∧
      placement? ring.capacity length (ring.queue.drop evicted) = some start ∧
      ring.offerWith length fill =
        (.accepted evicted,
          { store := put ring.store start (fill (ring.slot start length)).toList
            queue := ring.queue.drop evicted ++ [⟨start, start + length⟩] })) := by
  by_cases empty : length = 0
  · exact Or.inl ⟨empty, by rw [offerWith, if_pos empty]⟩
  · rcases makeRoom_eq ring.capacity length ring.queue with
      ⟨evicted, bounded, made, exhausted, needed⟩
    right
    cases found : placement? ring.capacity length (ring.queue.drop evicted) with
    | none =>
        left
        have all := exhausted found
        rw [all, List.drop_length] at found made
        have large : ring.capacity < length := by
          apply Nat.lt_of_not_le
          intro fits
          simp only [placement?, List.head?_nil, if_pos fits] at found
          contradiction
        refine ⟨large, ?_⟩
        rw [offerWith, if_neg empty, made, found]
        rfl
    | some start =>
        right
        refine ⟨evicted, start, Nat.pos_of_ne_zero empty, bounded, needed, found, ?_⟩
        rw [offerWith, if_neg empty, made, found]

/-! ## Taking entries out -/

theorem popFront_eq (ring : Ring) :
    ring.popFront = (!ring.queue.isEmpty, { ring with queue := ring.queue.drop 1 }) := by
  rcases ring with ⟨store, queue⟩
  cases queue with
  | nil => rfl
  | cons oldest rest => rfl

/-- A drain that is pulled hands out the oldest entries, as many as it is pulled
for, may remove and finds. -/
theorem pull_entries (drain : Drain) (pulls : Nat) :
    (drain.pull pulls).1 = drain.ring.toList.take (min pulls drain.remaining) := by
  induction pulls generalizing drain with
  | zero => rw [Nat.zero_min, List.take_zero, Drain.pull]
  | succ pulls ih =>
      rcases drain with ⟨⟨store, queue⟩, remaining⟩
      cases remaining with
      | zero => rfl
      | succ remaining =>
          cases queue with
          | nil => simp only [Drain.pull, Drain.next?, toList, List.map_nil, List.take_nil]
          | cons span rest =>
              simp only [Drain.pull, Drain.next?, ih, toList, List.map_cons,
                Nat.succ_min_succ, List.take_succ_cons]
              rfl

/-- The entries that a drain has not handed out stay queued. -/
theorem pull_ring (drain : Drain) (pulls : Nat) :
    (drain.pull pulls).2.ring =
      { drain.ring with queue := drain.ring.queue.drop (min pulls drain.remaining) } := by
  induction pulls generalizing drain with
  | zero => rw [Nat.zero_min, List.drop_zero, Drain.pull]
  | succ pulls ih =>
      rcases drain with ⟨⟨store, queue⟩, remaining⟩
      cases remaining with
      | zero => rfl
      | succ remaining =>
          cases queue with
          | nil => simp only [Drain.pull, Drain.next?, List.drop_nil]
          | cons span rest =>
              simp only [Drain.pull, Drain.next?, ih, Nat.succ_min_succ, List.drop_succ_cons]

/-! ## Histories -/

/-- What can be done to a ring.  A drain is pulled some number of times and then
given up. -/
inductive Action where
  | offer (entry : Bytes)
  | offerWith (length : Nat) (fill : Vector UInt8 length → Vector UInt8 length)
  | popFront
  | clear
  | drain (limit pulls : Nat)

/-- What a ring answers to an action. -/
inductive Answer where
  | offered (offer : Offer)
  | popped (found : Bool)
  | cleared
  | drained (entries : List Bytes)

/-- Carry out one action. -/
def act (ring : Ring) : Action → Answer × Ring
  | .offer entry => (.offered (ring.offer entry).1, (ring.offer entry).2)
  | .offerWith length fill =>
      (.offered (ring.offerWith length fill).1, (ring.offerWith length fill).2)
  | .popFront => (.popped ring.popFront.1, ring.popFront.2)
  | .clear => (.cleared, ring.clear)
  | .drain limit pulls =>
      (.drained ((ring.drain limit).pull pulls).1, ((ring.drain limit).pull pulls).2.ring)

/-- The ring after a history, the first action first. -/
def after (ring : Ring) (history : List Action) : Ring :=
  history.foldl (fun ring action => (ring.act action).2) ring

/-- A copied entry is an offer in place that forgets what the slot holds. -/
theorem act_offer (ring : Ring) (entry : Bytes) :
    ring.act (.offer entry) =
      ring.act (.offerWith entry.length fun _ => ⟨entry.toArray, List.size_toArray⟩) := rfl

/-- A ring in use is an empty one with a history. -/
def Reachable (ring : Ring) : Prop :=
  ∃ capacity history, ring = (withCapacity capacity).after history

end Ring

end InbandTelemetry
