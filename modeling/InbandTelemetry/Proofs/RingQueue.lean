import InbandTelemetry.Proofs.RingLayout

namespace InbandTelemetry

/-!
# A ring as a queue of byte strings

Seen from outside, a ring is a queue: entries come in at one end and leave at the
other, and an offer may first make the oldest ones leave.  What has to be shown
is that the shared store does not come through.  An entry is written into a slot
that is apart from every entry that stays, so that these read as before, and the
new one reads back as it was written.
-/

namespace Ring

/-! ## Reading what was written -/

theorem getElem?_put_of_outside {store : Array UInt8} {start index : Nat} {bytes : Bytes}
    (outside : index < start ∨ start + bytes.length ≤ index) :
    (put store start bytes)[index]? = store[index]? := by
  induction bytes generalizing store start with
  | nil => rfl
  | cons byte rest ih =>
      rw [List.length_cons] at outside
      rw [put, ih (by omega)]
      exact Array.getElem?_setIfInBounds_ne (by omega)

theorem getElem?_put_of_inside {store : Array UInt8} {start index : Nat} {bytes : Bytes}
    (room : start + bytes.length ≤ store.size) (inside : index < bytes.length) :
    (put store start bytes)[start + index]? = bytes[index]? := by
  induction bytes generalizing store start index with
  | nil => cases inside
  | cons byte rest ih =>
      rw [List.length_cons] at room inside
      rw [put]
      cases index with
      | zero =>
          rw [getElem?_put_of_outside (Or.inl (by omega)), Nat.add_zero, List.getElem?_cons_zero]
          exact Array.getElem?_setIfInBounds_self_of_lt (by omega)
      | succ index =>
          have shifted : start + (index + 1) = start + 1 + index := by omega
          rw [shifted, List.getElem?_cons_succ]
          apply ih
          · rw [Array.size_setIfInBounds]
            omega
          · omega

/-- Writing into a slot leaves what lies apart from it. -/
theorem read_put_of_apart {ring : Ring} {start : Nat} {bytes : Bytes} {span : Span}
    {queue : List Span} (apart : span.stop ≤ start ∨ start + bytes.length ≤ span.start) :
    read ⟨put ring.store start bytes, queue⟩ span = ring.read span := by
  apply List.ext_getElem?
  intro index
  simp only [read, Array.getElem?_toList, Array.getElem?_extract, size_put]
  split
  · exact getElem?_put_of_outside (by omega)
  · rfl

/-- A written slot reads back as what was written. -/
theorem read_put_self {ring : Ring} {start : Nat} {bytes : Bytes} (queue : List Span)
    (room : start + bytes.length ≤ ring.store.size) :
    read ⟨put ring.store start bytes, queue⟩ ⟨start, start + bytes.length⟩ = bytes := by
  apply List.ext_getElem?
  intro index
  simp only [read, Array.getElem?_toList, Array.getElem?_extract, size_put]
  split
  · exact getElem?_put_of_inside room (by omega)
  · rw [List.getElem?_eq_none (by omega)]

/-! ## Queues -/

/-- One step of a queue of byte strings, oldest first: what is done, what is answered
and what is queued afterwards.  An entry that is written in place is whatever
its writer makes of a slot, whose content is not specified. -/
inductive QueueStep : List Bytes → Action → Answer → List Bytes → Prop where
  | copied {queue : List Bytes} {entry : Bytes} {evicted : Nat} :
      evicted ≤ queue.length →
      QueueStep queue (.offer entry) (.offered (.accepted evicted))
        (queue.drop evicted ++ [entry])
  | refused {queue : List Bytes} {entry : Bytes} {evicted : Nat} :
      evicted ≤ queue.length →
      QueueStep queue (.offer entry) (.offered (.dropped evicted)) (queue.drop evicted)
  | filled {queue : List Bytes} {length evicted : Nat}
      {fill : Vector UInt8 length → Vector UInt8 length} (slot : Vector UInt8 length) :
      evicted ≤ queue.length →
      QueueStep queue (.offerWith length fill) (.offered (.accepted evicted))
        (queue.drop evicted ++ [(fill slot).toList])
  | unfilled {queue : List Bytes} {length evicted : Nat}
      {fill : Vector UInt8 length → Vector UInt8 length} :
      evicted ≤ queue.length →
      QueueStep queue (.offerWith length fill) (.offered (.dropped evicted))
        (queue.drop evicted)
  | popped {queue : List Bytes} :
      QueueStep queue .popFront (.popped (!queue.isEmpty)) queue.tail
  | cleared {queue : List Bytes} : QueueStep queue .clear .cleared []
  | drained {queue : List Bytes} {limit pulls taken : Nat} :
      taken = min pulls (min limit queue.length) →
      QueueStep queue (.drain limit pulls) (.drained (queue.take taken)) (queue.drop taken)

/-- Between two states of a ring some of the oldest entries leave and at most one
comes.  The entries that stay are where they were and read as before. -/
def KeepsRest (ring later : Ring) : Prop :=
  ∃ gone added, later.queue = ring.queue.drop gone ++ added ∧ added.length ≤ 1 ∧
    ∀ span ∈ ring.queue.drop gone, later.read span = ring.read span

theorem keepsRest_drop (ring : Ring) (count : Nat) :
    ring.KeepsRest { ring with queue := ring.queue.drop count } :=
  ⟨count, [], (List.append_nil _).symm, Nat.zero_le 1, fun _ _ => rfl⟩

theorem toList_drop (ring : Ring) (count : Nat) :
    toList { ring with queue := ring.queue.drop count } = ring.toList.drop count :=
  List.map_drop

theorem length_toList (ring : Ring) : ring.toList.length = ring.queue.length :=
  List.length_map ring.read

/-! ## What an offer does to the queue -/

/-- An offer in place, seen as a step of a queue.  The entry that is queued is what
the writer has made of the slot. -/
theorem offerWith_queue {ring : Ring} (laid : ring.IsLaidOut) (length : Nat)
    (fill : Vector UInt8 length → Vector UInt8 length) :
    ring.KeepsRest (ring.offerWith length fill).2 ∧
    ((∃ evicted, evicted ≤ ring.toList.length ∧
        (ring.offerWith length fill).1 = .dropped evicted ∧
        (ring.offerWith length fill).2.toList = ring.toList.drop evicted) ∨
      ∃ evicted slot, evicted ≤ ring.toList.length ∧
        (ring.offerWith length fill).1 = .accepted evicted ∧
        (ring.offerWith length fill).2.toList =
          ring.toList.drop evicted ++ [(fill slot).toList]) := by
  rcases ring.offerWith_cases length fill with
    ⟨-, dropped⟩ | ⟨-, dropped⟩ | ⟨evicted, start, nonempty, bounded, -, found, accepted⟩
  · rw [dropped]
    exact ⟨ring.keepsRest_drop 0, Or.inl ⟨0, Nat.zero_le _, rfl, rfl⟩⟩
  · rw [dropped]
    have all : ring.clear = { ring with queue := ring.queue.drop ring.queue.length } := by
      rw [List.drop_length]
      rfl
    refine ⟨all ▸ ring.keepsRest_drop _, Or.inl ⟨_, Nat.le_of_eq ring.length_toList.symm, rfl, ?_⟩⟩
    rw [← length_toList, List.drop_length]
    rfl
  · rw [accepted]
    have fits := (isLaidOut_drop laid evicted).fits nonempty found
    generalize written : fill (ring.slot start length) = entry
    have size : entry.toList.length = length := entry.length_toList
    -- the slot is apart from the remaining entries, so these read as before
    have kept : ∀ span ∈ ring.queue.drop evicted,
        read ⟨put ring.store start entry.toList,
          ring.queue.drop evicted ++ [⟨start, start + length⟩]⟩ span = ring.read span := by
      intro span member
      apply read_put_of_apart
      rw [size]
      exact fits.apart span member
    have new : read ⟨put ring.store start entry.toList,
        ring.queue.drop evicted ++ [⟨start, start + length⟩]⟩ ⟨start, start + length⟩ =
          entry.toList := by
      have room : start + entry.toList.length ≤ ring.store.size := by
        rw [size]
        exact fits.inside
      have whole := read_put_self (ring.queue.drop evicted ++ [⟨start, start + length⟩]) room
      rwa [size] at whole
    refine ⟨⟨evicted, [⟨start, start + length⟩], rfl, Nat.le_refl 1, kept⟩, Or.inr ?_⟩
    refine ⟨evicted, ring.slot start length, ?_, rfl, ?_⟩
    · rw [length_toList]
      exact bounded
    · rw [toList, List.map_append, List.map_singleton, new, List.map_congr_left kept, written,
        ← toList_drop]
      rfl

/-- All that a copied entry can meet: one without bytes is refused, one that is larger
than the store empties the ring, and every other one becomes the newest entry. -/
theorem offer_cases {ring : Ring} (laid : ring.IsLaidOut) (entry : Bytes) :
    (entry = [] ∧ ring.offer entry = (.dropped 0, ring)) ∨
    (ring.capacity < entry.length ∧ ring.offer entry = (.dropped ring.size, ring.clear)) ∨
    (entry.length ≤ ring.capacity ∧ ∃ evicted later, ring.offer entry = (.accepted evicted, later) ∧
      later.IsLaidOut ∧ evicted ≤ ring.toList.length ∧
      later.toList = ring.toList.drop evicted ++ [entry]) := by
  rcases ring.offerWith_cases entry.length fun _ => ⟨entry.toArray, List.size_toArray⟩ with
    ⟨empty, dropped⟩ | ⟨large, dropped⟩ | ⟨evicted, start, nonempty, bounded, -, found, accepted⟩
  · exact Or.inl ⟨List.length_eq_zero_iff.mp empty, dropped⟩
  · exact Or.inr (Or.inl ⟨large, dropped⟩)
  · right
    right
    have inside := ((isLaidOut_drop laid evicted).fits nonempty found).inside
    have kept := isLaidOut_offerWith laid entry.length fun _ => ⟨entry.toArray, List.size_toArray⟩
    rcases (offerWith_queue laid entry.length fun _ => ⟨entry.toArray, List.size_toArray⟩).2 with
      ⟨_, -, dropped, -⟩ | ⟨gone, _, few, answer, queued⟩
    · rw [accepted] at dropped
      contradiction
    · exact ⟨Nat.le_of_add_left_le inside, gone, _, Prod.ext answer rfl, kept, few, queued⟩

/-! ## Rings and queues -/

/-- An action on a ring that lies well is a step of the queue of its entries. -/
theorem act_queue {ring : Ring} (laid : ring.IsLaidOut) (action : Action) :
    QueueStep ring.toList action (ring.act action).1 (ring.act action).2.toList ∧
      ring.KeepsRest (ring.act action).2 := by
  cases action with
  | offer entry =>
      rcases offerWith_queue laid entry.length fun _ => ⟨entry.toArray, List.size_toArray⟩ with
        ⟨rest, step⟩
      rw [act_offer, act]
      refine ⟨?_, rest⟩
      rcases step with ⟨evicted, bounded, answer, later⟩ | ⟨evicted, slot, bounded, answer, later⟩
      · rw [answer, later]
        exact .refused bounded
      · rw [answer, later]
        exact .copied bounded
  | offerWith length fill =>
      rcases offerWith_queue laid length fill with ⟨rest, step⟩
      rw [act]
      refine ⟨?_, rest⟩
      rcases step with ⟨evicted, bounded, answer, later⟩ | ⟨evicted, slot, bounded, answer, later⟩
      · rw [answer, later]
        exact .unfilled bounded
      · rw [answer, later]
        exact .filled slot bounded
  | popFront =>
      have found : ring.queue.isEmpty = ring.toList.isEmpty := List.isEmpty_map.symm
      rw [act, toList_popFront, popFront_eq, found]
      exact ⟨.popped, ring.keepsRest_drop 1⟩
  | clear =>
      refine ⟨.cleared, ring.queue.length, [], ?_, Nat.zero_le 1, fun _ _ => rfl⟩
      rw [List.drop_length]
      rfl
  | drain limit pulls =>
      rw [act, pull_ring, pull_entries]
      refine ⟨?_, ring.keepsRest_drop _⟩
      change QueueStep ring.toList _ (.drained (ring.toList.take (min pulls limit)))
        (toList { ring with queue := ring.queue.drop (min pulls limit) })
      have taken : ring.toList.take (min pulls limit) =
          ring.toList.take (min pulls (min limit ring.toList.length)) :=
        List.take_eq_take_iff.mpr (by omega)
      have left : ring.toList.drop (min pulls limit) =
          ring.toList.drop (min pulls (min limit ring.toList.length)) :=
        List.drop_eq_drop_iff.mpr (by omega)
      rw [toList_drop, taken, left]
      exact .drained rfl

/-- A ring is a queue of byte strings: it begins empty, and after every history each
further action changes the list of entries, and answers, as a queue does.  No
byte of an entry that stays queued is altered. -/
theorem queue_of_history (capacity : Nat) (history : List Action) (action : Action) :
    let ring := (withCapacity capacity).after history
    (withCapacity capacity).toList = [] ∧
      QueueStep ring.toList action (ring.act action).1 (ring.act action).2.toList ∧
      ring.KeepsRest (ring.act action).2 :=
  ⟨rfl, act_queue (isLaidOut_after (isLaidOut_withCapacity capacity) history) action⟩

end Ring

end InbandTelemetry
