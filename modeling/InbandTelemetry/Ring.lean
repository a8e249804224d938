import InbandTelemetry.Bytes

namespace InbandTelemetry

/-!
# A ring of pending postcards

A ring keeps byte strings in the order in which they were accepted, each in one
contiguous stretch of a store of fixed size.  An entry never straddles the end
of the store and never overlaps a queued one.  Where a new entry finds no room,
the oldest entries give way until it does.
-/

/-- A store of fixed size, and the stretches of its queued entries, oldest first. -/
structure Ring where
  store : Array UInt8
  queue : List Span := []

/-- The answer to an entry that is offered to a ring. -/
inductive Offer where
  /-- The entry is queued, after that many older entries were evicted. -/
  | accepted (evicted : Nat)
  /-- The entry fits in no way.  Entries that were evicted meanwhile are lost. -/
  | dropped (evicted : Nat)
deriving DecidableEq

namespace Offer

def isAccepted : Offer → Bool
  | accepted _ => true
  | dropped _ => false

def evicted : Offer → Nat
  | accepted evicted => evicted
  | dropped evicted => evicted

end Offer

namespace Ring

def withCapacity (capacity : Nat) : Ring := { store := Array.replicate capacity 0 }

def capacity (ring : Ring) : Nat := ring.store.size

def size (ring : Ring) : Nat := ring.queue.length

def isEmpty (ring : Ring) : Bool := ring.queue.isEmpty

def used (ring : Ring) : Nat := ring.queue.foldr (fun span total => span.length + total) 0

def read (ring : Ring) (span : Span) : Bytes := (ring.store.extract span.start span.stop).toList

/-- The queued entries, oldest first. -/
def toList (ring : Ring) : List Bytes := ring.queue.map ring.read

/-! ## Placing an entry -/

/-- Where an entry of `length` bytes fits without touching a queued one.  Queued
entries fill the store from the start of the oldest one, the head, to the stop
of the newest one, the tail.  If the tail lies behind the head, there is room
after the tail and before the head; otherwise the entries wrap round the end of
the store, and there is room between tail and head. -/
def placement? (capacity length : Nat) (queue : List Span) : Option Nat :=
  match queue.head?, queue.getLast? with
  | some oldest, some newest =>
      if oldest.start < newest.stop then
        if length ≤ capacity - newest.stop then some newest.stop
        else if length ≤ oldest.start then some 0
        else none
      else if length ≤ oldest.start - newest.stop then some newest.stop
      else none
  | _, _ => if length ≤ capacity then some 0 else none

/-- What is left of the queue when an entry has found its place. -/
structure Admission where
  place : Option Nat
  queue : List Span
  evicted : Nat

/-- Let the oldest entries give way until an entry of `length` bytes fits. -/
def makeRoom (capacity length : Nat) (queue : List Span) : Admission :=
  match placement? capacity length queue, queue with
  | some place, queue => ⟨some place, queue, 0⟩
  | none, [] => ⟨none, [], 0⟩
  | none, _ :: rest =>
      let later := makeRoom capacity length rest
      { later with evicted := later.evicted + 1 }

/-- Write bytes into a store, from an offset on. -/
def put (store : Array UInt8) (start : Nat) : Bytes → Array UInt8
  | [] => store
  | byte :: rest => put (store.setIfInBounds start byte) (start + 1) rest

@[simp] theorem size_put (store : Array UInt8) (start : Nat) (bytes : Bytes) :
    (put store start bytes).size = store.size := by
  induction bytes generalizing store start with
  | nil => rfl
  | cons byte rest ih => rw [put, ih, Array.size_setIfInBounds]

/-- The bytes of the store in the slot of `length` bytes at an offset. -/
def slot (ring : Ring) (start length : Nat) : Vector UInt8 length :=
  Vector.ofFn fun index => ring.store.getD (start + index) 0

/-- Reserve a slot for an entry of `length` bytes and let `fill` write the entry in
place, over what the slot holds.  An entry without bytes is dropped. -/
def offerWith (ring : Ring) (length : Nat) (fill : Vector UInt8 length → Vector UInt8 length) :
    Offer × Ring :=
  if length = 0 then
    (.dropped 0, ring)
  else
    let admission := makeRoom ring.capacity length ring.queue
    match admission.place with
    | none => (.dropped admission.evicted, { ring with queue := admission.queue })
    | some start =>
        (.accepted admission.evicted,
          { store := put ring.store start (fill (ring.slot start length)).toList
            queue := admission.queue ++ [⟨start, start + length⟩] })

def offer (ring : Ring) (entry : Bytes) : Offer × Ring :=
  ring.offerWith entry.length fun _ => ⟨entry.toArray, List.size_toArray⟩

/-! ## Taking entries out -/

def front? (ring : Ring) : Option Bytes := ring.queue.head?.map ring.read

/-- Forget the oldest entry.  The answer says whether there was one. -/
def popFront (ring : Ring) : Bool × Ring :=
  match ring.queue with
  | [] => (false, ring)
  | _ :: rest => (true, { ring with queue := rest })

def clear (ring : Ring) : Ring := { ring with queue := [] }

@[simp] theorem toList_popFront (ring : Ring) : ring.popFront.2.toList = ring.toList.tail := by
  unfold popFront
  split
  · rename_i nothing
    simp [toList, nothing]
  · rename_i span rest waiting
    rw [toList, toList, waiting]
    rfl

@[simp] theorem toList_clear (ring : Ring) : ring.clear.toList = [] := rfl

/-- A lazy removal of at most `remaining` entries, oldest first.  An entry leaves
the ring when it is pulled. -/
structure Drain where
  ring : Ring
  remaining : Nat

def drain (ring : Ring) (limit : Nat) : Drain := ⟨ring, limit⟩

namespace Drain

/-- Pull the next entry, if one is left to remove. -/
def next? (drain : Drain) : Option (Bytes × Drain) :=
  match drain.remaining, drain.ring.queue with
  | remaining + 1, span :: rest =>
      some (drain.ring.read span, ⟨{ drain.ring with queue := rest }, remaining⟩)
  | _, _ => none

def sizeHint (drain : Drain) : Nat := min drain.remaining drain.ring.size

/-- Pull at most `pulls` entries. -/
def pull (drain : Drain) : Nat → List Bytes × Drain
  | 0 => ([], drain)
  | pulls + 1 =>
      match drain.next? with
      | none => ([], drain)
      | some (entry, later) =>
          let (entries, last) := later.pull pulls
          (entry :: entries, last)

end Drain

end Ring

end InbandTelemetry
