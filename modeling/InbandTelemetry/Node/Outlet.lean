namespace InbandTelemetry

/-!
# Bounded outputs

An output of a node is a queue with room for a limited number of items.  Its
consumer takes the stream of items once, and may drop it later; then nothing
waits any more and nothing can be added.
-/

/-- An output of a node. -/
structure Outlet (α : Type) where
  room : Nat
  waiting : List α := []
  taken : Bool := false
  closed : Bool := false

/-- What a consumer finds at an output. -/
inductive Received (α : Type) where
  /-- The stream has not been taken, or has been dropped. -/
  | notTaken
  | empty
  | ended
  | item (item : α)

namespace Outlet

variable {α : Type}

def free (outlet : Outlet α) : Nat := outlet.room - outlet.waiting.length

/-- Add an item.  It is lost if the consumer is gone. -/
def push (outlet : Outlet α) (item : α) : Outlet α :=
  if outlet.closed then outlet else { outlet with waiting := outlet.waiting ++ [item] }

/-- Take the stream.  The answer says whether it was still there. -/
def take (outlet : Outlet α) : Bool × Outlet α := (!outlet.taken, { outlet with taken := true })

/-- The consumer goes away, and what was waiting is lost. -/
def close (outlet : Outlet α) : Outlet α := { outlet with waiting := [], closed := true }

def drop (outlet : Outlet α) : Outlet α := if outlet.taken then outlet.close else outlet

/-- Give up a stream that was never taken. -/
def abandon (outlet : Outlet α) : Outlet α := if outlet.taken then outlet else outlet.close

/-- Look for an item once.  The end is reached when the producer is gone. -/
def receive (outlet : Outlet α) (producing : Bool) : Received α × Outlet α :=
  if !outlet.taken || outlet.closed then
    (.notTaken, outlet)
  else
    match outlet.waiting with
    | item :: rest => (.item item, { outlet with waiting := rest })
    | [] => (if producing then .empty else .ended, outlet)

end Outlet

end InbandTelemetry
