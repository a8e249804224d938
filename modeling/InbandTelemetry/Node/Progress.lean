import InbandTelemetry.Node.Basic

namespace InbandTelemetry

/-!
# The driver of a node

The driver moves a node until nothing can move.  Commands come first; then a
drain that is due; then, once a slot of the output is held, the next batch.  So a
full output holds the input back, and every batch is processed under the
configuration left by all commands sent before it.  Each move uses up something
that waits, so the driver comes to rest.
-/

namespace Node

/-- One move of the driver.  There is none while the driver has to wait, and none
after it has stopped.  A driver that finds the output without a consumer stops
where it is; one whose owner is gone drains once more and stops.  `arrival` and
`departure` are the clock readings of the batch that is processed. -/
def advance (arrival departure : Nat) (node : Node) : Option Node :=
  if !node.running then
    none
  else
    match node.commands with
    | command :: rest => some ({ node with commands := rest }.applyCommand command)
    | [] =>
        if !node.owned then some { node.drain with running := false }
        else if node.drainDue then some { node.drain with drainDue := false }
        else if !node.slotHeld then
          if node.output.closed then some { node with running := false }
          else if node.output.free = 0 then none
          else some { node with slotHeld := true }
        else
          match node.input with
          | [] => none
          | gated :: rest => some ({ node with input := rest }.processBatch arrival departure gated)

/-- How much can still move: the driver itself, commands, a drain, batches, and a
slot to be held for each batch and once more. -/
def pending (node : Node) : Nat :=
  node.running.toNat + node.commands.length + node.drainDue.toNat + 2 * node.input.length +
    (!node.slotHeld).toNat

@[simp] theorem pending_applyCommand (node : Node) (command : Command) :
    (node.applyCommand command).pending = node.pending := by
  unfold applyCommand
  split <;> rfl

@[simp] theorem pending_drain (node : Node) : node.drain.pending = node.pending := by
  unfold drain
  split <;> rfl

/-- Processing a batch can at most give the held slot back. -/
theorem pending_processBatch_le (node : Node) (arrival departure : Nat) (gated : GatedBatch) :
    (node.processBatch arrival departure gated).pending ≤ node.pending + 1 := by
  unfold processBatch
  dsimp only
  split
  · exact Nat.le_succ _
  · cases held : node.slotHeld <;> simp [pending, held]

/-- Every move of the driver uses something up. -/
theorem pending_lt_of_advance {arrival departure : Nat} {node next : Node}
    (moved : node.advance arrival departure = some next) : next.pending < node.pending := by
  unfold advance at moved
  split at moved
  · contradiction
  · rename_i runs
    have running : node.running = true := by simpa using runs
    split at moved
    · rename_i command rest waiting
      cases moved
      rw [pending_applyCommand]
      simp [pending, waiting]
    · split at moved
      · cases moved
        have same := node.pending_drain
        have still : node.drain.running = true := by
          unfold drain
          split <;> exact running
        simp only [pending, still, running, Bool.toNat_true, Bool.toNat_false] at same ⊢
        omega
      · split at moved
        · rename_i due
          cases moved
          have same := node.pending_drain
          have still : node.drain.drainDue = true := by
            unfold drain
            split <;> exact due
          simp only [pending, still, due, Bool.toNat_true, Bool.toNat_false] at same ⊢
          omega
        · split at moved
          · rename_i free
            have unheld : node.slotHeld = false := by simpa using free
            split at moved
            · cases moved
              simp [pending, running]
            · split at moved
              · contradiction
              · cases moved
                simp [pending, unheld]
          · split at moved
            · contradiction
            · rename_i gated rest waiting
              cases moved
              have bound :=
                { node with input := rest }.pending_processBatch_le arrival departure gated
              simp only [pending, waiting, List.length_cons] at bound ⊢
              omega

/-- Let the driver move until it has to wait.  The clock is a sequence of readings,
of which each move has two. -/
def runFrom (clock : Nat → Nat) (reading : Nat) (node : Node) : Node :=
  match moved : node.advance (clock reading) (clock (reading + 1)) with
  | none => node
  | some next => runFrom clock (reading + 2) next
termination_by node.pending
decreasing_by exact pending_lt_of_advance moved

/-- Let the driver move until it has to wait, from the first reading of a clock. -/
def run (clock : Nat → Nat) (node : Node) : Node := node.runFrom clock 0

end Node

end InbandTelemetry
