import InbandTelemetry.WireError

namespace InbandTelemetry

/-!
# Opening and moving stretches of a packet

A packet grows by a gap of zero bytes, and a stretch of it moves to another
offset.  Both operations refuse a stretch that leaves the packet and then
change nothing.
-/

namespace Bytes

/-- Insert `length` zero bytes at offset `start`.  The bytes from `start` on move
towards the end. -/
def insertGap (bytes : Bytes) (start length : Nat) : Except WireError Bytes :=
  if start ≤ bytes.length then
    .ok (bytes.take start ++ (List.replicate length 0 ++ bytes.drop start))
  else
    .error (.outOfBounds start length bytes.length)

/-- Exchange two adjacent stretches: the `first` bytes from `start` on, and the
`second` bytes behind them. -/
def exchange (bytes : Bytes) (start first second : Nat) : Bytes :=
  bytes.take start ++
    (window bytes (start + first) second ++
      (window bytes start first ++ bytes.drop (start + first + second)))

/-- Move the stretch of `length` bytes at `source` so that it begins at `target`.
The bytes between the two places close the old gap and open the new one, which
is an exchange of adjacent stretches.  Both places must lie inside the packet;
the old one is tested first. -/
def moveWindow (bytes : Bytes) (source target length : Nat) : Except WireError Bytes :=
  if bytes.length < source + length then
    .error (.outOfBounds source length bytes.length)
  else if bytes.length < target + length then
    .error (.outOfBounds target length bytes.length)
  else if source < target then
    .ok (exchange bytes source length (target - source))
  else if target < source then
    .ok (exchange bytes target (source - target) length)
  else
    .ok bytes

/-! ## Lengths -/

theorem length_of_insertGap {bytes wider : Bytes} {start length : Nat}
    (inserted : insertGap bytes start length = .ok wider) :
    wider.length = bytes.length + length := by
  unfold insertGap at inserted
  split at inserted
  · cases inserted
    simp only [List.length_append, List.length_take, List.length_replicate, List.length_drop]
    omega
  · contradiction

theorem length_exchange {bytes : Bytes} {start first second : Nat}
    (inside : start + first + second ≤ bytes.length) :
    (exchange bytes start first second).length = bytes.length := by
  simp only [exchange, window, List.length_append, List.length_take, List.length_drop]
  omega

theorem length_of_moveWindow {bytes moved : Bytes} {source target length : Nat}
    (success : moveWindow bytes source target length = .ok moved) :
    moved.length = bytes.length := by
  unfold moveWindow at success
  split at success
  · contradiction
  · split at success
    · contradiction
    · split at success
      · cases success
        exact length_exchange (by omega)
      · split at success
        · cases success
          exact length_exchange (by omega)
        · cases success
          rfl

end Bytes

end InbandTelemetry
