namespace InbandTelemetry

/-!
# Counters over a time window

A gate counts the packets and bytes of the batches that it processes.  The
counts start again when a batch comes more than one interval after the window
was opened.  They stop at the largest 64-bit value.
-/

def counterLimit : Nat := 18446744073709551615

structure Counters where
  packets : Nat := 0
  bytes : Nat := 0
  /-- When the window was opened, in microseconds.  There is none before the first
  batch. -/
  opened : Option Nat := none
  interval : Nat := 0
deriving DecidableEq

namespace Counters

/-- Count a batch, then open a new window if the current one has been open for
longer than the interval.  The batch that opens a new window is in neither
count; the very first batch is counted. -/
def account (counters : Counters) (packets bytes now : Nat) : Counters :=
  let counted : Counters :=
    { counters with
      packets := min (counters.packets + packets) counterLimit
      bytes := min (counters.bytes + bytes) counterLimit }
  match counters.opened with
  | none => { counted with opened := some now }
  | some opened =>
      if counters.interval < now - opened then
        { counted with packets := 0, bytes := 0, opened := some now }
      else
        counted

end Counters

end InbandTelemetry
