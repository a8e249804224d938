import InbandTelemetry.Packet

namespace InbandTelemetry

/-!
# Time spent in a section of a node

A timer in front of a section notes when each packet arrives and in how large a
batch, a timer behind it notes when it departs.  The statistics sample the first
packet of every batch, add up, and report once per interval.  Sums are kept in
64-bit words.
-/

/-- Which end of the section a timer stands at. -/
inductive TimerKind where
  | start
  | finish
deriving DecidableEq

namespace TimerKind

def name : TimerKind → String
  | start => "Start"
  | finish => "End"

def stamp (kind : TimerKind) (batch : Batch) (now : Nat) : Batch :=
  match kind with
  | start =>
      batch.map fun packet =>
        { packet with
          metadata.arrival := now
          metadata.batchSize := UInt32.ofNat batch.length }
  | finish => batch.map fun packet => { packet with metadata.departure := now }

end TimerKind

structure Duration where
  seconds : Nat
  nanoseconds : Nat
deriving DecidableEq

/-- Whole microseconds, as a 64-bit word holds them. -/
def Duration.microseconds (duration : Duration) : Nat :=
  (duration.seconds * 1000000 + duration.nanoseconds / 1000) % wordBound

/-- The sums over one interval. -/
structure TimingReport where
  /-- The time that batches spent in the section, in microseconds. -/
  elapsed : Nat
  packets : Nat
deriving DecidableEq

/-- The average time per packet in microseconds, zero if there was no packet. -/
def TimingReport.perPacket (report : TimingReport) : Float :=
  if report.packets = 0 then 0
  else (UInt64.ofNat report.elapsed).toFloat / (UInt64.ofNat report.packets).toFloat

/-- Timing sums that are still to be reported. -/
structure TimingStatistics where
  interval : Duration := ⟨1, 0⟩
  elapsed : Nat := 0
  packets : Nat := 0
  /-- When the current interval began, in microseconds.  There is none before the
  first sample. -/
  began : Option Nat := none
deriving DecidableEq

namespace TimingStatistics

/-- The statistics with the sample of one batch added. -/
def sample (statistics : TimingStatistics) (metadata : Metadata) : TimingStatistics :=
  { statistics with
    elapsed := (statistics.elapsed + (metadata.departure - metadata.arrival)) % wordBound
    packets := (statistics.packets + metadata.batchSize.toNat) % wordBound }

/-- Take a batch seen at time `now` into account.  A report is due if more than the
interval has passed; it includes the batch, and a new interval begins.  The first
sample begins an interval, and an empty batch is no sample. -/
def record (statistics : TimingStatistics) (batch : Batch) (now : Nat) :
    Option TimingReport × TimingStatistics :=
  match batch with
  | [] => (none, statistics)
  | first :: _ =>
      let sampled := statistics.sample first.metadata
      match statistics.began with
      | none => (none, { sampled with began := some now })
      | some began =>
          if now - began ≤ statistics.interval.microseconds then
            (none, sampled)
          else
            (some ⟨sampled.elapsed, sampled.packets⟩,
              { sampled with elapsed := 0, packets := 0, began := some now })

end TimingStatistics

end InbandTelemetry
