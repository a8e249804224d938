import Mathlib.Algebra.BigOperators.Group.List.Basic
import Mathlib.Data.List.DropRight
import Mathlib.Data.Nat.ModEq
import InbandTelemetry.Timing

namespace InbandTelemetry

/-!
# What timing statistics report

Statistics that have seen some batches are described by a log: which batches were seen when, and
which of them brought about a report.  What is pending at any time is what the batches since the
last report add up to, and a report is due when more than an interval has passed since then.  So
nothing is lost between two reports and nothing is counted twice, as far as the sums fit in words.
-/

namespace TimingStatistics

/-- A batch that is seen behind a section, and when, in microseconds. -/
structure Sighting where
  batch : Batch
  now : Nat

/-- A sighting and the report that it brings about, if it does. -/
structure Logged where
  sighting : Sighting
  report : Option TimingReport

namespace Logged

def samples (logged : Logged) : Bool := !logged.sighting.batch.isEmpty

def reports (logged : Logged) : Bool := logged.report.isSome

end Logged

/-- What is added up: the time that batches spend in a section, or their packets. -/
inductive Quantity where
  | elapsed
  | packets

namespace Quantity

/-- What a packet knows about its batch.  No time has passed if it left before it came. -/
def ofMetadata : Quantity → Metadata → Nat
  | elapsed, metadata => metadata.departure - metadata.arrival
  | packets, metadata => metadata.batchSize.toNat

/-- What a batch contributes, as its first packet knows it. -/
def ofBatch (quantity : Quantity) : Batch → Nat
  | [] => 0
  | first :: _ => quantity.ofMetadata first.metadata

def total (quantity : Quantity) (sightings : List Sighting) : Nat :=
  (sightings.map fun sighting => quantity.ofBatch sighting.batch).sum

def ofReport : Quantity → TimingReport → Nat
  | elapsed, report => report.elapsed
  | packets, report => report.packets

/-- What has been reported in a log. -/
def reported (quantity : Quantity) (log : List Logged) : Nat :=
  ((log.filterMap Logged.report).map quantity.ofReport).sum

/-- What statistics have still to report. -/
def pending : Quantity → TimingStatistics → Nat
  | elapsed, statistics => statistics.elapsed
  | packets, statistics => statistics.packets

end Quantity

/-! ## Logs -/

/-- When the interval began in which a log ends: with the last report, or with the first sample if
nothing has been reported. -/
def began? (log : List Logged) : Option Nat :=
  ((log.filter Logged.reports).getLast?.or (log.filter Logged.samples).head?).map fun logged =>
    logged.sighting.now

/-- What has been seen since the last report. -/
def sinceReport (log : List Logged) : List Sighting :=
  (log.rtakeWhile fun logged => !logged.reports).map Logged.sighting

/-- Statistics and the log of what they have seen. -/
structure Session where
  log : List Logged
  statistics : TimingStatistics

/-- Take the next batch into account. -/
def Session.see (session : Session) (sighting : Sighting) : Session :=
  let (report, statistics) := session.statistics.record sighting.batch sighting.now
  ⟨session.log ++ [⟨sighting, report⟩], statistics⟩

/-- New statistics that have seen some batches, the first one first. -/
def Session.after (interval : Duration) (seen : List Sighting) : Session :=
  seen.foldl see ⟨[], { interval }⟩

section Log

variable {log : List Logged} {logged : Logged} {quantity : Quantity}

theorem began?_concat_of_report (reports : logged.reports = true) :
    began? (log ++ [logged]) = some logged.sighting.now := by
  rw [began?, List.filter_append, List.filter_cons_of_pos reports, List.filter_nil,
    List.getLast?_concat]
  rfl

theorem began?_concat_of_unsampled (silent : logged.reports = false)
    (unsampled : logged.samples = false) : began? (log ++ [logged]) = began? log := by
  rw [began?, List.filter_append, List.filter_append, List.filter_cons_of_neg (by simp [silent]),
    List.filter_cons_of_neg (by simp [unsampled]), List.filter_nil, List.filter_nil,
    List.append_nil, List.append_nil, began?]

/-- A sample that is not reported begins an interval only if it is the first one. -/
theorem began?_concat_of_sample (silent : logged.reports = false)
    (sampled : logged.samples = true) :
    began? (log ++ [logged]) = (began? log).or (some logged.sighting.now) := by
  rw [began?, List.filter_append, List.filter_append, List.filter_cons_of_neg (by simp [silent]),
    List.filter_cons_of_pos sampled, List.filter_nil, List.append_nil, List.head?_append, began?,
    List.filter_nil, List.head?_cons]
  cases (log.filter Logged.reports).getLast? with
  | some last => rfl
  | none => cases (log.filter Logged.samples).head? <;> rfl

theorem sinceReport_concat_of_report (reports : logged.reports = true) :
    sinceReport (log ++ [logged]) = [] := by
  rw [sinceReport, List.rtakeWhile_concat_neg _ _ _ (by simp [reports]), List.map_nil]

theorem sinceReport_concat_of_silent (silent : logged.reports = false) :
    sinceReport (log ++ [logged]) = sinceReport log ++ [logged.sighting] := by
  rw [sinceReport, List.rtakeWhile_concat_pos _ _ _ (by simp [silent]), List.map_append,
    List.map_singleton, sinceReport]

theorem total_concat (quantity : Quantity) (seen : List Sighting) (sighting : Sighting) :
    quantity.total (seen ++ [sighting]) =
      quantity.total seen + quantity.ofBatch sighting.batch := by
  simp only [Quantity.total, List.map_append, List.map_cons, List.map_nil, List.sum_append,
    List.sum_singleton]

theorem reported_concat (quantity : Quantity) (log : List Logged) (logged : Logged) :
    quantity.reported (log ++ [logged]) =
      quantity.reported log + logged.report.elim 0 quantity.ofReport := by
  rw [Quantity.reported, List.filterMap_append, List.map_append, List.sum_append]
  rcases logged with ⟨sighting, report⟩
  cases report <;> rfl

end Log

/-! ## One sighting -/

section Record

variable {statistics : TimingStatistics} {first : Packet} {rest : Batch} {now start : Nat}

theorem pending_sample (quantity : Quantity) (statistics : TimingStatistics) (metadata : Metadata) :
    quantity.pending (statistics.sample metadata) =
      (quantity.pending statistics + quantity.ofMetadata metadata) % wordBound := by
  cases quantity <;> rfl

/-- The first sample begins an interval. -/
theorem record_of_first (fresh : statistics.began = none) :
    statistics.record (first :: rest) now =
      (none, { statistics.sample first.metadata with began := some now }) := by
  rw [record, fresh]

/-- A sample that comes in time is added to what is pending. -/
theorem record_of_soon (running : statistics.began = some start)
    (soon : ¬ start + statistics.interval.microseconds < now) :
    statistics.record (first :: rest) now = (none, statistics.sample first.metadata) := by
  rw [record, running]
  exact if_pos (by omega)

/-- A sample that comes late is reported with all that is pending. -/
theorem record_of_late (first : Packet) (rest : Batch) (running : statistics.began = some start)
    (late : start + statistics.interval.microseconds < now) :
    ∃ report, (∀ quantity : Quantity, quantity.ofReport report =
        quantity.pending (statistics.sample first.metadata)) ∧
      statistics.record (first :: rest) now =
        (some report, { interval := statistics.interval, began := some now }) := by
  refine ⟨⟨(statistics.sample first.metadata).elapsed, (statistics.sample first.metadata).packets⟩,
    fun quantity => by cases quantity <;> rfl, ?_⟩
  rw [record, running]
  exact if_neg (by omega)

end Record

/-! ## All sightings -/

namespace Session

/-- What the statistics of a session know about its log. -/
structure Kept (interval : Duration) (session : Session) : Prop where
  interval : session.statistics.interval = interval
  began : session.statistics.began = began? session.log
  sampled : ∀ logged ∈ session.log, logged.reports = true → logged.samples = true
  pending : ∀ quantity : Quantity, quantity.pending session.statistics =
    quantity.total (sinceReport session.log) % wordBound
  balanced : ∀ quantity : Quantity,
    quantity.reported session.log + quantity.pending session.statistics ≡
      quantity.total (session.log.map Logged.sighting) [MOD wordBound]

variable {interval : Duration} {session : Session} {sighting : Sighting}
  {statistics : TimingStatistics}

theorem see_of_record {report : Option TimingReport}
    (recorded : session.statistics.record sighting.batch sighting.now = (report, statistics)) :
    session.see sighting = ⟨session.log ++ [⟨sighting, report⟩], statistics⟩ := by
  rw [see, recorded]

theorem Kept.balanced_concat (kept : session.Kept interval) {report : Option TimingReport}
    {quantity : Quantity}
    (account : report.elim 0 quantity.ofReport + quantity.pending statistics =
      (quantity.pending session.statistics + quantity.ofBatch sighting.batch) % wordBound) :
    quantity.reported (session.log ++ [Logged.mk sighting report]) + quantity.pending statistics ≡
      quantity.total ((session.log ++ [Logged.mk sighting report]).map Logged.sighting)
      [MOD wordBound] := by
  rw [reported_concat, Nat.add_assoc, account, List.map_append, List.map_singleton, total_concat]
  calc quantity.reported session.log +
        (quantity.pending session.statistics + quantity.ofBatch sighting.batch) % wordBound
    _ ≡ quantity.reported session.log +
        (quantity.pending session.statistics + quantity.ofBatch sighting.batch)
        [MOD wordBound] := (Nat.mod_modEq _ _).add_left _
    _ = quantity.reported session.log + quantity.pending session.statistics +
        quantity.ofBatch sighting.batch := (Nat.add_assoc _ _ _).symm
    _ ≡ quantity.total (session.log.map Logged.sighting) + quantity.ofBatch sighting.batch
        [MOD wordBound] := (kept.balanced quantity).add_right _

theorem Kept.sampled_concat (kept : session.Kept interval) {report : Option TimingReport}
    (sampled : report.isSome = true → sighting.batch ≠ []) :
    ∀ logged ∈ session.log ++ [⟨sighting, report⟩],
      logged.reports = true → logged.samples = true := by
  intro logged member reports
  rcases List.mem_append.mp member with earlier | last
  · exact kept.sampled logged earlier reports
  · cases List.mem_singleton.mp last
    simpa [Logged.samples] using sampled reports

/-- Without a report, what a batch brings is added to what is pending. -/
theorem Kept.concat_of_silent (kept : session.Kept interval)
    (same : statistics.interval = session.statistics.interval)
    (began : statistics.began = began? (session.log ++ [⟨sighting, none⟩]))
    (added : ∀ quantity : Quantity, quantity.pending statistics =
      (quantity.pending session.statistics + quantity.ofBatch sighting.batch) % wordBound) :
    Kept interval ⟨session.log ++ [⟨sighting, none⟩], statistics⟩ where
  interval := same.trans kept.interval
  began := began
  sampled := kept.sampled_concat fun reports => nomatch reports
  pending := by
    intro quantity
    rw [added, kept.pending, sinceReport_concat_of_silent rfl, total_concat, Nat.mod_add_mod]
  balanced := by
    intro quantity
    apply kept.balanced_concat
    rw [Option.elim_none, Nat.zero_add, added]

/-- A report takes all that was pending, and what its own batch brings. -/
theorem Kept.concat_of_report (kept : session.Kept interval) {report : TimingReport}
    (sampled : sighting.batch ≠ [])
    (whole : ∀ quantity : Quantity, quantity.ofReport report =
      (quantity.pending session.statistics + quantity.ofBatch sighting.batch) % wordBound) :
    Kept interval ⟨session.log ++ [⟨sighting, some report⟩],
      { interval := session.statistics.interval, began := some sighting.now }⟩ where
  interval := kept.interval
  began := by rw [began?_concat_of_report rfl]
  sampled := kept.sampled_concat fun _ => sampled
  pending := by
    intro quantity
    rw [sinceReport_concat_of_report rfl]
    cases quantity <;> rfl
  balanced := by
    intro quantity
    apply kept.balanced_concat
    rw [Option.elim_some, whole]
    cases quantity <;> rfl

theorem Kept.see (kept : session.Kept interval) (sighting : Sighting) :
    (session.see sighting).Kept interval := by
  rcases sighting with ⟨_ | ⟨first, rest⟩, now⟩
  -- an empty batch is logged, but brings nothing
  · rw [see_of_record rfl]
    refine kept.concat_of_silent rfl ?_ fun quantity => ?_
    · rw [began?_concat_of_unsampled rfl rfl, kept.began]
    · rw [Quantity.ofBatch, Nat.add_zero, kept.pending, Nat.mod_mod]
  · cases running : session.statistics.began with
    | none =>
        rw [see_of_record (record_of_first running)]
        refine kept.concat_of_silent rfl ?_ fun quantity => ?_
        · rw [began?_concat_of_sample rfl rfl, ← kept.began, running, Option.none_or]
        · cases quantity <;> rfl
    | some start =>
        by_cases late : start + session.statistics.interval.microseconds < now
        · obtain ⟨report, whole, recorded⟩ := record_of_late first rest running late
          rw [see_of_record recorded]
          refine kept.concat_of_report (List.cons_ne_nil _ _) fun quantity => ?_
          rw [whole, pending_sample]
          rfl
        · rw [see_of_record (record_of_soon running late)]
          refine kept.concat_of_silent rfl ?_ fun quantity => pending_sample quantity _ _
          rw [began?_concat_of_sample rfl rfl, ← kept.began, running, Option.some_or]
          exact running

/-- Before the first sample, no interval has begun. -/
theorem Kept.began_of_unsampled (kept : session.Kept interval)
    (unsampled : ∀ logged ∈ session.log, logged.samples = false) :
    session.statistics.began = none := by
  have silent : ∀ logged ∈ session.log, ¬ logged.reports = true := by
    intro logged member reports
    exact absurd (kept.sampled logged member reports) (by simp [unsampled logged member])
  rw [kept.began, began?, List.filter_eq_nil_iff.mpr silent,
    List.filter_eq_nil_iff.mpr fun logged member => by simp [unsampled logged member]]
  rfl

/-- A sample is reported if it comes late in an interval. -/
theorem Kept.isSome_record_iff (kept : session.Kept interval) (first : Packet) (rest : Batch)
    (now : Nat) :
    (session.statistics.record (first :: rest) now).1.isSome = true ↔
      ∃ start, began? session.log = some start ∧ start + interval.microseconds < now := by
  rw [← kept.began, ← kept.interval]
  cases running : session.statistics.began with
  | none =>
      simp only [record_of_first running, Option.isSome_none, Bool.false_eq_true, reduceCtorEq,
        false_and, exists_false]
  | some start =>
      simp only [Option.some.injEq, exists_eq_left']
      by_cases late : start + session.statistics.interval.microseconds < now
      · obtain ⟨report, -, recorded⟩ := record_of_late first rest running late
        simp only [recorded, late, Option.isSome_some]
      · simp only [record_of_soon running late, late, Option.isSome_none, Bool.false_eq_true]

/-- A report is about all samples since the report before. -/
theorem Kept.ofReport_record (kept : session.Kept interval) {first : Packet} {rest : Batch}
    {now : Nat} {report : TimingReport}
    (reported : (session.statistics.record (first :: rest) now).1 = some report)
    (quantity : Quantity) :
    quantity.ofReport report =
      (quantity.total (sinceReport session.log) + quantity.ofMetadata first.metadata) %
        wordBound := by
  have due : (session.statistics.record (first :: rest) now).1.isSome = true := by
    rw [reported, Option.isSome_some]
  obtain ⟨start, running, late⟩ := (kept.isSome_record_iff first rest now).mp due
  rw [← kept.began] at running
  rw [← kept.interval] at late
  obtain ⟨report', whole, recorded⟩ := record_of_late first rest running late
  rw [recorded, Option.some.injEq] at reported
  rw [← reported, whole, pending_sample, kept.pending, Nat.mod_add_mod]

theorem after_concat (interval : Duration) (seen : List Sighting) (sighting : Sighting) :
    after interval (seen ++ [sighting]) = (after interval seen).see sighting := by
  rw [after, List.foldl_append]
  rfl

theorem kept_after (interval : Duration) (seen : List Sighting) :
    (after interval seen).Kept interval := by
  -- a log grows at its end
  induction seen using List.reverseRecOn with
  | nil =>
      exact {
        interval := rfl
        began := rfl
        sampled := fun _ member => absurd member List.not_mem_nil
        pending := fun quantity => by cases quantity <;> rfl
        balanced := fun quantity => by cases quantity <;> rfl }
  | append_singleton seen sighting before =>
      rw [after_concat]
      exact before.see sighting

theorem map_sighting_after (interval : Duration) (seen : List Sighting) :
    (after interval seen).log.map Logged.sighting = seen := by
  induction seen using List.reverseRecOn with
  | nil => rfl
  | append_singleton seen sighting before =>
      rw [after_concat, see, List.map_append, before, List.map_singleton]

end Session

/-- Whatever batches the statistics see and whenever they see them, what has been reported and what
is pending add up to what the batches bring, as far as words hold it.  A sample is reported if it
comes more than an interval after the last report or, before any report, after the first sample; the
report is about all that has come since the report before. -/
theorem timing_of_sightings (interval : Duration) (seen : List Sighting) :
    let session := Session.after interval seen
    session.log.map Logged.sighting = seen ∧
    (∀ quantity : Quantity,
      quantity.reported session.log + quantity.pending session.statistics ≡
        quantity.total seen [MOD wordBound]) ∧
    (∀ quantity : Quantity, quantity.pending session.statistics =
      quantity.total (sinceReport session.log) % wordBound) ∧
    (∀ now, session.statistics.record [] now = (none, session.statistics)) ∧
    (∀ next : Sighting, (∀ sighting ∈ seen, sighting.batch = []) →
      (session.statistics.record next.batch next.now).1 = none) ∧
    ∀ next : Sighting, next.batch ≠ [] →
      ((session.statistics.record next.batch next.now).1.isSome = true ↔
        ∃ start, began? session.log = some start ∧
          start + interval.microseconds < next.now) ∧
      ∀ report, (session.statistics.record next.batch next.now).1 = some report →
        ∀ quantity : Quantity, quantity.ofReport report =
          (quantity.total (sinceReport session.log) + quantity.ofBatch next.batch) %
            wordBound := by
  intro session
  have kept : session.Kept interval := Session.kept_after interval seen
  have complete : session.log.map Logged.sighting = seen := Session.map_sighting_after interval seen
  refine ⟨complete, ?_, kept.pending, fun _ => rfl, ?_, ?_⟩
  · intro quantity
    rw [← complete]
    exact kept.balanced quantity
  · rintro ⟨_ | ⟨first, rest⟩, now⟩ unsampled
    · rfl
    · have fresh : session.statistics.began = none := by
        refine kept.began_of_unsampled fun logged member => ?_
        have sighted : logged.sighting ∈ seen := complete ▸ List.mem_map_of_mem member
        rw [Logged.samples, unsampled _ sighted]
        rfl
      rw [record_of_first fresh]
  · rintro ⟨_ | ⟨first, rest⟩, now⟩ nonempty
    · exact absurd rfl nonempty
    · exact ⟨kept.isSome_record_iff first rest now,
        fun report reported quantity => kept.ofReport_record reported quantity⟩

end TimingStatistics

end InbandTelemetry
