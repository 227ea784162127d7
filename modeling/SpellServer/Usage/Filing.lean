import SpellServer.Usage.Retention

/-!
# The usage a service answers from

However its requests, drains, flushes and purges interleave, a service that is
deployed cleanly answers as if each request had been filed in the tables by
itself.  A row counts at least one request, so the amounts decide which rows
there are.
-/

namespace SpellServer

open Library

/-! ## Rows that count something -/

/-- Counters of at least one request. -/
def DailyCounters.counted : AddSubsemigroup DailyCounters where
  carrier := { counters | 1 ≤ counters.requestCount }
  add_mem' := by
    intro one two oneCounts twoCounts
    have sum : (1 : ℤ) ≤ one.requestCount + two.requestCount := by
      have first : (1 : ℤ) ≤ one.requestCount := oneCounts
      have second : (1 : ℤ) ≤ two.requestCount := twoCounts
      omega
    exact sum

/-- Counts of at least one. -/
def countedRequests : AddSubsemigroup ℤ where
  carrier := { count | 1 ≤ count }
  add_mem' := by
    intro one two oneCounts twoCounts
    have sum : (1 : ℤ) ≤ one + two := by
      have first : (1 : ℤ) ≤ one := oneCounts
      have second : (1 : ℤ) ≤ two := twoCounts
      omega
    exact sum

theorem DailyCounters.zero_uncounted : (0 : DailyCounters) ∉ DailyCounters.counted := by
  intro counts
  have positive : (1 : ℤ) ≤ 0 := counts
  omega

theorem zero_uncounted : (0 : ℤ) ∉ countedRequests := by
  intro counts
  have positive : (1 : ℤ) ≤ 0 := counts
  omega

theorem UsageRecord.dailyAmount_counted (entry : UsageRecord) :
    entry.dailyAmount.2 ∈ DailyCounters.counted := le_refl (1 : ℤ)

theorem UsageRecord.latencyAmount_counted (entry : UsageRecord) :
    entry.latencyAmount.2 ∈ countedRequests := le_refl (1 : ℤ)

structure Batch.Counted (batch : Batch) : Prop where
  daily : ∀ item ∈ batch.daily, item.2 ∈ DailyCounters.counted
  latency : ∀ item ∈ batch.latency, item.2 ∈ countedRequests

structure UsageTables.Counted (tables : UsageTables) : Prop where
  daily : tables.daily.Counted DailyCounters.counted
  latency : tables.latency.Counted countedRequests

theorem FlushFrame.ready_counted : FlushFrame.ready.batch.Counted where
  daily _ member := by cases member
  latency _ member := by cases member

theorem UsageRecorder.new_counted : UsageRecorder.new.contents.Counted where
  daily _ member := by cases member
  latency _ member := by cases member

namespace UsageTables.Counted

variable {tables : UsageTables}

theorem addAll (counted : tables.Counted) {batch : Batch} (held : batch.Counted) :
    Counted { daily := tables.daily.addAll batch.daily
              latency := tables.latency.addAll batch.latency } where
  daily := counted.daily.addAll held.daily
  latency := counted.latency.addAll held.latency

theorem settle (counted : tables.Counted) {frame : FlushFrame} (held : frame.batch.Counted)
    (commits : Bool) : (frame.settle tables commits).1.Counted := by
  cases frame with
  | ready => exact counted
  | drained taken => exact counted
  | flushing batch =>
      cases flushed : tables.flushUsage batch commits with
      | none => simpa only [FlushFrame.settle, flushed] using counted
      | some written =>
          have added := UsageTables.flushUsage_eq_some flushed
          subst added
          simp only [FlushFrame.settle, flushed]
          exact counted.addAll held

theorem keptFrom (counted : tables.Counted) (cutoffDay : String) :
    (tables.keptFrom cutoffDay).Counted where
  daily := counted.daily.retain _
  latency := counted.latency.retain _

/-- Rows that count something are decided by their amounts. -/
theorem agreeFrom {other : UsageTables} {day : String} (counted : tables.Counted)
    (otherCounted : other.Counted)
    (daily : ∀ key : DailyKey, day ≤ key.day →
      tables.daily.amountAt key = other.daily.amountAt key)
    (latency : ∀ key : LatencyKey, day ≤ key.day →
      tables.latency.amountAt key = other.latency.amountAt key) :
    UsageTables.AgreeFrom day tables other where
  daily key recent :=
    counted.daily.lookup_eq otherCounted.daily DailyCounters.zero_uncounted (daily key recent)
  latency key recent :=
    counted.latency.lookup_eq otherCounted.latency zero_uncounted (latency key recent)

end UsageTables.Counted

namespace UsageProcess

/-- What a process holds counts something. -/
structure Counted (process : UsageProcess) : Prop where
  recorder : process.recorder.contents.Counted
  ticker : process.ticker.batch.Counted
  main : process.main.batch.Counted

namespace Counted

variable {process : UsageProcess} {drainer : Drainer} {frame : FlushFrame}

theorem new : UsageProcess.new.Counted where
  recorder := UsageRecorder.new_counted
  ticker := FlushFrame.ready_counted
  main := FlushFrame.ready_counted

theorem held (counted : process.Counted) (stands : process.frame? drainer = some frame) :
    frame.batch.Counted := by
  cases drainer with
  | ticker =>
      cases stands
      exact counted.ticker
  | main =>
      have phase : process.main.batch = frame.batch := by
        rw [MainPhase.batch, show process.main.frame? = some frame from stands, Option.getD_some]
      exact phase ▸ counted.main

theorem setFrame (counted : process.Counted) {recorder : UsageRecorder}
    (recorded : recorder.contents.Counted) (held : frame.batch.Counted) :
    (({ process with recorder } : UsageProcess).setFrame frame drainer).Counted := by
  cases drainer with
  | ticker => exact ⟨recorded, held, counted.main⟩
  | main => exact ⟨recorded, counted.ticker, held⟩

theorem flushed (counted : process.Counted) : (process.flushed drainer).Counted := by
  cases drainer with
  | ticker => exact ⟨counted.recorder, FlushFrame.ready_counted, counted.main⟩
  | main => exact ⟨counted.recorder, counted.ticker, FlushFrame.ready_counted⟩

theorem ended (counted : process.Counted) {tables : UsageTables} (tablesCounted : tables.Counted)
    (tickerCommits mainCommits : Bool) :
    (process.ended tables tickerCommits mainCommits).1.Counted :=
  (tablesCounted.settle counted.ticker tickerCommits).settle counted.main mainCommits

end Counted

end UsageProcess

namespace UsageService

/-- No row and no amount in memory is empty. -/
structure Counted (world : UsageService) : Prop where
  tables : world.tables.Counted
  process : ∀ process, world.process = some process → process.Counted

theorem Counted.blank : Counted blank where
  tables := ⟨Dict.counted_empty, Dict.counted_empty⟩
  process _ up := by cases up

variable {world next : UsageService} {event : ServiceEvent}

theorem Counted.moves (counted : Counted world) (moves : world.Moves event next) :
    Counted next := by
  have tables := counted.tables
  cases moves with
  | start down =>
      refine ⟨tables, ?_⟩
      rintro process ⟨⟩
      exact .new
  | @recordDaily process entry up serving =>
      refine ⟨tables, ?_⟩
      rintro process ⟨⟩
      have before := counted.process _ up
      refine ⟨⟨?_, before.recorder.latency⟩, before.ticker, before.main⟩
      rw [UsageRecorder.recordDaily_eq]
      apply Dict.counted_iff_pairs.mp
      exact (Dict.counted_iff_pairs.mpr before.recorder.daily).add entry.dailyAmount_counted
  | @recordLatency process position entry up found =>
      refine ⟨tables, ?_⟩
      rintro process ⟨⟩
      have before := counted.process _ up
      refine ⟨⟨before.recorder.daily, ?_⟩, before.ticker, before.main⟩
      rw [UsageRecorder.recordLatency_eq]
      apply Dict.counted_iff_pairs.mp
      exact (Dict.counted_iff_pairs.mpr before.recorder.latency).add entry.latencyAmount_counted
  | @takeDaily process drainer listed up ready lists =>
      refine ⟨tables, ?_⟩
      rintro process ⟨⟩
      have before := counted.process _ up
      apply before.setFrame
      · exact ⟨UsageRecorder.new_counted.daily, before.recorder.latency⟩
      · refine ⟨?_, FlushFrame.ready_counted.latency⟩
        intro item member
        exact before.recorder.daily item (lists.mem_iff.mp member)
  | @takeLatency process drainer taken listed up drained lists =>
      refine ⟨tables, ?_⟩
      rintro process ⟨⟩
      have before := counted.process _ up
      apply before.setFrame
      · exact ⟨before.recorder.daily, UsageRecorder.new_counted.latency⟩
      · refine ⟨(before.held drained).daily, ?_⟩
        intro item member
        exact before.recorder.latency item (lists.mem_iff.mp member)
  | @flush process drainer batch commits up flushing =>
      have before := counted.process _ up
      refine ⟨tables.settle (before.held flushing) commits, ?_⟩
      rintro process ⟨⟩
      exact before.flushed
  | purged now up => exact ⟨tables.keptFrom _, counted.process⟩
  | purgeFailed now up => exact counted
  | @shutdown process up serving idle =>
      refine ⟨tables, ?_⟩
      rintro process ⟨⟩
      have before := counted.process _ up
      exact ⟨before.recorder, before.ticker, FlushFrame.ready_counted⟩
  | @exit process commits up finished =>
      refine ⟨(counted.process _ up).ended tables commits false, ?_⟩
      rintro process ⟨⟩
  | @kill process tickerCommits mainCommits up =>
      refine ⟨(counted.process _ up).ended tables tickerCommits mainCommits, ?_⟩
      rintro process ⟨⟩

end UsageService

/-! ## Filing each request by itself -/

/-- The tables after each of these requests has been filed once. -/
def UsageTables.filing (requests : List UsageRecord) : UsageTables :=
  { daily := Dict.addAll ∅ (requests.map UsageRecord.dailyAmount)
    latency := Dict.addAll ∅ (requests.map UsageRecord.latencyAmount) }

theorem UsageTables.filing_counted (requests : List UsageRecord) :
    (UsageTables.filing requests).Counted := by
  have empty : UsageTables.Counted { daily := ∅, latency := ∅ } :=
    ⟨Dict.counted_empty, Dict.counted_empty⟩
  have held : Batch.Counted
      { daily := requests.map UsageRecord.dailyAmount
        latency := requests.map UsageRecord.latencyAmount } := by
    constructor
    · intro item member
      obtain ⟨entry, _, rfl⟩ := List.mem_map.mp member
      exact entry.dailyAmount_counted
    · intro item member
      obtain ⟨entry, _, rfl⟩ := List.mem_map.mp member
      exact entry.latencyAmount_counted
  exact empty.addAll held

open UsageService in
/-- After clean deploys the rows of kept days are those of the recorded requests. -/
theorem agreeFrom_filing {events : List ServiceEvent} {world : UsageService}
    (run : Run UsageService.step (fun world event => world.clean event = true) blank events world)
    (down : world.process = none) {day : String}
    (early : ∀ now, .purge now true ∈ events → retentionCutoffDay now ≤ day) :
    UsageTables.AgreeFrom day world.tables (.filing (recorded events)) := by
  have counted : Counted world :=
    run.invariant (fun _ _ _ counted _ taken => counted.moves (step_eq_some_iff.mp taken))
      Counted.blank
  obtain ⟨daily, latency⟩ := amounts_of_clean run down early
  apply counted.tables.agreeFrom (UsageTables.filing_counted _)
  · intro key recent
    rw [daily key recent]
    exact (Dict.amountAt_addAll_empty ..).symm
  · intro key recent
    rw [latency key recent]
    exact (Dict.amountAt_addAll_empty ..).symm

open UsageService in
theorem clean_deploys_answer_from_requests [Driver] {events : List ServiceEvent}
    {world : UsageService}
    (run : Run UsageService.step (fun world event => world.clean event = true) blank events world)
    (down : world.process = none) (inputs : UsageInputs)
    (clock : ∀ now, .purge now true ∈ events → now ≤ inputs.now)
    (within : epochDay inputs.now ≤ lastRollupDay) (store : Store) (scope : UsageScope)
    (query : UsageQuery) (retained : ReadsRetained store inputs.now scope query) :
    usageAnswers inputs { store, tables := world.tables } scope query =
      usageAnswers inputs { store, tables := .filing (recorded events) } scope query := by
  have early : ∀ now, .purge now true ∈ events →
      retentionCutoffDay now ≤ retentionCutoffDay inputs.now := by
    intro now member
    exact retentionCutoffDay_le (clock now member) within
  exact (agreeFrom_filing run down early).usageAnswers within retained

open scoped DefaultBackend

open UsageService in
theorem clean_deploys_answer_from_requests_for_two_requests :
    ∃ world, Run UsageService.step (fun world event => world.clean event = true) blank cleanDeploy
        world ∧
      ∀ store,
        usageAnswers { sampleUsageInputs with now := cutRecord.now }
            { store, tables := world.tables } .platform { start := none, finish := none } =
          usageAnswers { sampleUsageInputs with now := cutRecord.now }
            { store, tables := .filing [cutRecord, cutRecord] } .platform
            { start := none, finish := none } := by
  obtain ⟨world, run, down⟩ := exists_run clean cleanDeploy (fun world => world.process.isNone)
    (by decide +kernel)
  refine ⟨world, run, ?_⟩
  intro store
  apply clean_deploys_answer_from_requests run (Option.isNone_iff_eq_none.mp down)
    { sampleUsageInputs with now := cutRecord.now }
  · intro now member
    have same : now = cutRecord.now := by simpa [cleanDeploy] using member
    exact le_of_eq same
  · decide +kernel
  · intro start finish period
    cases period

end SpellServer
