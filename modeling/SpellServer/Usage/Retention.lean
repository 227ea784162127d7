import SpellServer.Usage.Deploys
import SpellServer.Usage.Isolation
import SpellServer.Usage.WindowDays

/-!
# Retention

A run of the service and the same run without its purges have the same rows
from every cutoff on.  So a caller who reads days that are still retained cannot
tell that purges have happened.
-/

namespace SpellServer

open Library

/-! ## Rows from a day on -/

/-- The tables have the same rows from a day on. -/
structure UsageTables.AgreeFrom (day : String) (first second : UsageTables) : Prop where
  daily : ∀ key : DailyKey, day ≤ key.day → first.daily.lookup key = second.daily.lookup key
  latency : ∀ key : LatencyKey, day ≤ key.day → first.latency.lookup key = second.latency.lookup key

namespace UsageTables.AgreeFrom

variable {day : String} {first second : UsageTables}

theorem refl (day : String) (tables : UsageTables) : AgreeFrom day tables tables where
  daily _ _ := rfl
  latency _ _ := rfl

/-- A purge keeps the rows from its cutoff on. -/
theorem keptFrom (agree : AgreeFrom day first second) {cutoffDay : String}
    (early : cutoffDay ≤ day) : AgreeFrom day (first.keptFrom cutoffDay) second where
  daily key recent :=
    (first.keptFrom_daily_lookup (le_trans early recent)).trans (agree.daily key recent)
  latency key recent :=
    (first.keptFrom_latency_lookup (le_trans early recent)).trans (agree.latency key recent)

/-- A flush does the same to both. -/
theorem settle (agree : AgreeFrom day first second) (frame : FlushFrame) (commits : Bool) :
    AgreeFrom day (frame.settle first commits).1 (frame.settle second commits).1 ∧
      (frame.settle first commits).2 = (frame.settle second commits).2 := by
  cases frame with
  | ready => exact ⟨agree, rfl⟩
  | drained taken => exact ⟨agree, rfl⟩
  | flushing batch =>
      unfold FlushFrame.settle UsageTables.flushUsage
      by_cases empty : (batch.daily.isEmpty && batch.latency.isEmpty) = true
      · simpa [empty] using agree
      · cases commits with
        | false => simpa [empty] using agree
        | true =>
            simp only [empty, Bool.false_eq_true, if_false, if_true, and_true]
            constructor
            · intro key recent
              exact Dict.lookup_accumulate_congr _ _ _ (agree.daily key recent) _
            · intro key recent
              exact Dict.lookup_accumulate_congr _ _ _ (agree.latency key recent) _

end UsageTables.AgreeFrom

/-! ## Runs without purges -/

def ServiceEvent.isPurge : ServiceEvent → Bool
  | .purge _ _ => true
  | .start | .recordDaily _ | .recordLatency _ | .takeDaily _ _ | .takeLatency _ _ | .flush _ _
  | .shutdown | .exit _ | .kill _ _ => false

def withoutPurges (events : List ServiceEvent) : List ServiceEvent :=
  events.filter fun event => !event.isPurge

namespace UsageService

/-- The services differ in rows before a day only. -/
structure SameFrom (day : String) (world other : UsageService) : Prop where
  tables : UsageTables.AgreeFrom day world.tables other.tables
  process : world.process = other.process

namespace SameFrom

variable {day : String} {world other next : UsageService} {event : ServiceEvent}

theorem ended (same : SameFrom day world other) (process : UsageProcess)
    (tickerCommits mainCommits : Bool) :
    SameFrom day (world.down (process.ended world.tables tickerCommits mainCommits))
      (other.down (process.ended other.tables tickerCommits mainCommits)) where
  tables :=
    ((same.tables.settle process.ticker tickerCommits).1.settle (process.main.frame?.getD .ready)
      mainCommits).1
  process := rfl

/-- Events other than purges are taken along. -/
theorem moves (same : SameFrom day world other) (moves : world.Moves event next)
    (kept : event.isPurge = false) :
    ∃ otherNext, other.Moves event otherNext ∧ SameFrom day next otherNext := by
  have tables := same.tables
  cases moves with
  | start down => exact ⟨_, .start (same.process ▸ down), tables, rfl⟩
  | recordDaily entry up serving =>
      exact ⟨_, .recordDaily entry (same.process ▸ up) serving, tables, rfl⟩
  | recordLatency up found => exact ⟨_, .recordLatency (same.process ▸ up) found, tables, rfl⟩
  | takeDaily up ready lists => exact ⟨_, .takeDaily (same.process ▸ up) ready lists, tables, rfl⟩
  | takeLatency up drained lists =>
      exact ⟨_, .takeLatency (same.process ▸ up) drained lists, tables, rfl⟩
  | flush commits up flushing =>
      exact ⟨_, .flush commits (same.process ▸ up) flushing, (tables.settle _ commits).1, rfl⟩
  | purged now up => cases kept
  | purgeFailed now up => cases kept
  | shutdown up serving idle => exact ⟨_, .shutdown (same.process ▸ up) serving idle, tables, rfl⟩
  | exit commits up finished =>
      exact ⟨_, .exit commits (same.process ▸ up) finished, same.ended _ commits false⟩
  | kill tickerCommits mainCommits up =>
      exact ⟨_, .kill tickerCommits mainCommits (same.process ▸ up),
        same.ended _ tickerCommits mainCommits⟩

theorem purge (same : SameFrom day world other) {now : ℕ} {commits : Bool}
    (moves : world.Moves (.purge now commits) next)
    (early : commits = true → retentionCutoffDay now ≤ day) : SameFrom day next other := by
  cases moves with
  | purged now up => exact ⟨same.tables.keptFrom (early rfl), same.process⟩
  | purgeFailed now up => exact same

end SameFrom

/-- A run and the run without its purges. -/
theorem exists_without_purges {events : List ServiceEvent} {start finish : UsageService}
    (run : Run step (fun _ _ => True) start events finish) {day : String} {other : UsageService}
    (same : SameFrom day start other)
    (early : ∀ now, .purge now true ∈ events → retentionCutoffDay now ≤ day) :
    ∃ unpurged, Run step (fun _ _ => True) other (withoutPurges events) unpurged ∧
      SameFrom day finish unpurged := by
  induction run generalizing other with
  | nil state => exact ⟨other, .nil other, same⟩
  | @cons start middle finish event events _ taken _ induction =>
      have moves := step_eq_some_iff.mp taken
      have later : ∀ now, .purge now true ∈ events → retentionCutoffDay now ≤ day :=
        fun now member => early now (List.mem_cons_of_mem _ member)
      cases purges : event.isPurge with
      | false =>
          obtain ⟨otherMiddle, otherMoves, sameMiddle⟩ := same.moves moves purges
          obtain ⟨unpurged, rest, sameFinish⟩ := induction sameMiddle later
          refine ⟨unpurged, ?_, sameFinish⟩
          rw [withoutPurges, List.filter_cons_of_pos (by simp [purges])]
          exact .cons trivial (step_eq_some_iff.mpr otherMoves) rest
      | true =>
          have sameMiddle : SameFrom day middle other := by
            cases event with
            | purge now commits =>
                apply same.purge moves
                rintro rfl
                exact early now List.mem_cons_self
            | start | recordDaily | recordLatency | takeDaily | takeLatency | flush | shutdown
            | exit | kill => cases purges
          obtain ⟨unpurged, rest, sameFinish⟩ := induction sameMiddle later
          refine ⟨unpurged, ?_, sameFinish⟩
          rwa [withoutPurges, List.filter_cons_of_neg (by simp [purges])]

end UsageService

/-! ## Windows within the retention -/

theorem epochDay_eq (now : ℕ) : epochDay now = (now : ℤ) / 86400 :=
  Int.tdiv_eq_ediv_of_nonneg (Int.natCast_nonneg now)

theorem fourDigitYear_of_recent {day : ℤ} (least : -90 ≤ day) (most : day ≤ lastRollupDay) :
    FourDigitYear day := by
  have early : lastDayOf (-1) = -719529 := by decide
  constructor
  · by_contra negative
    have before := (civilDate_year_le_iff day (-1)).mp (by omega)
    omega
  · exact (year_le_9999_iff day).mpr most

/-- Cutoffs are compared as the days they stand for. -/
theorem retentionCutoffDay_le_iff {now : ℕ} {day : ℤ} (within : epochDay now ≤ lastRollupDay)
    (least : -90 ≤ day) (most : day ≤ lastRollupDay) :
    retentionCutoffDay now ≤ formatDay day ↔ epochDay now - retentionDays ≤ day := by
  have clock : 0 ≤ epochDay now := by
    rw [epochDay_eq]
    omega
  apply formatDay_le_iff
  · apply fourDigitYear_of_recent
    · unfold retentionDays
      omega
    · unfold retentionDays
      omega
  · exact fourDigitYear_of_recent least most

theorem retentionCutoffDay_le {earlier now : ℕ} (ordered : earlier ≤ now)
    (within : epochDay now ≤ lastRollupDay) :
    retentionCutoffDay earlier ≤ retentionCutoffDay now := by
  have days : epochDay earlier ≤ epochDay now := by
    rw [epochDay_eq, epochDay_eq]
    omega
  have clock : 0 ≤ epochDay earlier := by
    rw [epochDay_eq]
    omega
  apply (retentionCutoffDay_le_iff (le_trans days within) _ _).mpr
  · omega
  · unfold retentionDays
    omega
  · unfold retentionDays
    omega

/-- The billing period that a scope's window may start from. -/
def billingPeriod (store : Store) : UsageScope → Option (UInt64 × UInt64)
  | .platform => none
  | .tenant id =>
      (store.getTenant id).bind fun info =>
        info.periodStart.bind fun start => info.periodEnd.map fun finish => (start, finish)

theorem usageWindow_eq (state : UsageState) (now : ℕ) (scope : UsageScope) (query : UsageQuery) :
    usageWindow state now scope query = resolveWindow now query (billingPeriod state.store scope) := by
  cases scope <;> rfl

/-- The request asks for days within the retention, for the rolling window, or for a
billing period that began within the retention; or its bounds are turned down. -/
def ReadsRetained (store : Store) (now : ℕ) (scope : UsageScope) (query : UsageQuery) : Prop :=
  match query.start, query.finish with
  | some start, some finish =>
      ∀ first last, parseDay start = some first → parseDay finish = some last →
        first ≤ last → last - first < retentionDays → epochDay now - retentionDays ≤ first
  | none, none =>
      ∀ start finish, billingPeriod store scope = some (start, finish) →
        epochDay now - retentionDays ≤ signedDay start ∧ signedDay start ≤ lastRollupDay
  | some _, none | none, some _ => True

theorem ReadsRetained.start {state : UsageState} {now : ℕ} {scope : UsageScope} {query : UsageQuery}
    {window : Window} (retained : ReadsRetained state.store now scope query)
    (within : epochDay now ≤ lastRollupDay)
    (resolved : usageWindow state now scope query = .ok window) :
    retentionCutoffDay now ≤ window.start := by
  have clock : 0 ≤ epochDay now := by
    rw [epochDay_eq]
    omega
  rw [usageWindow_eq] at resolved
  cases hasStart : query.start with
  | some start =>
      cases hasFinish : query.finish with
      | some finish =>
          rw [ReadsRetained, hasStart, hasFinish] at retained
          obtain ⟨first, last, parsedFirst, parsedLast, forward, short, rfl⟩ :=
            (resolveWindow_dated hasStart hasFinish window).mp resolved
          have reaches := retained first last parsedFirst parsedLast (by omega) short
          have most := lastRollupDay_of_parseDay parsedFirst
          refine (retentionCutoffDay_le_iff within ?_ most).mpr reaches
          unfold retentionDays at reaches
          omega
      | none =>
          rw [resolveWindow_single now _ (by simp [hasStart, hasFinish])] at resolved
          cases resolved
  | none =>
      cases hasFinish : query.finish with
      | some finish =>
          rw [resolveWindow_single now _ (by simp [hasStart, hasFinish])] at resolved
          cases resolved
      | none =>
          rw [ReadsRetained, hasStart, hasFinish] at retained
          rw [resolveWindow_undated now _ hasStart hasFinish] at resolved
          cases period : billingPeriod state.store scope with
          | none =>
              rw [period] at resolved
              cases resolved
              apply (retentionCutoffDay_le_iff within (by omega) (by omega)).mpr
              unfold retentionDays
              omega
          | some bounds =>
              obtain ⟨recent, most⟩ := retained bounds.1 bounds.2 period
              rw [period] at resolved
              cases resolved
              refine (retentionCutoffDay_le_iff within ?_ most).mpr recent
              unfold retentionDays at recent
              omega

/-- What a request within the retention reads. -/
theorem UsageTables.AgreeFrom.usageAnswers [Driver] {first second : UsageTables}
    {inputs : UsageInputs} {store : Store} {scope : UsageScope} {query : UsageQuery}
    (agree : AgreeFrom (retentionCutoffDay inputs.now) first second)
    (within : epochDay inputs.now ≤ lastRollupDay)
    (retained : ReadsRetained store inputs.now scope query) :
    SpellServer.usageAnswers inputs { store, tables := first } scope query =
      SpellServer.usageAnswers inputs { store, tables := second } scope query := by
  have windows : usageWindow { store, tables := second } inputs.now scope query =
      usageWindow { store, tables := first } inputs.now scope query := by
    rw [usageWindow_eq, usageWindow_eq]
  unfold SpellServer.usageAnswers usageDaily usageLatency usageErrors usageLanguages
  rw [windows]
  cases resolved : usageWindow { store, tables := first } inputs.now scope query with
  | error error => rfl
  | ok window =>
      have recent : ∀ day, inWindow window.start window.finish day = true →
          retentionCutoffDay inputs.now ≤ day := by
        intro day inside
        have begins := (Bool.and_eq_true_iff.mp inside).1
        exact le_trans (retained.start within resolved) (of_decide_eq_true begins)
      have daily : queryUsageDaily inputs.sql first (scopeTenant scope) window.start window.finish =
          queryUsageDaily inputs.sql second (scopeTenant scope) window.start window.finish :=
        queryUsageDaily_congr_window fun key inside _ => agree.daily key (recent key.day inside)
      have latency :
          queryUsageLatency inputs.sql first (scopeTenant scope) window.start window.finish =
            queryUsageLatency inputs.sql second (scopeTenant scope) window.start window.finish :=
        queryUsageLatency_congr_window fun key inside _ => agree.latency key (recent key.day inside)
      simp only [bind, Except.bind]
      rw [daily, latency]

open UsageService in
theorem purges_invisible_within_retention [Driver] {events : List ServiceEvent}
    {world : UsageService}
    (run : Run UsageService.step (fun _ _ => True) blank events world) (inputs : UsageInputs)
    (clock : ∀ now, .purge now true ∈ events → now ≤ inputs.now)
    (within : epochDay inputs.now ≤ lastRollupDay) :
    ∃ unpurged,
      Run UsageService.step (fun _ _ => True) blank (withoutPurges events) unpurged ∧
        unpurged.process = world.process ∧
        ∀ store scope query, ReadsRetained store inputs.now scope query →
          usageAnswers inputs { store, tables := world.tables } scope query =
            usageAnswers inputs { store, tables := unpurged.tables } scope query := by
  have start : SameFrom (retentionCutoffDay inputs.now) blank blank := ⟨.refl _ _, rfl⟩
  have early : ∀ now, .purge now true ∈ events →
      retentionCutoffDay now ≤ retentionCutoffDay inputs.now := by
    intro now member
    exact retentionCutoffDay_le (clock now member) within
  obtain ⟨unpurged, rest, same⟩ := exists_without_purges run start early
  refine ⟨unpurged, rest, same.process.symm, ?_⟩
  intro store scope query retained
  exact same.tables.usageAnswers within retained

open scoped DefaultBackend

open UsageService in
theorem purges_invisible_within_retention_for_clean_deploy :
    ∃ world unpurged,
      Run UsageService.step (fun _ _ => True) blank cleanDeploy world ∧
        Run UsageService.step (fun _ _ => True) blank (withoutPurges cleanDeploy) unpurged ∧
        ∀ store,
          usageAnswers { sampleUsageInputs with now := cutRecord.now }
              { store, tables := world.tables } .platform { start := none, finish := none } =
            usageAnswers { sampleUsageInputs with now := cutRecord.now }
              { store, tables := unpurged.tables } .platform { start := none, finish := none } := by
  obtain ⟨world, run, _⟩ := exists_run (fun _ _ => true) cleanDeploy (fun _ => true)
    (by decide +kernel)
  have free := run.weaken (fun _ _ _ => trivial)
  have clock : ∀ now, ServiceEvent.purge now true ∈ cleanDeploy → now ≤ cutRecord.now := by
    intro now member
    have same : now = cutRecord.now := by simpa [cleanDeploy] using member
    exact le_of_eq same
  obtain ⟨unpurged, rest, _, same⟩ := purges_invisible_within_retention free
    { sampleUsageInputs with now := cutRecord.now } clock (by decide +kernel)
  refine ⟨world, unpurged, free, rest, ?_⟩
  intro store
  apply same
  intro start finish period
  cases period

end SpellServer
