import SpellServer.Usage.Queries
import SpellServer.Usage.Rollup

/-!
# The usage data of a running service

`main` spawns a task that drains the recorder and flushes the batch on every
tick, and a task that purges what is past the retention window.  After a
shutdown signal the server finishes its requests, drains and flushes once more
and exits, which drops the flush task wherever it stands.  A process that is
killed loses its memory.  The tables outlive every process.
-/

namespace SpellServer

open Library

/-! ## Purging -/

/-- `retention_cutoff_day`: the oldest day that survives a purge. -/
def retentionCutoffDay (now : ℕ) : String := formatDay (epochDay now - retentionDays)

namespace UsageTables

/-- What `DELETE … WHERE day < ?` leaves. -/
def keptFrom (tables : UsageTables) (cutoffDay : String) : UsageTables :=
  { daily := tables.daily.retain fun key _ => !decide (key.day < cutoffDay)
    latency := tables.latency.retain fun key _ => !decide (key.day < cutoffDay) }

/-- The rows that it removes. -/
def droppedBefore (tables : UsageTables) (cutoffDay : String) : Batch :=
  { daily := tables.daily.pairs.filter fun item => decide (item.1.day < cutoffDay)
    latency := tables.latency.pairs.filter fun item => decide (item.1.day < cutoffDay) }

theorem keptFrom_daily_lookup (tables : UsageTables) {cutoffDay : String} {key : DailyKey}
    (kept : cutoffDay ≤ key.day) :
    (tables.keptFrom cutoffDay).daily.lookup key = tables.daily.lookup key := by
  have stays : decide (key.day < cutoffDay) = false := decide_eq_false (not_lt.mpr kept)
  apply Dict.lookup_retain_of_kept (fun key : DailyKey => !decide (key.day < cutoffDay))
  exact (Bool.not_eq_true' _).mpr stays

theorem keptFrom_latency_lookup (tables : UsageTables) {cutoffDay : String} {key : LatencyKey}
    (kept : cutoffDay ≤ key.day) :
    (tables.keptFrom cutoffDay).latency.lookup key = tables.latency.lookup key := by
  have stays : decide (key.day < cutoffDay) = false := decide_eq_false (not_lt.mpr kept)
  apply Dict.lookup_retain_of_kept (fun key : LatencyKey => !decide (key.day < cutoffDay))
  exact (Bool.not_eq_true' _).mpr stays

/-- `purge_usage_before`: one transaction over both tables and the number of
rows it removed.  `none` is a failure: the transaction rolls back. -/
def purgeUsageBefore (tables : UsageTables) (cutoffDay : String) (commits : Bool) :
    Option (UsageTables × ℕ) :=
  if commits then
    let dropped := tables.droppedBefore cutoffDay
    some (tables.keptFrom cutoffDay, dropped.daily.length + dropped.latency.length)
  else none

end UsageTables

/-! ## A process -/

/-- What a recorder holds. -/
def UsageRecorder.contents (recorder : UsageRecorder) : Batch :=
  { daily := recorder.daily.pairs
    latency := recorder.latency.pairs }

/-- Where a task that drains the recorder and flushes the batch stands. -/
inductive FlushFrame where
  | ready
  | drained (daily : List (DailyKey × DailyCounters))
  | flushing (batch : Batch)

/-- `main` serves until the shutdown signal and then flushes once more. -/
inductive MainPhase where
  | serving
  | closing (frame : FlushFrame)
  | finished

/-- The two callers of `drain`: the spawned flush task and `main`. -/
inductive Drainer where
  | ticker
  | main
deriving DecidableEq, Repr

/-- `recording` are the requests between the two steps of `record`. -/
structure UsageProcess where
  recorder : UsageRecorder
  recording : List UsageRecord
  ticker : FlushFrame
  main : MainPhase

namespace FlushFrame

/-- The amounts a drain has taken out of the recorder. -/
def batch : FlushFrame → Batch
  | .ready => { daily := [], latency := [] }
  | .drained daily => { daily, latency := [] }
  | .flushing batch => batch

def isReady : FlushFrame → Bool
  | .ready => true
  | .drained _ | .flushing _ => false

/-- A task that ends where it stands, by a finished or failed transaction or
because it is dropped: the tables and what is lost. -/
def settle (tables : UsageTables) (commits : Bool) : FlushFrame → UsageTables × List Batch
  | .ready => (tables, [])
  | .drained daily => (tables, [{ daily, latency := [] }])
  | .flushing batch =>
      match tables.flushUsage batch commits with
      | some written => (written, [])
      | none => (tables, [batch])

end FlushFrame

namespace MainPhase

def frame? : MainPhase → Option FlushFrame
  | .closing frame => some frame
  | .serving | .finished => none

def batch (phase : MainPhase) : Batch := (phase.frame?.getD .ready).batch

end MainPhase

namespace UsageProcess

def new : UsageProcess :=
  { recorder := .new
    recording := []
    ticker := .ready
    main := .serving }

def frame? (process : UsageProcess) : Drainer → Option FlushFrame
  | .ticker => some process.ticker
  | .main => process.main.frame?

def setFrame (process : UsageProcess) (frame : FlushFrame) : Drainer → UsageProcess
  | .ticker => { process with ticker := frame }
  | .main => { process with main := .closing frame }

/-- After a flush the task waits for its next tick; `main` is done. -/
def flushed (process : UsageProcess) : Drainer → UsageProcess
  | .ticker => { process with ticker := .ready }
  | .main => { process with main := .finished }

/-- The process is gone: both drainers end where they stand and the recorder is
lost with what it holds. -/
def ended (process : UsageProcess) (tables : UsageTables) (tickerCommits mainCommits : Bool) :
    UsageTables × List Batch :=
  let (tables, lost) := process.ticker.settle tables tickerCommits
  let (tables, lostOfMain) := (process.main.frame?.getD .ready).settle tables mainCommits
  (tables, lost ++ lostOfMain ++ [process.recorder.contents])

end UsageProcess

/-! ## Runs over many processes -/

/-- The last four fields list what has been recorded, purged and lost so far;
the program keeps none of them. -/
structure UsageService where
  tables : UsageTables
  process : Option UsageProcess
  dailySteps : List UsageRecord
  latencySteps : List UsageRecord
  purged : List Batch
  lost : List Batch

/-- A hash map gives up its entries in any order.  A transaction that a dying
process leaves behind has gone through or has not. -/
inductive ServiceEvent where
  | start
  | recordDaily (entry : UsageRecord)
  | recordLatency (position : ℕ)
  | takeDaily (drainer : Drainer) (listed : List (DailyKey × DailyCounters))
  | takeLatency (drainer : Drainer) (listed : List (LatencyKey × ℤ))
  | flush (drainer : Drainer) (commits : Bool)
  | purge (now : ℕ) (commits : Bool)
  | shutdown
  | exit (tickerCommits : Bool)
  | kill (tickerCommits mainCommits : Bool)

namespace UsageService

def blank : UsageService :=
  { tables := { daily := ∅, latency := ∅ }
    process := none
    dailySteps := []
    latencySteps := []
    purged := []
    lost := [] }

/-- The step of a drainer in front of its frame. -/
def drainStep (world : UsageService) (drainer : Drainer)
    (move : UsageProcess → FlushFrame → Option UsageService) : Option UsageService :=
  world.process.bind fun process => (process.frame? drainer).bind (move process)

def down (world : UsageService) (ended : UsageTables × List Batch) : UsageService :=
  { world with
    tables := ended.1
    process := none
    lost := world.lost ++ ended.2 }

def step (world : UsageService) : ServiceEvent → Option UsageService
  | .start =>
      match world.process with
      | none => some { world with process := some .new }
      | some _ => none
  | .recordDaily entry =>
      world.process.bind fun process =>
        match process.main with
        | .serving =>
            some
              { world with
                process := some
                  { process with
                    recorder := process.recorder.recordDaily entry
                    recording := process.recording ++ [entry] }
                dailySteps := world.dailySteps ++ [entry] }
        | .closing _ | .finished => none
  | .recordLatency position =>
      world.process.bind fun process =>
        process.recording[position]?.map fun entry =>
          { world with
            process := some
              { process with
                recorder := process.recorder.recordLatency entry
                recording := process.recording.eraseIdx position }
            latencySteps := world.latencySteps ++ [entry] }
  | .takeDaily drainer listed =>
      world.drainStep drainer fun process frame =>
        match frame with
        | .ready =>
            if listed.Perm process.recorder.daily.pairs then
              let process := { process with recorder := process.recorder.takeDaily }
              some { world with process := some (process.setFrame (.drained listed) drainer) }
            else none
        | .drained _ | .flushing _ => none
  | .takeLatency drainer listed =>
      world.drainStep drainer fun process frame =>
        match frame with
        | .drained daily =>
            if listed.Perm process.recorder.latency.pairs then
              let process := { process with recorder := process.recorder.takeLatency }
              let frame := .flushing { daily, latency := listed }
              some { world with process := some (process.setFrame frame drainer) }
            else none
        | .ready | .flushing _ => none
  | .flush drainer commits =>
      world.drainStep drainer fun process frame =>
        match frame with
        | .flushing _ =>
            let (tables, lost) := frame.settle world.tables commits
            some
              { world with
                tables
                process := some (process.flushed drainer)
                lost := world.lost ++ lost }
        | .ready | .drained _ => none
  | .purge now commits =>
      world.process.map fun _ =>
        match world.tables.purgeUsageBefore (retentionCutoffDay now) commits with
        | some (tables, _) =>
            { world with
              tables
              purged := world.purged ++ [world.tables.droppedBefore (retentionCutoffDay now)] }
        | none => world
  | .shutdown =>
      -- The graceful shutdown waits for the requests in flight.
      world.process.bind fun process =>
        match process.main, process.recording with
        | .serving, [] => some { world with process := some { process with main := .closing .ready } }
        | _, _ => none
  | .exit tickerCommits =>
      world.process.bind fun process =>
        match process.main with
        | .finished => some (world.down (process.ended world.tables tickerCommits false))
        | .serving | .closing _ => none
  | .kill tickerCommits mainCommits =>
      world.process.map fun process =>
        world.down (process.ended world.tables tickerCommits mainCommits)

/-- What one event can do. -/
inductive Moves (world : UsageService) : ServiceEvent → UsageService → Prop where
  | start (down : world.process = none) :
      Moves world .start { world with process := some .new }
  | recordDaily {process : UsageProcess} (entry : UsageRecord)
      (up : world.process = some process) (serving : process.main = .serving) :
      Moves world (.recordDaily entry)
        { world with
          process := some
            { process with
              recorder := process.recorder.recordDaily entry
              recording := process.recording ++ [entry] }
          dailySteps := world.dailySteps ++ [entry] }
  | recordLatency {process : UsageProcess} {position : ℕ} {entry : UsageRecord}
      (up : world.process = some process) (found : process.recording[position]? = some entry) :
      Moves world (.recordLatency position)
        { world with
          process := some
            { process with
              recorder := process.recorder.recordLatency entry
              recording := process.recording.eraseIdx position }
          latencySteps := world.latencySteps ++ [entry] }
  | takeDaily {process : UsageProcess} {drainer : Drainer}
      {listed : List (DailyKey × DailyCounters)} (up : world.process = some process)
      (ready : process.frame? drainer = some .ready)
      (lists : listed.Perm process.recorder.daily.pairs) :
      Moves world (.takeDaily drainer listed)
        { world with
          process := some
            (({ process with recorder := process.recorder.takeDaily } : UsageProcess).setFrame
              (.drained listed) drainer) }
  | takeLatency {process : UsageProcess} {drainer : Drainer} {daily : List (DailyKey × DailyCounters)}
      {listed : List (LatencyKey × ℤ)} (up : world.process = some process)
      (drained : process.frame? drainer = some (.drained daily))
      (lists : listed.Perm process.recorder.latency.pairs) :
      Moves world (.takeLatency drainer listed)
        { world with
          process := some
            (({ process with recorder := process.recorder.takeLatency } : UsageProcess).setFrame
              (.flushing { daily, latency := listed }) drainer) }
  | flush {process : UsageProcess} {drainer : Drainer} {batch : Batch} (commits : Bool)
      (up : world.process = some process)
      (flushing : process.frame? drainer = some (.flushing batch)) :
      Moves world (.flush drainer commits)
        { world with
          tables := ((FlushFrame.flushing batch).settle world.tables commits).1
          process := some (process.flushed drainer)
          lost := world.lost ++ ((FlushFrame.flushing batch).settle world.tables commits).2 }
  | purged {process : UsageProcess} (now : ℕ) (up : world.process = some process) :
      Moves world (.purge now true)
        { world with
          tables := world.tables.keptFrom (retentionCutoffDay now)
          purged := world.purged ++ [world.tables.droppedBefore (retentionCutoffDay now)] }
  | purgeFailed {process : UsageProcess} (now : ℕ) (up : world.process = some process) :
      Moves world (.purge now false) world
  | shutdown {process : UsageProcess} (up : world.process = some process)
      (serving : process.main = .serving) (idle : process.recording = []) :
      Moves world .shutdown { world with process := some { process with main := .closing .ready } }
  | exit {process : UsageProcess} (commits : Bool) (up : world.process = some process)
      (finished : process.main = .finished) :
      Moves world (.exit commits) (world.down (process.ended world.tables commits false))
  | kill {process : UsageProcess} (tickerCommits mainCommits : Bool)
      (up : world.process = some process) :
      Moves world (.kill tickerCommits mainCommits)
        (world.down (process.ended world.tables tickerCommits mainCommits))

theorem step_eq_some_iff {world next : UsageService} {event : ServiceEvent} :
    world.step event = some next ↔ Moves world event next := by
  constructor
  · intro taken
    cases event with
    | start =>
        cases up : world.process with
        | some process => simp [step, up] at taken
        | none =>
            simp only [step, up, Option.some.injEq] at taken
            subst taken
            exact .start up
    | recordDaily entry =>
        obtain ⟨process, up, taken⟩ := Option.bind_eq_some_iff.mp taken
        cases phase : process.main with
        | serving =>
            simp only [phase, Option.some.injEq] at taken
            subst taken
            simpa only [phase] using Moves.recordDaily entry up phase
        | closing frame => simp [phase] at taken
        | finished => simp [phase] at taken
    | recordLatency position =>
        obtain ⟨process, up, taken⟩ := Option.bind_eq_some_iff.mp taken
        obtain ⟨entry, found, result⟩ := Option.map_eq_some_iff.mp taken
        subst result
        exact .recordLatency up found
    | takeDaily drainer listed =>
        obtain ⟨process, up, taken⟩ := Option.bind_eq_some_iff.mp taken
        obtain ⟨frame, stands, taken⟩ := Option.bind_eq_some_iff.mp taken
        cases frame with
        | ready =>
            dsimp only at taken
            split at taken
            · rename_i lists
              cases taken
              exact .takeDaily up stands lists
            · cases taken
        | drained daily => cases taken
        | flushing batch => cases taken
    | takeLatency drainer listed =>
        obtain ⟨process, up, taken⟩ := Option.bind_eq_some_iff.mp taken
        obtain ⟨frame, stands, taken⟩ := Option.bind_eq_some_iff.mp taken
        cases frame with
        | ready => cases taken
        | drained daily =>
            dsimp only at taken
            split at taken
            · rename_i lists
              cases taken
              exact .takeLatency up stands lists
            · cases taken
        | flushing batch => cases taken
    | flush drainer commits =>
        obtain ⟨process, up, taken⟩ := Option.bind_eq_some_iff.mp taken
        obtain ⟨frame, stands, taken⟩ := Option.bind_eq_some_iff.mp taken
        cases frame with
        | ready => cases taken
        | drained daily => cases taken
        | flushing batch =>
            cases taken
            exact .flush commits up stands
    | purge now commits =>
        obtain ⟨process, up, result⟩ := Option.map_eq_some_iff.mp taken
        cases commits with
        | true =>
            subst result
            exact .purged now up
        | false =>
            subst result
            exact .purgeFailed now up
    | shutdown =>
        obtain ⟨process, up, taken⟩ := Option.bind_eq_some_iff.mp taken
        split at taken
        · rename_i phase idle
          cases taken
          exact .shutdown up phase idle
        · cases taken
    | exit commits =>
        obtain ⟨process, up, taken⟩ := Option.bind_eq_some_iff.mp taken
        split at taken
        · rename_i phase
          cases taken
          exact .exit commits up phase
        · cases taken
        · cases taken
    | kill tickerCommits mainCommits =>
        obtain ⟨process, up, result⟩ := Option.map_eq_some_iff.mp taken
        subst result
        exact .kill tickerCommits mainCommits up
  · intro moves
    cases moves with
    | start down => simp [step, down]
    | recordDaily entry up serving => simp [step, up, serving]
    | recordLatency up found => simp [step, up, found]
    | takeDaily up ready lists => simp [step, drainStep, up, ready, lists]
    | takeLatency up drained lists => simp [step, drainStep, up, drained, lists]
    | flush commits up flushing => simp [step, drainStep, up, flushing]
    | purged now up => simp [step, up, UsageTables.purgeUsageBefore]
    | purgeFailed now up => simp [step, up, UsageTables.purgeUsageBefore]
    | shutdown up serving idle => simp [step, up, serving, idle]
    | exit commits up finished => simp [step, up, finished]
    | kill tickerCommits mainCommits up => simp [step, up]

end UsageService

end SpellServer
