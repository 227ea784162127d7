import SpellServer.Usage.Conservation
import SpellServer.Usage.Service

/-!
# Usage across deploys

Every recorded amount is in the tables, in the memory of the running process,
purged or lost, over any number of processes.  A process that exits while its
flush task waits for the next tick loses nothing, so the tables count every
request as long as its day is kept.
-/

namespace SpellServer

open Library

/-! ## Weighing batches -/

section

variable {N : Type} [AddCommMonoid N] (daily : DailyKey → DailyCounters →+ N)
  (latency : LatencyKey → ℤ →+ N)

def Batch.weigh (batch : Batch) : N :=
  Dict.weighAll daily batch.daily + Dict.weighAll latency batch.latency

def weighBatches (batches : List Batch) : N := (batches.map (Batch.weigh daily latency)).sum

def UsageTables.weigh (tables : UsageTables) : N :=
  Dict.weigh daily tables.daily + Dict.weigh latency tables.latency

def UsageRecorder.weigh (recorder : UsageRecorder) : N := recorder.contents.weigh daily latency

/-- What the steps of `record` have added. -/
def weighSteps (dailySteps latencySteps : List UsageRecord) : N :=
  Dict.weighAll daily (dailySteps.map UsageRecord.dailyAmount) +
    Dict.weighAll latency (latencySteps.map UsageRecord.latencyAmount)

@[simp] theorem weighBatches_nil : weighBatches daily latency [] = 0 := rfl

theorem weighBatches_append (batches later : List Batch) :
    weighBatches daily latency (batches ++ later) =
      weighBatches daily latency batches + weighBatches daily latency later := by
  simp [weighBatches]

@[simp] theorem weighBatches_singleton (batch : Batch) :
    weighBatches daily latency [batch] = batch.weigh daily latency := by
  simp [weighBatches]

@[simp] theorem weigh_ready : FlushFrame.ready.batch.weigh daily latency = 0 := by
  simp [FlushFrame.batch, Batch.weigh]

@[simp] theorem weigh_new : UsageRecorder.new.weigh daily latency = 0 := by
  simp [UsageRecorder.weigh, UsageRecorder.contents, UsageRecorder.new, Batch.weigh,
    Dict.weighAll_pairs]

theorem UsageRecorder.weigh_eq (recorder : UsageRecorder) :
    recorder.weigh daily latency =
      Dict.weigh daily recorder.daily + Dict.weigh latency recorder.latency := by
  simp [UsageRecorder.weigh, UsageRecorder.contents, Batch.weigh, Dict.weighAll_pairs]

theorem UsageRecorder.weigh_recordDaily (recorder : UsageRecorder) (entry : UsageRecord) :
    (recorder.recordDaily entry).weigh daily latency =
      recorder.weigh daily latency + daily entry.dailyAmount.1 entry.dailyAmount.2 := by
  rw [weigh_eq, weigh_eq, recordDaily_eq, Dict.weigh_add]
  exact add_right_comm ..

theorem UsageRecorder.weigh_recordLatency (recorder : UsageRecorder) (entry : UsageRecord) :
    (recorder.recordLatency entry).weigh daily latency =
      recorder.weigh daily latency + latency entry.latencyAmount.1 entry.latencyAmount.2 := by
  rw [weigh_eq, weigh_eq, recordLatency_eq, Dict.weigh_add]
  exact (add_assoc ..).symm

/-- The first step of a drain carries the daily amounts over. -/
theorem UsageRecorder.weigh_takeDaily (recorder : UsageRecorder)
    {listed : List (DailyKey × DailyCounters)} (lists : listed.Perm recorder.daily.pairs) :
    recorder.takeDaily.weigh daily latency + (FlushFrame.drained listed).batch.weigh daily latency =
      recorder.weigh daily latency := by
  have taken : Dict.weighAll daily listed = Dict.weigh daily recorder.daily :=
    (Dict.weighAll_perm daily lists).trans (Dict.weighAll_pairs daily recorder.daily)
  rw [weigh_eq, weigh_eq]
  simp only [takeDaily, FlushFrame.batch, Batch.weigh, Dict.weigh_empty, Dict.weighAll_nil, taken,
    zero_add, add_zero]
  exact add_comm ..

/-- The second step joins the latency amounts to them. -/
theorem UsageRecorder.weigh_takeLatency (recorder : UsageRecorder)
    (taken : List (DailyKey × DailyCounters)) {listed : List (LatencyKey × ℤ)}
    (lists : listed.Perm recorder.latency.pairs) :
    recorder.takeLatency.weigh daily latency +
        (FlushFrame.flushing { daily := taken, latency := listed }).batch.weigh daily latency =
      recorder.weigh daily latency + (FlushFrame.drained taken).batch.weigh daily latency := by
  have joined : Dict.weighAll latency listed = Dict.weigh latency recorder.latency :=
    (Dict.weighAll_perm latency lists).trans (Dict.weighAll_pairs latency recorder.latency)
  rw [weigh_eq, weigh_eq]
  simp only [takeLatency, FlushFrame.batch, Batch.weigh, Dict.weigh_empty, Dict.weighAll_nil, joined,
    add_zero]
  rw [add_assoc]
  exact congrArg _ (add_comm ..)

/-- A task that ends leaves its batch in the tables or among the losses. -/
theorem FlushFrame.weigh_settle (tables : UsageTables) (commits : Bool) (frame : FlushFrame) :
    (frame.settle tables commits).1.weigh daily latency +
        weighBatches daily latency (frame.settle tables commits).2 =
      tables.weigh daily latency + frame.batch.weigh daily latency := by
  cases frame with
  | ready => simp [settle]
  | drained taken => simp [settle, batch]
  | flushing flushed =>
      cases result : tables.flushUsage flushed commits with
      | none => simp [settle, result, batch]
      | some written =>
          have added := UsageTables.flushUsage_eq_some result
          subst added
          simp only [settle, result, weighBatches_nil, add_zero, batch, Batch.weigh,
            UsageTables.weigh, Dict.weigh_addAll]
          exact add_add_add_comm ..

/-- A purge splits the tables in two. -/
theorem UsageTables.weigh_keptFrom (tables : UsageTables) (cutoffDay : String) :
    (tables.keptFrom cutoffDay).weigh daily latency +
        (tables.droppedBefore cutoffDay).weigh daily latency =
      tables.weigh daily latency := by
  unfold weigh Batch.weigh
  rw [add_add_add_comm]
  exact congrArg₂ (· + ·)
    (Dict.weigh_retain_add daily (fun key => decide (key.day < cutoffDay)) tables.daily)
    (Dict.weigh_retain_add latency (fun key => decide (key.day < cutoffDay)) tables.latency)

end

/-! ## Conservation -/

namespace UsageService

/-- A batch moves out of memory. -/
private theorem moved_out {N : Type} [AddCommMonoid N] {tables written batch lost : N}
    (settled : written + lost = tables + batch) (recorder rest gone : N) :
    written + (recorder + rest) + (gone + lost) = tables + (recorder + (batch + rest)) + gone := by
  calc written + (recorder + rest) + (gone + lost)
      _ = written + lost + (recorder + rest + gone) := by abel
      _ = tables + batch + (recorder + rest + gone) := by rw [settled]
      _ = tables + (recorder + (batch + rest)) + gone := by abel

private theorem dropped_apart {N : Type} [AddCommMonoid N] (kept dropped memory purged lost : N) :
    kept + memory + (purged + (dropped + lost)) = kept + dropped + memory + (purged + lost) := by
  abel

/-- Two batches move out, one after the other. -/
private theorem moved_twice {N : Type} [AddCommMonoid N]
    {tables written later ticker main lost lostOfMain : N}
    (first : written + lost = tables + ticker) (second : later + lostOfMain = written + main)
    (recorder : N) :
    later + (lost + lostOfMain + recorder) = tables + (recorder + (ticker + main)) := by
  calc later + (lost + lostOfMain + recorder)
      _ = later + lostOfMain + (lost + recorder) := by abel
      _ = written + main + (lost + recorder) := by rw [second]
      _ = written + lost + (main + recorder) := by abel
      _ = tables + ticker + (main + recorder) := by rw [first]
      _ = tables + (recorder + (ticker + main)) := by abel

/-- What the running process holds. -/
def memory (world : UsageService) : List Batch :=
  match world.process with
  | none => []
  | some process => [process.recorder.contents, process.ticker.batch, process.main.batch]

/-- Every recorded amount is in one of the four places. -/
structure Conserves (world : UsageService) : Prop where
  total : ∀ {N : Type} [AddCommMonoid N] (daily : DailyKey → DailyCounters →+ N)
    (latency : LatencyKey → ℤ →+ N),
    world.tables.weigh daily latency + weighBatches daily latency world.memory +
        weighBatches daily latency (world.purged ++ world.lost) =
      weighSteps daily latency world.dailySteps world.latencySteps

section

variable {N : Type} [AddCommMonoid N] (daily : DailyKey → DailyCounters →+ N)
  (latency : LatencyKey → ℤ →+ N) {world next : UsageService} {process : UsageProcess}

/-- What the two drainers of a process hold. -/
def weighTasks (process : UsageProcess) : N :=
  process.ticker.batch.weigh daily latency + process.main.batch.weigh daily latency

theorem weigh_memory (up : world.process = some process) :
    weighBatches daily latency world.memory =
      process.recorder.weigh daily latency + weighTasks daily latency process := by
  simp [memory, up, weighBatches, UsageRecorder.weigh, weighTasks]

theorem weigh_memory_down (down : world.process = none) :
    weighBatches daily latency world.memory = 0 := by
  simp [memory, down]

/-- One drainer moves; what the other one holds stays with it. -/
theorem exists_rest {drainer : Drainer} {frame : FlushFrame}
    (stands : process.frame? drainer = some frame) :
    ∃ rest, weighTasks daily latency process = frame.batch.weigh daily latency + rest ∧
      (∀ recorder later,
        weighTasks daily latency (({ process with recorder } : UsageProcess).setFrame later drainer) =
          later.batch.weigh daily latency + rest) ∧
      weighTasks daily latency (process.flushed drainer) = rest := by
  cases drainer with
  | ticker =>
      cases stands
      refine ⟨process.main.batch.weigh daily latency, rfl, fun _ _ => rfl, ?_⟩
      simp [UsageProcess.flushed, weighTasks]
  | main =>
      have phase : process.main.batch = frame.batch := by
        rw [MainPhase.batch, show process.main.frame? = some frame from stands, Option.getD_some]
      refine ⟨process.ticker.batch.weigh daily latency, ?_, ?_, ?_⟩
      · rw [weighTasks, phase]
        exact add_comm ..
      · intro recorder later
        exact add_comm ..
      · have done : MainPhase.finished.batch = FlushFrame.ready.batch := rfl
        simp [UsageProcess.flushed, weighTasks, done]

theorem weigh_ended (process : UsageProcess) (tables : UsageTables)
    (tickerCommits mainCommits : Bool) :
    (process.ended tables tickerCommits mainCommits).1.weigh daily latency +
        weighBatches daily latency (process.ended tables tickerCommits mainCommits).2 =
      tables.weigh daily latency +
        (process.recorder.weigh daily latency + weighTasks daily latency process) := by
  have ticker := process.ticker.weigh_settle daily latency tables tickerCommits
  have main := (process.main.frame?.getD .ready).weigh_settle daily latency
    (process.ticker.settle tables tickerCommits).1 mainCommits
  have phase : (process.main.frame?.getD .ready).batch = process.main.batch := rfl
  rw [phase] at main
  simp only [UsageProcess.ended, weighBatches_append, weighBatches_singleton]
  exact moved_twice ticker main _

end

theorem Conserves.blank : Conserves blank := by
  constructor
  intro N _ daily latency
  simp [UsageService.blank, memory, UsageTables.weigh, weighSteps]

theorem Conserves.down {world : UsageService} {process : UsageProcess} (conserves : Conserves world)
    (up : world.process = some process) (tickerCommits mainCommits : Bool) :
    Conserves (world.down (process.ended world.tables tickerCommits mainCommits)) := by
  constructor
  intro N _ daily latency
  have before := conserves.total daily latency
  have ended := weigh_ended daily latency process world.tables tickerCommits mainCommits
  rw [weigh_memory daily latency up, ← ended] at before
  refine Eq.trans ?_ before
  rw [weigh_memory_down daily latency rfl, add_zero]
  simp only [UsageService.down, ← List.append_assoc, weighBatches_append]
  exact (add_assoc ..).symm.trans (add_right_comm ..)

theorem Conserves.moves {world next : UsageService} {event : ServiceEvent}
    (conserves : Conserves world) (moves : world.Moves event next) : Conserves next := by
  constructor
  intro N _ daily latency
  have before := conserves.total daily latency
  have serves : MainPhase.serving.batch = FlushFrame.ready.batch := rfl
  cases moves with
  | start down =>
      rw [weigh_memory_down daily latency down] at before
      rw [weigh_memory daily latency rfl]
      simpa [UsageProcess.new, weighTasks, serves] using before
  | @recordDaily process entry up serving =>
      rw [weigh_memory daily latency up, weighSteps] at before
      rw [weigh_memory daily latency rfl]
      simp only [UsageRecorder.weigh_recordDaily, weighSteps, weighTasks, List.map_append,
        List.map_cons, List.map_nil, Dict.weighAll_append, Dict.weighAll_cons, Dict.weighAll_nil]
      calc _ = _ + daily entry.dailyAmount.1 entry.dailyAmount.2 := ?_
        _ = _ := congrArg (· + daily entry.dailyAmount.1 entry.dailyAmount.2) before
        _ = _ := ?_
      · rw [weighTasks]
        abel
      · abel
  | @recordLatency process position entry up found =>
      rw [weigh_memory daily latency up, weighSteps] at before
      rw [weigh_memory daily latency rfl]
      simp only [UsageRecorder.weigh_recordLatency, weighSteps, weighTasks, List.map_append,
        List.map_cons, List.map_nil, Dict.weighAll_append, Dict.weighAll_cons, Dict.weighAll_nil]
      calc _ = _ + latency entry.latencyAmount.1 entry.latencyAmount.2 := ?_
        _ = _ := congrArg (· + latency entry.latencyAmount.1 entry.latencyAmount.2) before
        _ = _ := ?_
      · rw [weighTasks]
        abel
      · abel
  | @takeDaily process drainer listed up ready lists =>
      obtain ⟨rest, held, moved, _⟩ := exists_rest daily latency ready
      have carried := process.recorder.weigh_takeDaily daily latency lists
      rw [weigh_memory daily latency up, held, weigh_ready, zero_add, ← carried] at before
      rw [weigh_memory daily latency rfl, moved]
      refine Eq.trans ?_ before
      cases drainer <;> exact congrArg (· + _) (congrArg (_ + ·) (add_assoc ..).symm)
  | @takeLatency process drainer taken listed up drained lists =>
      obtain ⟨rest, held, moved, _⟩ := exists_rest daily latency drained
      have carried := process.recorder.weigh_takeLatency daily latency taken lists
      rw [weigh_memory daily latency up, held, ← add_assoc (process.recorder.weigh daily latency),
        ← carried] at before
      rw [weigh_memory daily latency rfl, moved]
      refine Eq.trans ?_ before
      cases drainer <;> exact congrArg (· + _) (congrArg (_ + ·) (add_assoc ..).symm)
  | @flush process drainer batch commits up flushing =>
      obtain ⟨rest, held, _, left⟩ := exists_rest daily latency flushing
      have settled := FlushFrame.weigh_settle daily latency world.tables commits (.flushing batch)
      rw [weigh_memory daily latency up, held] at before
      have same : (process.flushed drainer).recorder = process.recorder := by
        cases drainer <;> rfl
      rw [weigh_memory daily latency rfl, left, same, ← List.append_assoc, weighBatches_append]
      rw [← before]
      exact moved_out settled _ _ _
  | @purged process now up =>
      have split := world.tables.weigh_keptFrom daily latency (retentionCutoffDay now)
      refine Eq.trans ?_ before
      rw [← split, List.append_assoc]
      simp only [weighBatches_append, weighBatches_singleton]
      exact dropped_apart _ _ _ _ _
  | purgeFailed now up => exact before
  | @shutdown process up serving idle =>
      have closes : (MainPhase.closing .ready).batch = FlushFrame.ready.batch := rfl
      rw [weigh_memory daily latency up, weighTasks, serving, serves] at before
      rw [weigh_memory daily latency rfl, weighTasks, closes]
      exact before
  | @exit process commits up finished =>
      exact (conserves.down up commits false).total daily latency
  | @kill process tickerCommits mainCommits up =>
      exact (conserves.down up tickerCommits mainCommits).total daily latency

end UsageService

/-! ## The phases of a shutdown -/

namespace MainPhase

theorem eq_closing_of_frame? {phase : MainPhase} {frame : FlushFrame}
    (stands : phase.frame? = some frame) : phase = .closing frame := by
  cases phase with
  | serving => cases stands
  | closing other =>
      cases stands
      rfl
  | finished => cases stands

/-- `main` has emptied the daily map for the last time. -/
def tookDaily : MainPhase → Bool
  | .serving | .closing .ready => false
  | .closing (.drained _) | .closing (.flushing _) | .finished => true

def tookLatency : MainPhase → Bool
  | .serving | .closing .ready | .closing (.drained _) => false
  | .closing (.flushing _) | .finished => true

end MainPhase

namespace UsageProcess

/-- Once `main` has stopped serving, nothing is recorded any more. -/
structure Phased (process : UsageProcess) : Prop where
  idle : process.main ≠ .serving → process.recording = []
  tookDaily : process.main.tookDaily = true → process.recorder.daily = ∅
  tookLatency : process.main.tookLatency = true → process.recorder.latency = ∅

/-- A serving process has nothing to prove. -/
theorem Phased.of_serving {process : UsageProcess} (serving : process.main = .serving) :
    process.Phased := by
  constructor
  · intro stopped
    exact (stopped serving).elim
  · intro took
    rw [serving] at took
    cases took
  · intro took
    rw [serving] at took
    cases took

variable {process : UsageProcess} {drainer : Drainer}

theorem Phased.takeDaily (phased : process.Phased) (ready : process.frame? drainer = some .ready)
    (listed : List (DailyKey × DailyCounters)) :
    (({ process with recorder := process.recorder.takeDaily } : UsageProcess).setFrame
      (.drained listed) drainer).Phased := by
  cases drainer with
  | ticker => exact ⟨phased.idle, fun _ => rfl, phased.tookLatency⟩
  | main =>
      have phase := MainPhase.eq_closing_of_frame? ready
      constructor
      · intro _
        apply phased.idle
        rw [phase]
        exact MainPhase.noConfusion
      · intro _
        rfl
      · intro took
        cases took

theorem Phased.takeLatency (phased : process.Phased) {taken : List (DailyKey × DailyCounters)}
    (drained : process.frame? drainer = some (.drained taken)) (batch : Batch) :
    (({ process with recorder := process.recorder.takeLatency } : UsageProcess).setFrame
      (.flushing batch) drainer).Phased := by
  cases drainer with
  | ticker => exact ⟨phased.idle, phased.tookDaily, fun _ => rfl⟩
  | main =>
      have phase := MainPhase.eq_closing_of_frame? drained
      constructor
      · intro _
        apply phased.idle
        rw [phase]
        exact MainPhase.noConfusion
      · intro _
        apply phased.tookDaily
        rw [phase]
        rfl
      · intro _
        rfl

theorem Phased.flushed (phased : process.Phased) {batch : Batch}
    (flushing : process.frame? drainer = some (.flushing batch)) :
    (process.flushed drainer).Phased := by
  cases drainer with
  | ticker => exact ⟨phased.idle, phased.tookDaily, phased.tookLatency⟩
  | main =>
      have phase := MainPhase.eq_closing_of_frame? flushing
      constructor
      · intro _
        apply phased.idle
        rw [phase]
        exact MainPhase.noConfusion
      · intro _
        apply phased.tookDaily
        rw [phase]
        rfl
      · intro _
        apply phased.tookLatency
        rw [phase]
        rfl

end UsageProcess

namespace UsageService

def Phased (world : UsageService) : Prop :=
  ∀ process, world.process = some process → process.Phased

variable {world next : UsageService} {event : ServiceEvent}

theorem Phased.blank : Phased blank := by
  intro process up
  cases up

theorem Phased.moves (phased : Phased world) (moves : world.Moves event next) : Phased next := by
  intro process up
  cases moves with
  | start down =>
      cases up
      exact .of_serving rfl
  | recordDaily entry running serving =>
      cases up
      exact .of_serving serving
  | recordLatency running found =>
      cases up
      apply UsageProcess.Phased.of_serving
      -- A stopped server has no request left between its two steps.
      by_contra stopped
      rw [(phased _ running).idle stopped] at found
      cases found
  | takeDaily running ready lists =>
      cases up
      exact (phased _ running).takeDaily ready _
  | takeLatency running drained lists =>
      cases up
      exact (phased _ running).takeLatency drained _
  | flush commits running flushing =>
      cases up
      exact (phased _ running).flushed flushing
  | purged now running => exact phased process up
  | purgeFailed now running => exact phased process up
  | shutdown running serving idle =>
      cases up
      exact ⟨fun _ => idle, (by simp [MainPhase.tookDaily]), (by simp [MainPhase.tookLatency])⟩
  | exit commits running finished => cases up
  | kill tickerCommits mainCommits running => cases up

/-! ## Clean deploys -/

/-- No flush fails, and a process ends after its last flush while the flush task
waits for its next tick. -/
def clean (world : UsageService) : ServiceEvent → Bool
  | .flush _ commits => commits
  | .exit _ => world.process.all fun process => process.ticker.isReady
  | .kill _ _ => false
  | .start | .recordDaily _ | .recordLatency _ | .takeDaily _ _ | .takeLatency _ _ | .purge _ _
  | .shutdown => true

/-- Nothing has been lost, and every request is counted in both maps or is about to be. -/
structure Kept (world : UsageService) : Prop where
  phased : Phased world
  lost : ∀ batch ∈ world.lost, batch = { daily := [], latency := [] }
  paired : world.dailySteps.Perm
    (world.latencySteps ++ world.process.elim [] UsageProcess.recording)

theorem Kept.blank : Kept blank where
  phased := .blank
  lost batch member := by cases member
  paired := List.Perm.refl _

theorem recording_setFrame (process : UsageProcess) (frame : FlushFrame) (drainer : Drainer) :
    (process.setFrame frame drainer).recording = process.recording := by
  cases drainer <;> rfl

theorem recording_flushed (process : UsageProcess) (drainer : Drainer) :
    (process.flushed drainer).recording = process.recording := by
  cases drainer <;> rfl

/-- A transaction that commits writes the whole batch. -/
theorem settle_flushing (tables : UsageTables) (batch : Batch) :
    ((FlushFrame.flushing batch).settle tables true).2 = [] := by
  unfold FlushFrame.settle UsageTables.flushUsage
  by_cases empty : (batch.daily.isEmpty && batch.latency.isEmpty) = true <;> simp [empty]

/-- A process that exits cleanly has nothing left in memory. -/
theorem ended_clean {process : UsageProcess} (phased : process.Phased)
    (finished : process.main = .finished) (ready : process.ticker.isReady = true)
    (tables : UsageTables) (commits : Bool) :
    (process.ended tables commits false).2 = [{ daily := [], latency := [] }] := by
  have daily : process.recorder.daily = ∅ := phased.tookDaily (by rw [finished]; rfl)
  have latency : process.recorder.latency = ∅ := phased.tookLatency (by rw [finished]; rfl)
  have contents : process.recorder.contents = { daily := [], latency := [] } := by
    rw [UsageRecorder.contents, daily, latency]
    rfl
  have waiting : process.ticker = .ready := by
    cases stands : process.ticker with
    | ready => rfl
    | drained taken => simp [stands, FlushFrame.isReady] at ready
    | flushing batch => simp [stands, FlushFrame.isReady] at ready
  simp [UsageProcess.ended, waiting, finished, MainPhase.frame?, FlushFrame.settle, contents]

theorem Kept.moves (kept : Kept world) (allowed : world.clean event = true)
    (moves : world.Moves event next) : Kept next := by
  refine ⟨kept.phased.moves moves, ?_, ?_⟩
  · cases moves with
    | flush commits up flushing =>
        have committed : commits = true := allowed
        subst committed
        simpa [settle_flushing] using kept.lost
    | exit commits up finished =>
        have ready := allowed
        simp only [clean, up, Option.all_some] at ready
        intro batch member
        simp only [UsageService.down, ended_clean (kept.phased _ up) finished ready,
          List.mem_append, List.mem_singleton] at member
        exact member.elim (kept.lost batch) id
    | kill tickerCommits mainCommits up => cases allowed
    | start | recordDaily | recordLatency | takeDaily | takeLatency | purged | purgeFailed
    | shutdown => exact kept.lost
  · have paired := kept.paired
    cases moves with
    | start down => simpa [down, UsageProcess.new] using paired
    | recordDaily entry up serving =>
        rw [up] at paired
        simpa [← List.append_assoc] using paired.append_right [entry]
    | @recordLatency process position entry up found =>
        rw [up] at paired
        obtain ⟨inside, rfl⟩ := List.getElem?_eq_some_iff.mp found
        refine paired.trans ?_
        simp only [Option.elim_some, List.append_assoc, List.cons_append, List.nil_append]
        exact (List.getElem_cons_eraseIdx_perm inside).symm.append_left _
    | takeDaily up ready lists =>
        rw [up] at paired
        simpa [recording_setFrame] using paired
    | takeLatency up drained lists =>
        rw [up] at paired
        simpa [recording_setFrame] using paired
    | flush commits up flushing =>
        rw [up] at paired
        simpa [recording_flushed] using paired
    | purged now up => exact paired
    | purgeFailed now up => exact paired
    | shutdown up serving idle =>
        rw [up] at paired
        exact paired
    | exit commits up finished =>
        have idle := (kept.phased _ up).idle (by rw [finished]; exact MainPhase.noConfusion)
        rw [up] at paired
        simpa [UsageService.down, idle] using paired
    | kill tickerCommits mainCommits up => cases allowed

/-- What has been purged is older than this day. -/
structure PurgedBefore (day : String) (world : UsageService) : Prop where
  daily : ∀ batch ∈ world.purged, ∀ item ∈ batch.daily, item.1.day < day
  latency : ∀ batch ∈ world.purged, ∀ item ∈ batch.latency, item.1.day < day

theorem PurgedBefore.moves {day : String} (purged : PurgedBefore day world)
    (allowed : ∀ now, event = .purge now true → retentionCutoffDay now ≤ day)
    (moves : world.Moves event next) : PurgedBefore day next := by
  cases moves with
  | @purged process now up =>
      have early := allowed now rfl
      constructor
      · intro batch member item listed
        rcases List.mem_append.mp member with old | new
        · exact purged.daily batch old item listed
        · rw [List.mem_singleton.mp new] at listed
          have dropped := (List.mem_filter.mp listed).2
          exact lt_of_lt_of_le (of_decide_eq_true dropped) early
      · intro batch member item listed
        rcases List.mem_append.mp member with old | new
        · exact purged.latency batch old item listed
        · rw [List.mem_singleton.mp new] at listed
          have dropped := (List.mem_filter.mp listed).2
          exact lt_of_lt_of_le (of_decide_eq_true dropped) early
  | start | recordDaily | recordLatency | takeDaily | takeLatency | flush | purgeFailed | shutdown
  | exit | kill => exact ⟨purged.daily, purged.latency⟩

/-- The entries that a schedule records. -/
def recorded (events : List ServiceEvent) : List UsageRecord :=
  events.filterMap fun event =>
    match event with
    | .recordDaily entry => some entry
    | _ => none

theorem dailySteps_of_run {guard : UsageService → ServiceEvent → Prop} {events : List ServiceEvent}
    {start finish : UsageService} (run : Run step guard start events finish) :
    finish.dailySteps = start.dailySteps ++ recorded events := by
  induction run with
  | nil state => simp [recorded]
  | cons allowed taken rest induction =>
      rw [induction]
      cases step_eq_some_iff.mp taken <;> simp [recorded, UsageService.down]

/-- A weight that counts no purged row. -/
theorem weigh_purged {N : Type} [AddCommMonoid N] {daily : DailyKey → DailyCounters →+ N}
    {latency : LatencyKey → ℤ →+ N} {day : String} (purged : PurgedBefore day world)
    (dailyLater : ∀ key, key.day < day → daily key = 0)
    (latencyLater : ∀ key, key.day < day → latency key = 0) :
    weighBatches daily latency world.purged = 0 := by
  apply List.sum_eq_zero
  intro amount member
  obtain ⟨batch, listed, rfl⟩ := List.mem_map.mp member
  have first : Dict.weighAll daily batch.daily = 0 := by
    apply List.sum_eq_zero
    intro amount member
    obtain ⟨item, inside, rfl⟩ := List.mem_map.mp member
    rw [dailyLater item.1 (purged.daily batch listed item inside)]
    rfl
  have second : Dict.weighAll latency batch.latency = 0 := by
    apply List.sum_eq_zero
    intro amount member
    obtain ⟨item, inside, rfl⟩ := List.mem_map.mp member
    rw [latencyLater item.1 (purged.latency batch listed item inside)]
    rfl
  rw [Batch.weigh, first, second, add_zero]

/-- With nothing lost and no process running, the tables hold what a weight of
kept days counts. -/
theorem Kept.tables {N : Type} [AddCommMonoid N] {daily : DailyKey → DailyCounters →+ N}
    {latency : LatencyKey → ℤ →+ N} {day : String} (kept : Kept world) (conserves : Conserves world)
    (purged : PurgedBefore day world) (down : world.process = none)
    (dailyLater : ∀ key, key.day < day → daily key = 0)
    (latencyLater : ∀ key, key.day < day → latency key = 0) :
    world.tables.weigh daily latency =
      weighSteps daily latency world.dailySteps world.dailySteps := by
  have lost : weighBatches daily latency world.lost = 0 := by
    apply List.sum_eq_zero
    intro amount member
    obtain ⟨batch, listed, rfl⟩ := List.mem_map.mp member
    rw [kept.lost batch listed]
    simp [Batch.weigh]
  have steps : world.dailySteps.Perm world.latencySteps := by
    simpa [down] using kept.paired
  have total := conserves.total daily latency
  rw [weigh_memory_down daily latency down, weighBatches_append, lost,
    weigh_purged purged dailyLater latencyLater, add_zero, add_zero, add_zero] at total
  rw [total, weighSteps, weighSteps]
  exact congrArg _ (Dict.weighAll_perm latency (steps.symm.map UsageRecord.latencyAmount))

/-- After a clean run the rows of kept days hold what the recorded requests add up to. -/
theorem amounts_of_clean {events : List ServiceEvent}
    (run : Run step (fun world event => world.clean event = true) blank events world)
    (down : world.process = none) {day : String}
    (early : ∀ now, .purge now true ∈ events → retentionCutoffDay now ≤ day) :
    (∀ key : DailyKey, day ≤ key.day → world.tables.daily.amountAt key =
      Dict.weighAll (Dict.atKey key) ((recorded events).map UsageRecord.dailyAmount)) ∧
      ∀ key : LatencyKey, day ≤ key.day → world.tables.latency.amountAt key =
        Dict.weighAll (Dict.atKey key) ((recorded events).map UsageRecord.latencyAmount) := by
  have conserves : Conserves world :=
    run.invariant (fun _ _ _ conserves _ taken => conserves.moves (step_eq_some_iff.mp taken))
      Conserves.blank
  have whole : Kept world :=
    run.invariant (fun _ _ _ whole allowed taken => whole.moves allowed (step_eq_some_iff.mp taken))
      Kept.blank
  have purged : PurgedBefore day world := by
    have early : ∀ event ∈ events, ∀ now, event = .purge now true → retentionCutoffDay now ≤ day := by
      intro event member now same
      exact early now (same ▸ member)
    refine (run.strengthen early).invariant ?_ ⟨by simp [blank], by simp [blank]⟩
    intro state event next purged allowed taken
    exact purged.moves allowed.2 (step_eq_some_iff.mp taken)
  have steps : world.dailySteps = recorded events := dailySteps_of_run run
  have later : ∀ {κ M : Type} [DecidableEq κ] [AddCommMonoid M] (dayOf : κ → String) {key : κ},
      day ≤ dayOf key → ∀ other, dayOf other < day → Dict.atKey key other = (0 : M →+ M) := by
    intro κ M _ _ dayOf key recent other early
    have differs : other ≠ key := by
      rintro rfl
      exact absurd recent (not_le.mpr early)
    exact if_neg differs
  constructor
  · intro key recent
    have held : world.tables.weigh (Dict.atKey key) 0 =
        weighSteps (Dict.atKey key) 0 world.dailySteps world.dailySteps :=
      whole.tables conserves purged down (later DailyKey.day recent) (fun _ _ => rfl)
    rw [UsageTables.weigh, weighSteps, Dict.weigh_atKey, steps] at held
    simpa only [Dict.weigh_zero, Dict.weighAll_zero, add_zero] using held
  · intro key recent
    have held : world.tables.weigh 0 (Dict.atKey key) =
        weighSteps 0 (Dict.atKey key) world.dailySteps world.dailySteps :=
      whole.tables conserves purged down (fun _ _ => rfl) (later LatencyKey.day recent)
    rw [UsageTables.weigh, weighSteps, Dict.weigh_atKey, steps] at held
    simpa only [Dict.weigh_zero, Dict.weighAll_zero, zero_add] using held

end UsageService

open UsageService in
theorem clean_deploys_lose_nothing {events : List ServiceEvent} {world : UsageService}
    (run : Run UsageService.step (fun world event => world.clean event = true) blank events world)
    (down : world.process = none) (day : String)
    (kept : ∀ now, .purge now true ∈ events → retentionCutoffDay now ≤ day) :
    (∀ key : DailyKey, day ≤ key.day →
      (world.tables.daily.amountAt key).requestCount =
          (recorded events).countP (fun entry => entry.dailyKey = key) ∧
        (world.tables.daily.amountAt key).latencySumUs =
          (((recorded events).filter fun entry => entry.dailyKey = key).map
            fun entry => asMicros entry.latency).sum) ∧
      ∀ key : LatencyKey, day ≤ key.day →
        world.tables.latency.amountAt key =
          (recorded events).countP fun entry => entry.latencyKey = key := by
  obtain ⟨daily, latency⟩ := amounts_of_clean run down kept
  constructor
  · intro key recent
    rw [daily key recent]
    exact ⟨requestCount_atKey .., latencySumUs_atKey ..⟩
  · intro key recent
    rw [latency key recent]
    exact latency_atKey ..

/-! ## Two deploys -/

/-- A request, its flush by the task, a purge, another request and a clean shutdown. -/
def cleanDeploy : List ServiceEvent :=
  [ .start
  , .recordDaily cutRecord
  , .recordLatency 0
  , .takeDaily .ticker [cutRecord.dailyAmount]
  , .takeLatency .ticker [cutRecord.latencyAmount]
  , .flush .ticker true
  , .purge cutRecord.now true
  , .recordDaily cutRecord
  , .recordLatency 0
  , .shutdown
  , .takeDaily .main [cutRecord.dailyAmount]
  , .takeLatency .main [cutRecord.latencyAmount]
  , .flush .main true
  , .exit true ]

/-- The flush task has drained the recorder when `main` finds it empty and exits. -/
def exitDuringFlush : List ServiceEvent :=
  [ .start
  , .recordDaily cutRecord
  , .recordLatency 0
  , .takeDaily .ticker [cutRecord.dailyAmount]
  , .takeLatency .ticker [cutRecord.latencyAmount]
  , .shutdown
  , .takeDaily .main []
  , .takeLatency .main []
  , .flush .main true
  , .exit false ]

/-- A run from the blank service that was carried out and whose last state passed a check. -/
theorem UsageService.exists_run (allowed : UsageService → ServiceEvent → Bool)
    (events : List ServiceEvent) (check : UsageService → Bool)
    (computed : (runEvents step allowed blank events).any check = true) :
    ∃ world, Run step (fun world event => allowed world event = true) blank events world ∧
      check world = true :=
  Run.exists_of_runEvents computed

open UsageService in
theorem clean_deploys_lose_nothing_for_two_requests :
    ∃ world, Run UsageService.step (fun world event => world.clean event = true) blank cleanDeploy
        world ∧
      (world.tables.daily.amountAt cutRecord.dailyKey).requestCount = 2 ∧
      world.tables.latency.amountAt cutRecord.latencyKey = 2 := by
  obtain ⟨world, run, down⟩ := exists_run clean cleanDeploy (fun world => world.process.isNone)
    (by decide +kernel)
  have kept : ∀ now, ServiceEvent.purge now true ∈ cleanDeploy →
      retentionCutoffDay now ≤ cutRecord.day := by
    intro now member
    have same : now = cutRecord.now := by simpa [cleanDeploy] using member
    subst same
    decide +kernel
  obtain ⟨daily, latency⟩ := clean_deploys_lose_nothing run (Option.isNone_iff_eq_none.mp down)
    cutRecord.day kept
  refine ⟨world, run, ?_, ?_⟩
  · rw [(daily cutRecord.dailyKey le_rfl).1]
    decide +kernel
  · rw [latency cutRecord.latencyKey le_rfl]
    decide +kernel

open UsageService in
/-- A deploy at the wrong moment drops the batch the task was flushing. -/
theorem exit_during_flush_loses_batch :
    ∃ world, Run UsageService.step (fun _ _ => True) blank exitDuringFlush world ∧
      world.process.isNone = true ∧
      (world.tables.daily.amountAt cutRecord.dailyKey).requestCount = 0 := by
  obtain ⟨world, run, checked⟩ := exists_run (fun _ _ => true) exitDuringFlush
    (fun world => world.process.isNone &&
      decide ((world.tables.daily.amountAt cutRecord.dailyKey).requestCount = 0))
    (by decide +kernel)
  obtain ⟨down, nothing⟩ := Bool.and_eq_true_iff.mp checked
  exact ⟨world, run.weaken fun _ _ _ => trivial, down, of_decide_eq_true nothing⟩

end SpellServer
