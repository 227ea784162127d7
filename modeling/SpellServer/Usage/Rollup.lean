import SpellServer.Library.Interleaving
import SpellServer.Library.Tally
import SpellServer.Usage.Recorder

/-!
# The usage rollup under concurrent use

Requests record while the flush task drains and writes batches.  A `record` and
a `drain` are two steps each, so a drain can cut a record in half and its two
halves travel in different batches.  A flush is one transaction.
-/

namespace SpellServer

open Library

/-! ## Counters as amounts -/

namespace DailyCounters

instance : Zero DailyCounters := ⟨.default⟩

instance : Add DailyCounters :=
  ⟨fun one two =>
    { requestCount := one.requestCount + two.requestCount
      latencySumUs := one.latencySumUs + two.latencySumUs }⟩

@[simp] theorem zero_requestCount : (0 : DailyCounters).requestCount = 0 := rfl
@[simp] theorem zero_latencySumUs : (0 : DailyCounters).latencySumUs = 0 := rfl
@[simp] theorem add_requestCount (one two : DailyCounters) :
    (one + two).requestCount = one.requestCount + two.requestCount := rfl
@[simp] theorem add_latencySumUs (one two : DailyCounters) :
    (one + two).latencySumUs = one.latencySumUs + two.latencySumUs := rfl

instance : AddCommMonoid DailyCounters where
  add_assoc one two three := DailyCounters.ext (add_assoc ..) (add_assoc ..)
  zero_add one := DailyCounters.ext (zero_add _) (zero_add _)
  add_zero one := DailyCounters.ext (add_zero _) (add_zero _)
  add_comm one two := DailyCounters.ext (add_comm ..) (add_comm ..)
  nsmul := nsmulRec

def requests : DailyCounters →+ ℤ where
  toFun := requestCount
  map_zero' := rfl
  map_add' _ _ := rfl

def micros : DailyCounters →+ ℤ where
  toFun := latencySumUs
  map_zero' := rfl
  map_add' _ _ := rfl

/-- Nothing is counted down. -/
def nonnegative : AddSubmonoid DailyCounters where
  carrier := { counters | 0 ≤ counters.requestCount ∧ 0 ≤ counters.latencySumUs }
  zero_mem' := ⟨le_refl 0, le_refl 0⟩
  add_mem' one two := ⟨add_nonneg one.1 two.1, add_nonneg one.2 two.2⟩

end DailyCounters

/-- What the two steps of a record add. -/
def UsageRecord.dailyAmount (entry : UsageRecord) : DailyKey × DailyCounters :=
  (entry.dailyKey, { requestCount := 1, latencySumUs := asMicros entry.latency })

def UsageRecord.latencyAmount (entry : UsageRecord) : LatencyKey × ℤ := (entry.latencyKey, 1)

@[simp] theorem UsageRecord.dailyAmount_fst (entry : UsageRecord) :
    entry.dailyAmount.1 = entry.dailyKey := rfl
@[simp] theorem UsageRecord.latencyAmount_fst (entry : UsageRecord) :
    entry.latencyAmount.1 = entry.latencyKey := rfl

theorem UsageRecorder.recordDaily_eq (recorder : UsageRecorder) (entry : UsageRecord) :
    recorder.recordDaily entry =
      { recorder with daily := recorder.daily.add entry.dailyAmount.1 entry.dailyAmount.2 } := rfl

theorem UsageRecorder.recordLatency_eq (recorder : UsageRecorder) (entry : UsageRecord) :
    recorder.recordLatency entry =
      { recorder with
        latency := recorder.latency.add entry.latencyAmount.1 entry.latencyAmount.2 } := rfl

/-! ## Batches and tables -/

/-- What a drain hands to `flush_usage`. -/
structure Batch where
  daily : List (DailyKey × DailyCounters)
  latency : List (LatencyKey × ℤ)

/-- `usage_daily` and `usage_latency`, by primary key. -/
structure UsageTables where
  daily : Dict DailyKey DailyCounters
  latency : Dict LatencyKey ℤ

/-- Every upsert adds to the row it finds.  `none` is a failure: the transaction
rolls back. -/
def UsageTables.flushUsage (tables : UsageTables) (batch : Batch) (commits : Bool) :
    Option UsageTables :=
  if batch.daily.isEmpty && batch.latency.isEmpty then some tables
  else if commits then
    some
      { daily := tables.daily.addAll batch.daily
        latency := tables.latency.addAll batch.latency }
  else none

theorem UsageTables.flushUsage_eq_some {tables written : UsageTables} {batch : Batch}
    {commits : Bool} (flushed : tables.flushUsage batch commits = some written) :
    written =
      { daily := tables.daily.addAll batch.daily
        latency := tables.latency.addAll batch.latency } := by
  obtain ⟨daily, latency⟩ := batch
  simp only [flushUsage] at flushed
  split_ifs at flushed with empty
  · obtain ⟨noDaily, noLatency⟩ := Bool.and_eq_true_iff.mp empty
    rw [List.isEmpty_iff.mp noDaily, List.isEmpty_iff.mp noLatency]
    exact (Option.some.inj flushed).symm
  · exact (Option.some.inj flushed).symm

/-! ## Runs -/

/-- `recording` and `draining` are the calls between their two steps.  The last
two fields list the steps taken so far; the program keeps neither. -/
structure RollupWorld where
  recorder : UsageRecorder
  tables : UsageTables
  recording : List UsageRecord
  draining : List (List (DailyKey × DailyCounters))
  unflushed : List Batch
  failed : List Batch
  dailySteps : List UsageRecord
  latencySteps : List UsageRecord

/-- A hash map gives up its entries in any order. -/
inductive RollupEvent where
  | recordDaily (entry : UsageRecord)
  | recordLatency (position : ℕ)
  | takeDaily (listed : List (DailyKey × DailyCounters))
  | takeLatency (position : ℕ) (listed : List (LatencyKey × ℤ))
  | flush (position : ℕ) (commits : Bool)

namespace RollupWorld

def blank : RollupWorld :=
  { recorder := .new
    tables := { daily := ∅, latency := ∅ }
    recording := []
    draining := []
    unflushed := []
    failed := []
    dailySteps := []
    latencySteps := [] }

def step (world : RollupWorld) : RollupEvent → Option RollupWorld
  | .recordDaily entry =>
      some
        { world with
          recorder := world.recorder.recordDaily entry
          recording := world.recording ++ [entry]
          dailySteps := world.dailySteps ++ [entry] }
  | .recordLatency position =>
      world.recording[position]?.map fun entry =>
        { world with
          recorder := world.recorder.recordLatency entry
          recording := world.recording.eraseIdx position
          latencySteps := world.latencySteps ++ [entry] }
  | .takeDaily listed =>
      if listed.Perm world.recorder.daily.pairs then
        some
          { world with
            recorder := world.recorder.takeDaily
            draining := world.draining ++ [listed] }
      else none
  | .takeLatency position listed =>
      if listed.Perm world.recorder.latency.pairs then
        world.draining[position]?.map fun daily =>
          { world with
            recorder := world.recorder.takeLatency
            draining := world.draining.eraseIdx position
            unflushed := world.unflushed ++ [{ daily, latency := listed }] }
      else none
  | .flush position commits =>
      world.unflushed[position]?.map fun batch =>
        match world.tables.flushUsage batch commits with
        | some tables => { world with tables, unflushed := world.unflushed.eraseIdx position }
        | none =>
            { world with
              unflushed := world.unflushed.eraseIdx position
              failed := world.failed ++ [batch] }

/-- The daily amounts that are neither in the buffer nor in the table. -/
def dailyHeld (world : RollupWorld) : List (DailyKey × DailyCounters) :=
  world.draining.flatMap id ++ (world.unflushed ++ world.failed).flatMap Batch.daily

def latencyHeld (world : RollupWorld) : List (LatencyKey × ℤ) :=
  (world.unflushed ++ world.failed).flatMap Batch.latency

end RollupWorld

end SpellServer
