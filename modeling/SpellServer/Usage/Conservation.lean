import SpellServer.Usage.Rollup

/-!
# Conservation of usage counts

Every amount a step of `record` has added is in its table, in a batch, in a
drain or in the buffer.  The two halves of a record may be apart: the tables
agree on a tenant's day once everything is flushed.
-/

namespace SpellServer

open Library

namespace RollupWorld

/-- Every amount a step has added is in the table, held, or in the buffer. -/
structure Conserves (world : RollupWorld) : Prop where
  daily : ∀ {N : Type} [AddCommMonoid N] (weight : DailyKey → DailyCounters →+ N),
    Dict.weigh weight world.tables.daily + Dict.weighAll weight world.dailyHeld +
        Dict.weigh weight world.recorder.daily =
      Dict.weighAll weight (world.dailySteps.map UsageRecord.dailyAmount)
  latency : ∀ {N : Type} [AddCommMonoid N] (weight : LatencyKey → ℤ →+ N),
    Dict.weigh weight world.tables.latency + Dict.weighAll weight world.latencyHeld +
        Dict.weigh weight world.recorder.latency =
      Dict.weighAll weight (world.latencySteps.map UsageRecord.latencyAmount)
  steps : world.dailySteps.Perm (world.latencySteps ++ world.recording)

section

variable {world next : RollupWorld} {N : Type} [AddCommMonoid N]

theorem weighAll_dailyHeld (weight : DailyKey → DailyCounters →+ N) (world : RollupWorld) :
    Dict.weighAll weight world.dailyHeld =
      Dict.weighAll weight (world.draining.flatMap id) +
        (Dict.weighAll weight (world.unflushed.flatMap Batch.daily) +
          Dict.weighAll weight (world.failed.flatMap Batch.daily)) := by
  rw [dailyHeld, Dict.weighAll_append, List.flatMap_append, Dict.weighAll_append]

theorem weighAll_latencyHeld (weight : LatencyKey → ℤ →+ N) (world : RollupWorld) :
    Dict.weighAll weight world.latencyHeld =
      Dict.weighAll weight (world.unflushed.flatMap Batch.latency) +
        Dict.weighAll weight (world.failed.flatMap Batch.latency) := by
  rw [latencyHeld, List.flatMap_append, Dict.weighAll_append]

end

namespace Conserves

variable {world next : RollupWorld}

theorem blank : Conserves blank where
  daily _ := by simp [RollupWorld.blank, dailyHeld, UsageRecorder.new]
  latency _ := by simp [RollupWorld.blank, latencyHeld, UsageRecorder.new]
  steps := List.Perm.refl _

theorem recordDaily (conserves : Conserves world) {entry : UsageRecord}
    (taken : world.step (.recordDaily entry) = some next) : Conserves next := by
  cases taken
  constructor
  · intro N _ weight
    have before := conserves.daily weight
    simp only [weighAll_dailyHeld] at before ⊢
    rw [List.map_append, Dict.weighAll_append, ← before, UsageRecorder.recordDaily_eq,
      Dict.weigh_add]
    simp [Dict.weighAll, add_assoc]
  · exact conserves.latency
  · have longer := conserves.steps.append_right [entry]
    rwa [List.append_assoc] at longer

theorem recordLatency (conserves : Conserves world) {position : ℕ}
    (taken : world.step (.recordLatency position) = some next) : Conserves next := by
  obtain ⟨entry, found, rfl⟩ := Option.map_eq_some_iff.mp taken
  constructor
  · exact conserves.daily
  · intro N _ weight
    have before := conserves.latency weight
    simp only [weighAll_latencyHeld] at before ⊢
    rw [List.map_append, Dict.weighAll_append, ← before, UsageRecorder.recordLatency_eq,
      Dict.weigh_add]
    simp [Dict.weighAll, add_assoc]
  · obtain ⟨inside, rfl⟩ := List.getElem?_eq_some_iff.mp found
    rw [List.append_assoc]
    exact conserves.steps.trans
      ((List.getElem_cons_eraseIdx_perm inside).symm.append_left world.latencySteps)

theorem takeDaily (conserves : Conserves world) {listed : List (DailyKey × DailyCounters)}
    (taken : world.step (.takeDaily listed) = some next) : Conserves next := by
  by_cases listing : listed.Perm world.recorder.daily.pairs
  · simp only [step, listing, if_true, Option.some.injEq] at taken
    subst next
    constructor
    · intro N _ weight
      have before := conserves.daily weight
      have moved := Dict.weighAll_perm weight listing
      rw [Dict.weighAll_pairs] at moved
      simp only [weighAll_dailyHeld, List.flatMap_append, Dict.weighAll_append,
        UsageRecorder.takeDaily, Dict.weigh_empty] at before ⊢
      rw [← before, ← moved]
      simp only [List.flatMap_cons, List.flatMap_nil, List.append_nil, id_eq]
      abel
    · exact conserves.latency
    · exact conserves.steps
  · simp [step, listing] at taken

theorem takeLatency (conserves : Conserves world) {position : ℕ}
    {listed : List (LatencyKey × ℤ)}
    (taken : world.step (.takeLatency position listed) = some next) : Conserves next := by
  by_cases listing : listed.Perm world.recorder.latency.pairs
  · simp only [step, listing, if_true, Option.map_eq_some_iff] at taken
    obtain ⟨daily, found, rfl⟩ := taken
    constructor
    · intro N _ weight
      have before := conserves.daily weight
      simp only [weighAll_dailyHeld, List.flatMap_append, Dict.weighAll_append] at before ⊢
      rw [Dict.weighAll_flatMap_eraseIdx weight id found] at before
      rw [← before]
      simp only [List.flatMap_cons, List.flatMap_nil, List.append_nil, id_eq,
        UsageRecorder.takeLatency]
      abel
    · intro N _ weight
      have before := conserves.latency weight
      have moved := Dict.weighAll_perm weight listing
      rw [Dict.weighAll_pairs] at moved
      simp only [weighAll_latencyHeld, List.flatMap_append, Dict.weighAll_append,
        UsageRecorder.takeLatency, Dict.weigh_empty] at before ⊢
      rw [← before, ← moved]
      simp only [List.flatMap_cons, List.flatMap_nil, List.append_nil]
      abel
    · exact conserves.steps
  · simp [step, listing] at taken

theorem flush (conserves : Conserves world) {position : ℕ} {commits : Bool}
    (taken : world.step (.flush position commits) = some next) : Conserves next := by
  obtain ⟨batch, found, rfl⟩ := Option.map_eq_some_iff.mp taken
  cases flushed : world.tables.flushUsage batch commits with
  | some written =>
      rw [UsageTables.flushUsage_eq_some flushed]
      constructor
      · intro N _ weight
        have before := conserves.daily weight
        simp only [weighAll_dailyHeld] at before ⊢
        rw [Dict.weighAll_flatMap_eraseIdx weight Batch.daily found] at before
        rw [← before, Dict.weigh_addAll]
        abel
      · intro N _ weight
        have before := conserves.latency weight
        simp only [weighAll_latencyHeld] at before ⊢
        rw [Dict.weighAll_flatMap_eraseIdx weight Batch.latency found] at before
        rw [← before, Dict.weigh_addAll]
        abel
      · exact conserves.steps
  | none =>
      constructor
      · intro N _ weight
        have before := conserves.daily weight
        simp only [weighAll_dailyHeld] at before ⊢
        rw [Dict.weighAll_flatMap_eraseIdx weight Batch.daily found] at before
        rw [← before, List.flatMap_append, Dict.weighAll_append, List.flatMap_singleton]
        abel
      · intro N _ weight
        have before := conserves.latency weight
        simp only [weighAll_latencyHeld] at before ⊢
        rw [Dict.weighAll_flatMap_eraseIdx weight Batch.latency found] at before
        rw [← before, List.flatMap_append, Dict.weighAll_append, List.flatMap_singleton]
        abel
      · exact conserves.steps

theorem step {event : RollupEvent} (conserves : Conserves world)
    (taken : world.step event = some next) : Conserves next := by
  cases event with
  | recordDaily entry => exact conserves.recordDaily taken
  | recordLatency position => exact conserves.recordLatency taken
  | takeDaily listed => exact conserves.takeDaily taken
  | takeLatency position listed => exact conserves.takeLatency taken
  | flush position commits => exact conserves.flush taken

end Conserves

/-- No amount is negative. -/
structure CountsUp (world : RollupWorld) : Prop where
  dailyTable : world.tables.daily.Within DailyCounters.nonnegative
  dailyHeld : ∀ item ∈ world.dailyHeld, item.2 ∈ DailyCounters.nonnegative
  dailyBuffer : world.recorder.daily.Within DailyCounters.nonnegative
  latencyTable : world.tables.latency.Within (AddSubmonoid.nonneg ℤ)
  latencyHeld : ∀ item ∈ world.latencyHeld, item.2 ∈ AddSubmonoid.nonneg ℤ
  latencyBuffer : world.recorder.latency.Within (AddSubmonoid.nonneg ℤ)

namespace CountsUp

variable {world next : RollupWorld}

theorem blank : CountsUp blank where
  dailyTable := Dict.within_empty
  dailyHeld _ member := by cases member
  dailyBuffer := Dict.within_empty
  latencyTable := Dict.within_empty
  latencyHeld _ member := by cases member
  latencyBuffer := Dict.within_empty

/-- A flush leaves no amount behind that was not held before. -/
private theorem held_of_flush {α : Type} (amounts : Batch → List α) {position : ℕ} {batch : Batch}
    (found : world.unflushed[position]? = some batch) {failed : List Batch}
    (within : ∀ other ∈ failed, other ∈ world.failed ∨ other = batch) {item : α}
    (member : item ∈ (world.unflushed.eraseIdx position ++ failed).flatMap amounts) :
    item ∈ (world.unflushed ++ world.failed).flatMap amounts := by
  obtain ⟨other, among, inside⟩ := List.mem_flatMap.mp member
  refine List.mem_flatMap.mpr ⟨other, ?_, inside⟩
  rcases List.mem_append.mp among with unflushed | failing
  · exact List.mem_append_left _ (List.mem_of_mem_eraseIdx unflushed)
  · rcases within other failing with old | rfl
    · exact List.mem_append_right _ old
    · exact List.mem_append_left _ (List.mem_of_getElem? found)

/-- A new batch has its own amounts; all others were held before. -/
private theorem held_of_drain {α : Type} (amounts : Batch → List α) {batch : Batch} {item : α}
    (member : item ∈ ((world.unflushed ++ [batch]) ++ world.failed).flatMap amounts) :
    item ∈ amounts batch ∨ item ∈ (world.unflushed ++ world.failed).flatMap amounts := by
  obtain ⟨other, among, inside⟩ := List.mem_flatMap.mp member
  simp only [List.mem_append, List.mem_singleton] at among
  rcases among with (old | rfl) | failed
  · exact Or.inr (List.mem_flatMap.mpr ⟨other, List.mem_append_left _ old, inside⟩)
  · exact Or.inl inside
  · exact Or.inr (List.mem_flatMap.mpr ⟨other, List.mem_append_right _ failed, inside⟩)

theorem recordDaily (counts : CountsUp world) {entry : UsageRecord}
    (taken : world.step (.recordDaily entry) = some next) : CountsUp next := by
  cases taken
  have positive : entry.dailyAmount.2 ∈ DailyCounters.nonnegative :=
    ⟨Int.one_nonneg, Int.natCast_nonneg _⟩
  exact { counts with dailyBuffer := counts.dailyBuffer.add positive }

theorem recordLatency (counts : CountsUp world) {position : ℕ}
    (taken : world.step (.recordLatency position) = some next) : CountsUp next := by
  obtain ⟨entry, found, rfl⟩ := Option.map_eq_some_iff.mp taken
  have positive : entry.latencyAmount.2 ∈ AddSubmonoid.nonneg ℤ := Int.one_nonneg
  exact { counts with latencyBuffer := counts.latencyBuffer.add positive }

theorem takeDaily (counts : CountsUp world) {listed : List (DailyKey × DailyCounters)}
    (taken : world.step (.takeDaily listed) = some next) : CountsUp next := by
  by_cases listing : listed.Perm world.recorder.daily.pairs
  · simp only [RollupWorld.step, listing, if_true, Option.some.injEq] at taken
    subst next
    refine { counts with dailyHeld := ?_, dailyBuffer := Dict.within_empty }
    intro item member
    rw [RollupWorld.dailyHeld, List.flatMap_append, List.append_assoc] at member
    rcases List.mem_append.mp member with draining | later
    · exact counts.dailyHeld item (List.mem_append_left _ draining)
    · rcases List.mem_append.mp later with new | batches
      · have inside : item ∈ listed := by simpa using new
        exact counts.dailyBuffer.pairs item (listing.mem_iff.mp inside)
      · exact counts.dailyHeld item (List.mem_append_right _ batches)
  · simp [RollupWorld.step, listing] at taken

theorem takeLatency (counts : CountsUp world) {position : ℕ} {listed : List (LatencyKey × ℤ)}
    (taken : world.step (.takeLatency position listed) = some next) : CountsUp next := by
  by_cases listing : listed.Perm world.recorder.latency.pairs
  · simp only [RollupWorld.step, listing, if_true, Option.map_eq_some_iff] at taken
    obtain ⟨daily, found, rfl⟩ := taken
    refine { counts with
      dailyHeld := ?_, latencyHeld := ?_, latencyBuffer := Dict.within_empty }
    · intro item member
      apply counts.dailyHeld item
      rcases List.mem_append.mp member with draining | batches
      · obtain ⟨other, among, inside⟩ := List.mem_flatMap.mp draining
        exact List.mem_append_left _
          (List.mem_flatMap.mpr ⟨other, List.mem_of_mem_eraseIdx among, inside⟩)
      · rcases held_of_drain Batch.daily batches with new | old
        · exact List.mem_append_left _
            (List.mem_flatMap.mpr ⟨daily, List.mem_of_getElem? found, new⟩)
        · exact List.mem_append_right _ old
    · intro item member
      rcases held_of_drain Batch.latency member with new | old
      · exact counts.latencyBuffer.pairs item (listing.mem_iff.mp new)
      · exact counts.latencyHeld item old
  · simp [RollupWorld.step, listing] at taken

theorem flush (counts : CountsUp world) {position : ℕ} {commits : Bool}
    (taken : world.step (.flush position commits) = some next) : CountsUp next := by
  obtain ⟨batch, found, rfl⟩ := Option.map_eq_some_iff.mp taken
  have among : batch ∈ world.unflushed ++ world.failed :=
    List.mem_append_left _ (List.mem_of_getElem? found)
  cases flushed : world.tables.flushUsage batch commits with
  | some written =>
      have old : ∀ other ∈ world.failed, other ∈ world.failed ∨ other = batch :=
        fun _ failed => Or.inl failed
      rw [UsageTables.flushUsage_eq_some flushed]
      constructor
      · apply counts.dailyTable.addAll
        intro item inside
        exact counts.dailyHeld item
          (List.mem_append_right _ (List.mem_flatMap.mpr ⟨batch, among, inside⟩))
      · intro item member
        apply counts.dailyHeld item
        rcases List.mem_append.mp member with draining | batches
        · exact List.mem_append_left _ draining
        · exact List.mem_append_right _ (held_of_flush Batch.daily found old batches)
      · exact counts.dailyBuffer
      · apply counts.latencyTable.addAll
        intro item inside
        exact counts.latencyHeld item (List.mem_flatMap.mpr ⟨batch, among, inside⟩)
      · intro item member
        exact counts.latencyHeld item (held_of_flush Batch.latency found old member)
      · exact counts.latencyBuffer
  | none =>
      have old : ∀ other ∈ world.failed ++ [batch], other ∈ world.failed ∨ other = batch := by
        intro other member
        simpa using member
      refine { counts with dailyHeld := ?_, latencyHeld := ?_ }
      · intro item member
        apply counts.dailyHeld item
        rcases List.mem_append.mp member with draining | batches
        · exact List.mem_append_left _ draining
        · exact List.mem_append_right _ (held_of_flush Batch.daily found old batches)
      · intro item member
        exact counts.latencyHeld item (held_of_flush Batch.latency found old member)

theorem step {event : RollupEvent} (counts : CountsUp world)
    (taken : world.step event = some next) : CountsUp next := by
  cases event with
  | recordDaily entry => exact counts.recordDaily taken
  | recordLatency position => exact counts.recordLatency taken
  | takeDaily listed => exact counts.takeDaily taken
  | takeLatency position listed => exact counts.takeLatency taken
  | flush position commits => exact counts.flush taken

end CountsUp

/-! ## The accounts -/

/-- What is persisted, held and buffered under a key is what the steps with that
key have counted. -/
structure Accounted (world : RollupWorld) : Prop where
  requests : ∀ key : DailyKey,
    (world.tables.daily.amountAt key).requestCount +
        (Dict.weighAll (Dict.atKey key) world.dailyHeld).requestCount +
        (world.recorder.daily.amountAt key).requestCount =
      world.dailySteps.countP fun entry => entry.dailyKey = key
  micros : ∀ key : DailyKey,
    (world.tables.daily.amountAt key).latencySumUs +
        (Dict.weighAll (Dict.atKey key) world.dailyHeld).latencySumUs +
        (world.recorder.daily.amountAt key).latencySumUs =
      ((world.dailySteps.filter fun entry => entry.dailyKey = key).map
        fun entry => asMicros entry.latency).sum
  buckets : ∀ key : LatencyKey,
    world.tables.latency.amountAt key + Dict.weighAll (Dict.atKey key) world.latencyHeld +
        world.recorder.latency.amountAt key =
      world.latencySteps.countP fun entry => entry.latencyKey = key

/-- The tables never hold more than the steps have counted. -/
structure NeverOvercounts (world : RollupWorld) : Prop where
  requests : ∀ key : DailyKey,
    (world.tables.daily.amountAt key).requestCount ≤
      world.dailySteps.countP fun entry => entry.dailyKey = key
  micros : ∀ key : DailyKey,
    (world.tables.daily.amountAt key).latencySumUs ≤
      ((world.dailySteps.filter fun entry => entry.dailyKey = key).map
        fun entry => asMicros entry.latency).sum
  buckets : ∀ key : LatencyKey,
    world.tables.latency.amountAt key ≤
      world.latencySteps.countP fun entry => entry.latencyKey = key

/-- No call is in progress, every batch is flushed and none has failed. -/
structure Quiet (world : RollupWorld) : Prop where
  recording : world.recording = []
  draining : world.draining = []
  unflushed : world.unflushed = []
  failed : world.failed = []

/-- Nothing is left to flush either. -/
structure Flushed (world : RollupWorld) : Prop extends Quiet world where
  dailyBuffer : world.recorder.daily = ∅
  latencyBuffer : world.recorder.latency = ∅

end RollupWorld

/-- The requests of a tenant on one day in `usage_daily` or its buffer. -/
def dailyTotal (day tenantId : String) (daily : Dict DailyKey DailyCounters) : ℤ :=
  daily.total fun key counters =>
    if key.day = day ∧ key.tenantId = tenantId then counters.requestCount else 0

/-- The requests of a tenant on one day in `usage_latency` or its buffer. -/
def latencyTotal (day tenantId : String) (latency : Dict LatencyKey ℤ) : ℤ :=
  latency.total fun key count => if key.day = day ∧ key.tenantId = tenantId then count else 0

def dailyOf (day tenantId : String) (key : DailyKey) : DailyCounters →+ ℤ :=
  if key.day = day ∧ key.tenantId = tenantId then DailyCounters.requests else 0

def latencyOf (day tenantId : String) (key : LatencyKey) : ℤ →+ ℤ :=
  if key.day = day ∧ key.tenantId = tenantId then AddMonoidHom.id ℤ else 0

theorem weigh_dailyOf (day tenantId : String) (daily : Dict DailyKey DailyCounters) :
    Dict.weigh (dailyOf day tenantId) daily = dailyTotal day tenantId daily := by
  unfold Dict.weigh dailyTotal
  congr
  funext key counters
  unfold dailyOf
  split_ifs <;> rfl

theorem weigh_latencyOf (day tenantId : String) (latency : Dict LatencyKey ℤ) :
    Dict.weigh (latencyOf day tenantId) latency = latencyTotal day tenantId latency := by
  unfold Dict.weigh latencyTotal
  congr
  funext key count
  unfold latencyOf
  split_ifs <;> rfl

/-- The two steps of a record count the same request. -/
theorem dailyOf_amount (day tenantId : String) (entry : UsageRecord) :
    dailyOf day tenantId entry.dailyAmount.1 entry.dailyAmount.2 =
      latencyOf day tenantId entry.latencyAmount.1 entry.latencyAmount.2 := by
  by_cases same : entry.day = day ∧ entry.tenantId = tenantId
  · have daily : dailyOf day tenantId entry.dailyKey = DailyCounters.requests := if_pos same
    have latency : latencyOf day tenantId entry.latencyKey = AddMonoidHom.id ℤ := if_pos same
    rw [UsageRecord.dailyAmount_fst, UsageRecord.latencyAmount_fst, daily, latency]
    rfl
  · have daily : dailyOf day tenantId entry.dailyKey = 0 := if_neg same
    have latency : latencyOf day tenantId entry.latencyKey = 0 := if_neg same
    rw [UsageRecord.dailyAmount_fst, UsageRecord.latencyAmount_fst, daily, latency]
    rfl

theorem weighAll_dailyOf (day tenantId : String) (steps : List UsageRecord) :
    Dict.weighAll (dailyOf day tenantId) (steps.map UsageRecord.dailyAmount) =
      Dict.weighAll (latencyOf day tenantId) (steps.map UsageRecord.latencyAmount) := by
  induction steps with
  | nil => rfl
  | cons entry steps induction =>
      rw [List.map_cons, List.map_cons, Dict.weighAll_cons, Dict.weighAll_cons, induction,
        dailyOf_amount]

theorem requestCount_atKey (key : DailyKey) (steps : List UsageRecord) :
    (Dict.weighAll (Dict.atKey key) (steps.map UsageRecord.dailyAmount)).requestCount =
      steps.countP fun entry => entry.dailyKey = key := by
  induction steps with
  | nil => rfl
  | cons entry steps induction =>
      rw [List.map_cons, Dict.weighAll_cons, DailyCounters.add_requestCount, induction,
        UsageRecord.dailyAmount_fst, List.countP_cons]
      by_cases same : entry.dailyKey = key
      · simp [same, UsageRecord.dailyAmount, add_comm]
      · simp [same, Dict.atKey_of_ne same]

theorem latencySumUs_atKey (key : DailyKey) (steps : List UsageRecord) :
    (Dict.weighAll (Dict.atKey key) (steps.map UsageRecord.dailyAmount)).latencySumUs =
      ((steps.filter fun entry => entry.dailyKey = key).map
        fun entry => asMicros entry.latency).sum := by
  induction steps with
  | nil => rfl
  | cons entry steps induction =>
      rw [List.map_cons, Dict.weighAll_cons, DailyCounters.add_latencySumUs, induction,
        UsageRecord.dailyAmount_fst, List.filter_cons]
      by_cases same : entry.dailyKey = key
      · simp [same, UsageRecord.dailyAmount]
      · simp [same, Dict.atKey_of_ne same]

theorem latency_atKey (key : LatencyKey) (steps : List UsageRecord) :
    Dict.weighAll (Dict.atKey key) (steps.map UsageRecord.latencyAmount) =
      steps.countP fun entry => entry.latencyKey = key := by
  induction steps with
  | nil => rfl
  | cons entry steps induction =>
      rw [List.map_cons, Dict.weighAll_cons, induction, UsageRecord.latencyAmount_fst,
        List.countP_cons]
      by_cases same : entry.latencyKey = key
      · simp [same, UsageRecord.latencyAmount, add_comm]
      · simp [same, Dict.atKey_of_ne same]

namespace RollupWorld

variable {world : RollupWorld}

theorem Conserves.dailyAt (conserves : Conserves world) (key : DailyKey) :
    world.tables.daily.amountAt key + Dict.weighAll (Dict.atKey key) world.dailyHeld +
        world.recorder.daily.amountAt key =
      Dict.weighAll (Dict.atKey key) (world.dailySteps.map UsageRecord.dailyAmount) := by
  rw [← conserves.daily, Dict.weigh_atKey, Dict.weigh_atKey]

theorem Conserves.latencyAt (conserves : Conserves world) (key : LatencyKey) :
    world.tables.latency.amountAt key + Dict.weighAll (Dict.atKey key) world.latencyHeld +
        world.recorder.latency.amountAt key =
      Dict.weighAll (Dict.atKey key) (world.latencySteps.map UsageRecord.latencyAmount) := by
  rw [← conserves.latency, Dict.weigh_atKey, Dict.weigh_atKey]

theorem Conserves.accounted (conserves : Conserves world) : Accounted world where
  requests key := by
    rw [← requestCount_atKey, ← conserves.dailyAt key]
    rfl
  micros key := by
    rw [← latencySumUs_atKey, ← conserves.dailyAt key]
    rfl
  buckets key := by
    rw [← latency_atKey, ← conserves.latencyAt key]

theorem Accounted.neverOvercounts (accounted : Accounted world) (counts : CountsUp world) :
    NeverOvercounts world where
  requests key := by
    have held := (Dict.weighAll_atKey_mem counts.dailyHeld key).1
    have buffered := (counts.dailyBuffer.amountAt_mem key).1
    have total := accounted.requests key
    omega
  micros key := by
    have held := (Dict.weighAll_atKey_mem counts.dailyHeld key).2
    have buffered := (counts.dailyBuffer.amountAt_mem key).2
    have total := accounted.micros key
    omega
  buckets key := by
    have held : 0 ≤ Dict.weighAll (Dict.atKey key) world.latencyHeld :=
      Dict.weighAll_atKey_mem counts.latencyHeld key
    have buffered : 0 ≤ world.recorder.latency.amountAt key :=
      counts.latencyBuffer.amountAt_mem key
    have total := accounted.buckets key
    omega

/-- Every record that has begun has taken both its steps. -/
theorem Conserves.balanced (conserves : Conserves world) (quiet : Quiet world)
    (day tenantId : String) :
    dailyTotal day tenantId world.tables.daily + dailyTotal day tenantId world.recorder.daily =
      latencyTotal day tenantId world.tables.latency +
        latencyTotal day tenantId world.recorder.latency := by
  have daily := conserves.daily (dailyOf day tenantId)
  have latency := conserves.latency (latencyOf day tenantId)
  have steps := conserves.steps
  rw [quiet.recording, List.append_nil] at steps
  rw [weigh_dailyOf, weigh_dailyOf, dailyHeld, quiet.draining, quiet.unflushed, quiet.failed]
    at daily
  rw [weigh_latencyOf, weigh_latencyOf, latencyHeld, quiet.unflushed, quiet.failed] at latency
  simp only [List.append_nil, List.flatMap_nil, Dict.weighAll_nil, add_zero] at daily latency
  rw [daily, latency, Dict.weighAll_perm _ (steps.map UsageRecord.dailyAmount),
    weighAll_dailyOf]

end RollupWorld

open RollupWorld in
theorem usage_rollup_conserves {events : List RollupEvent} {world : RollupWorld}
    (run : Run RollupWorld.step (fun _ _ => True) blank events world) :
    Accounted world ∧ NeverOvercounts world ∧
      (Quiet world → ∀ day tenantId,
        dailyTotal day tenantId world.tables.daily +
            dailyTotal day tenantId world.recorder.daily =
          latencyTotal day tenantId world.tables.latency +
            latencyTotal day tenantId world.recorder.latency) ∧
      (Flushed world → ∀ day tenantId,
        dailyTotal day tenantId world.tables.daily =
          latencyTotal day tenantId world.tables.latency) := by
  have conserves : Conserves world :=
    run.invariant (fun _ _ _ conserves _ taken => conserves.step taken) Conserves.blank
  have counts : CountsUp world :=
    run.invariant (fun _ _ _ counts _ taken => counts.step taken) CountsUp.blank
  have accounted := conserves.accounted
  refine ⟨accounted, accounted.neverOvercounts counts, conserves.balanced, ?_⟩
  intro flushed day tenantId
  have balanced := conserves.balanced flushed.toQuiet day tenantId
  rw [flushed.dailyBuffer, flushed.latencyBuffer] at balanced
  simpa [dailyTotal, latencyTotal] using balanced

/-! ## A record cut in half -/

def cutRecord : UsageRecord :=
  { now := 1760000000
    tenantId := "t-1"
    language := "en_US"
    status := 200
    errorSlug := ""
    latency := 1500000 }

/-- A drain between the two steps of a record, and its flush. -/
def cutByDrain : List RollupEvent :=
  [ .recordDaily cutRecord
  , .takeDaily [cutRecord.dailyAmount]
  , .takeLatency 0 []
  , .flush 0 true
  , .recordLatency 0 ]

/-- The flush of the other half. -/
def laterDrain : List RollupEvent :=
  [ .takeDaily []
  , .takeLatency 0 [cutRecord.latencyAmount]
  , .flush 0 true ]

namespace RollupWorld

def isQuiet (world : RollupWorld) : Bool :=
  world.recording.isEmpty && world.draining.isEmpty && world.unflushed.isEmpty &&
    world.failed.isEmpty

theorem quiet_of_isQuiet {world : RollupWorld} (checked : world.isQuiet = true) :
    Quiet world := by
  simp only [isQuiet, Bool.and_eq_true, List.isEmpty_iff] at checked
  obtain ⟨⟨⟨recording, draining⟩, unflushed⟩, failed⟩ := checked
  exact ⟨recording, draining, unflushed, failed⟩

def isFlushed (world : RollupWorld) : Bool :=
  world.isQuiet && world.recorder.daily.entries.isEmpty && world.recorder.latency.entries.isEmpty

theorem flushed_of_isFlushed {world : RollupWorld} (checked : world.isFlushed = true) :
    Flushed world := by
  simp only [isFlushed, Bool.and_eq_true, List.isEmpty_iff] at checked
  obtain ⟨⟨quiet, daily⟩, latency⟩ := checked
  exact
    { quiet_of_isQuiet quiet with
      dailyBuffer := AList.ext daily
      latencyBuffer := AList.ext latency }

/-- A run from the blank world that was carried out and whose last state passed a check. -/
theorem exists_run (events : List RollupEvent) (check : RollupWorld → Bool)
    (computed : (runEvents step (fun _ _ => true) blank events).any check = true) :
    ∃ world, Run step (fun _ _ => True) blank events world ∧ check world = true := by
  obtain ⟨world, run, checked⟩ := Run.exists_of_runEvents computed
  exact ⟨world, run.weaken fun _ _ _ => trivial, checked⟩

/-- What the two tables hold of the record's tenant on its day. -/
def tableTotals (world : RollupWorld) : ℤ × ℤ :=
  (dailyTotal cutRecord.day cutRecord.tenantId world.tables.daily,
    latencyTotal cutRecord.day cutRecord.tenantId world.tables.latency)

end RollupWorld

open RollupWorld in
theorem cut_record_half_flushed :
    ¬∀ (events : List RollupEvent) (world : RollupWorld),
      Run RollupWorld.step (fun _ _ => True) blank events world → Quiet world →
      ∀ day tenantId,
        dailyTotal day tenantId world.tables.daily =
          latencyTotal day tenantId world.tables.latency := by
  intro claim
  obtain ⟨world, run, checked⟩ := exists_run cutByDrain
    (fun world => world.isQuiet && decide (world.tableTotals = (1, 0))) (by decide +kernel)
  obtain ⟨quiet, totals⟩ := Bool.and_eq_true_iff.mp checked
  have agree := claim _ world run (quiet_of_isQuiet quiet)
    cutRecord.day cutRecord.tenantId
  obtain ⟨daily, latency⟩ := Prod.mk.inj (of_decide_eq_true totals)
  rw [daily, latency] at agree
  cases agree

open RollupWorld in
theorem usage_rollup_conserves_for_cut_record :
    ∃ events world, Run RollupWorld.step (fun _ _ => True) blank events world ∧
      Accounted world ∧ NeverOvercounts world ∧
      dailyTotal cutRecord.day cutRecord.tenantId world.tables.daily = 1 ∧
      latencyTotal cutRecord.day cutRecord.tenantId world.tables.latency = 1 := by
  obtain ⟨world, run, checked⟩ := exists_run (cutByDrain ++ laterDrain)
    (fun world => world.isFlushed && decide (world.tableTotals.1 = 1)) (by decide +kernel)
  obtain ⟨flushed, total⟩ := Bool.and_eq_true_iff.mp checked
  obtain ⟨accounted, bounded, _, agree⟩ := usage_rollup_conserves run
  refine ⟨_, world, run, accounted, bounded, of_decide_eq_true total, ?_⟩
  rw [← agree (flushed_of_isFlushed flushed)]
  exact of_decide_eq_true total

end SpellServer
