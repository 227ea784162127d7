import SpellServer.Usage.Queries

/-!
# Isolation of tenants in the usage endpoints

What a tenant is told depends on its own record and rows alone, and what the
platform is told of a group is what its tenants are told of it, added up.
-/

namespace SpellServer

open Library

/-! ## One tenant's view -/

/-- The complete results of the four endpoints. -/
structure UsageAnswers where
  daily : Except AppError (List DailyUsageRow)
  latency : Except AppError (List LatencyTrend)
  errors : Except AppError (List ErrorTrend)
  languages : Except AppError (List LanguageDistribution)

def usageAnswers [Driver] (inputs : UsageInputs) (state : UsageState) (scope : UsageScope)
    (query : UsageQuery) : UsageAnswers :=
  { daily := usageDaily inputs state scope query
    latency := usageLatency inputs state scope query
    errors := usageErrors inputs state scope query
    languages := usageLanguages inputs state scope query }

/-- The states have the same record and rows of a tenant, and anything of the others. -/
structure AgreeFor (tenantId : String) (first second : UsageState) : Prop where
  record : first.store.getTenant tenantId = second.store.getTenant tenantId
  daily : ∀ key : DailyKey, key.tenantId = tenantId →
    first.tables.daily.lookup key = second.tables.daily.lookup key
  latency : ∀ key : LatencyKey, key.tenantId = tenantId →
    first.tables.latency.lookup key = second.tables.latency.lookup key

namespace AgreeFor

variable {tenantId : String} {first second : UsageState}

theorem usageWindow (agree : AgreeFor tenantId first second) (now : ℕ) (query : UsageQuery) :
    SpellServer.usageWindow first now (.tenant tenantId) query =
      SpellServer.usageWindow second now (.tenant tenantId) query := by
  unfold SpellServer.usageWindow
  simp only [agree.record]

theorem queryUsageDaily [Driver] (agree : AgreeFor tenantId first second) (sql : Arrangement)
    (start finish : String) :
    SpellServer.queryUsageDaily sql first.tables (some tenantId) start finish =
      SpellServer.queryUsageDaily sql second.tables (some tenantId) start finish := by
  apply queryUsageDaily_congr
  intro key own
  exact agree.daily key (of_decide_eq_true own)

theorem queryUsageLatency [Driver] (agree : AgreeFor tenantId first second) (sql : Arrangement)
    (start finish : String) :
    SpellServer.queryUsageLatency sql first.tables (some tenantId) start finish =
      SpellServer.queryUsageLatency sql second.tables (some tenantId) start finish := by
  apply queryUsageLatency_congr
  intro key own
  exact agree.latency key (of_decide_eq_true own)

theorem usageAnswers [Driver] (agree : AgreeFor tenantId first second) (inputs : UsageInputs)
    (query : UsageQuery) :
    SpellServer.usageAnswers inputs first (.tenant tenantId) query =
      SpellServer.usageAnswers inputs second (.tenant tenantId) query := by
  unfold SpellServer.usageAnswers usageDaily usageLatency usageErrors usageLanguages scopeTenant
  simp only [agree.usageWindow, agree.queryUsageDaily, agree.queryUsageLatency]

end AgreeFor

/-! ## The platform's view -/

/-- The requests that the rows of a group count. -/
def requestsIn (group : DailyGroup) (rows : List UsageDailyRow) : ℤ :=
  ((rows.filter fun row => row.toDailyGroup = group).map fun row => row.requestCount).sum

def requestsInBucket (group : LatencyGroup) (rows : List UsageLatencyRow) : ℤ :=
  ((rows.filter fun row => row.toLatencyGroup = group).map fun row => row.requestCount).sum

/-- The tenants that have a row. -/
def UsageTables.tenantIds (tables : UsageTables) : Finset String :=
  (tables.daily.keys.map DailyKey.tenantId ++
    tables.latency.keys.map LatencyKey.tenantId).toFinset

/-- The driver hands back what the statements count in a group, in every scope. -/
def DailyHeld [Driver] (tables : UsageTables) (start finish : String) (group : DailyGroup) : Prop :=
  ∀ tenantId, SumHeld ((dailyGroups tables tenantId start finish).amountAt group).requestCount

def LatencyHeld [Driver] (tables : UsageTables) (start finish : String) (group : LatencyGroup) :
    Prop :=
  ∀ tenantId, SumHeld ((latencyGroups tables tenantId start finish).amountAt group)

/-- Of every group the platform is told what the tenants are told of it together: the
statements add up, and so do the rows that the driver hands back whole.  A tenant
without rows is told nothing. -/
structure PlatformAddsUp [Driver] (sql : Arrangement) (tables : UsageTables)
    (start finish : String) : Prop where
  dailySums : ∀ group, (dailyGroups tables none start finish).amountAt group =
    ∑ tenantId ∈ tables.tenantIds, (dailyGroups tables (some tenantId) start finish).amountAt group
  latencySums : ∀ group, (latencyGroups tables none start finish).amountAt group =
    ∑ tenantId ∈ tables.tenantIds,
      (latencyGroups tables (some tenantId) start finish).amountAt group
  daily : ∀ group, DailyHeld tables start finish group →
    requestsIn group (queryUsageDaily sql tables none start finish) =
      ∑ tenantId ∈ tables.tenantIds,
        requestsIn group (queryUsageDaily sql tables (some tenantId) start finish)
  latency : ∀ group, LatencyHeld tables start finish group →
    requestsInBucket group (queryUsageLatency sql tables none start finish) =
      ∑ tenantId ∈ tables.tenantIds,
        requestsInBucket group (queryUsageLatency sql tables (some tenantId) start finish)
  others : ∀ tenantId, tenantId ∉ tables.tenantIds →
    queryUsageDaily sql tables (some tenantId) start finish = [] ∧
      queryUsageLatency sql tables (some tenantId) start finish = []

section

variable {sql : Arrangement} {tables : UsageTables} {tenantId : Option String}
  {start finish : String}

theorem requestsIn_queryUsageDaily [Driver] (group : DailyGroup) :
    requestsIn group (queryUsageDaily sql tables tenantId start finish) =
      readSum ((dailyGroups tables tenantId start finish).amountAt group).requestCount := by
  unfold requestsIn queryUsageDaily
  rw [List.filter_map, List.map_map]
  exact Dict.sum_filter_iterate sql (fun counters : DailyCounters => readSum counters.requestCount)
    readSum_zero _ group

theorem requestsInBucket_queryUsageLatency [Driver] (group : LatencyGroup) :
    requestsInBucket group (queryUsageLatency sql tables tenantId start finish) =
      readSum ((latencyGroups tables tenantId start finish).amountAt group) := by
  unfold requestsInBucket queryUsageLatency
  rw [List.filter_map, List.map_map]
  exact Dict.sum_filter_iterate sql readSum readSum_zero _ group

theorem tenantId_mem_of_daily {key : DailyKey} {counters : DailyCounters}
    (found : tables.daily.lookup key = some counters) : key.tenantId ∈ tables.tenantIds := by
  have stored : key ∈ tables.daily.keys := AList.lookup_isSome.mp (by rw [found]; rfl)
  exact List.mem_toFinset.mpr (List.mem_append_left _ (List.mem_map_of_mem stored))

theorem tenantId_mem_of_latency {key : LatencyKey} {count : ℤ}
    (found : tables.latency.lookup key = some count) : key.tenantId ∈ tables.tenantIds := by
  have stored : key ∈ tables.latency.keys := AList.lookup_isSome.mp (by rw [found]; rfl)
  exact List.mem_toFinset.mpr (List.mem_append_right _ (List.mem_map_of_mem stored))

theorem pairs_dailyGroups_of_absent {id : String} (absent : id ∉ tables.tenantIds) :
    (dailyGroups tables (some id) start finish).pairs = [] := by
  apply Dict.pairs_groupSum_eq_nil
  intro key counters found
  have differs : key.tenantId ≠ id := fun same => absent (same ▸ tenantId_mem_of_daily found)
  simp [inScope, differs]

theorem pairs_latencyGroups_of_absent {id : String} (absent : id ∉ tables.tenantIds) :
    (latencyGroups tables (some id) start finish).pairs = [] := by
  apply Dict.pairs_groupSum_eq_nil
  intro key count found
  have differs : key.tenantId ≠ id := fun same => absent (same ▸ tenantId_mem_of_latency found)
  simp [inScope, differs]

theorem sum_dailyGroups (tables : UsageTables) (start finish : String) (group : DailyGroup) :
    ∑ tenantId ∈ tables.tenantIds, (dailyGroups tables (some tenantId) start finish).amountAt group =
      (dailyGroups tables none start finish).amountAt group := by
  have everywhere : dailyGroups tables none start finish =
      tables.daily.groupSum (fun key => inWindow start finish key.day) DailyKey.group := by
    unfold dailyGroups
    congr
    funext key
    exact Bool.and_true _
  rw [everywhere]
  exact Dict.sum_amountAt_groupSum (fun _ _ found => tenantId_mem_of_daily found) group

theorem sum_latencyGroups (tables : UsageTables) (start finish : String) (group : LatencyGroup) :
    ∑ tenantId ∈ tables.tenantIds,
        (latencyGroups tables (some tenantId) start finish).amountAt group =
      (latencyGroups tables none start finish).amountAt group := by
  have everywhere : latencyGroups tables none start finish =
      tables.latency.groupSum (fun key => inWindow start finish key.day) LatencyKey.group := by
    unfold latencyGroups
    congr
    funext key
    exact Bool.and_true _
  rw [everywhere]
  exact Dict.sum_amountAt_groupSum (fun _ _ found => tenantId_mem_of_latency found) group

end

theorem platformAddsUp [Driver] (sql : Arrangement) (tables : UsageTables)
    (start finish : String) : PlatformAddsUp sql tables start finish where
  dailySums group := (sum_dailyGroups tables start finish group).symm
  latencySums group := (sum_latencyGroups tables start finish group).symm
  daily group held := by
    calc
      requestsIn group (queryUsageDaily sql tables none start finish) =
          DailyCounters.requests ((dailyGroups tables none start finish).amountAt group) := by
        rw [requestsIn_queryUsageDaily]
        exact readSum_of_held (held none)
      _ = ∑ tenantId ∈ tables.tenantIds,
          DailyCounters.requests
            ((dailyGroups tables (some tenantId) start finish).amountAt group) := by
        rw [← sum_dailyGroups, map_sum]
      _ = _ := by
        apply Finset.sum_congr rfl
        intro tenantId _
        rw [requestsIn_queryUsageDaily]
        exact (readSum_of_held (held (some tenantId))).symm
  latency group held := by
    rw [requestsInBucket_queryUsageLatency, readSum_of_held (held none), ← sum_latencyGroups]
    apply Finset.sum_congr rfl
    intro tenantId _
    rw [requestsInBucket_queryUsageLatency]
    exact (readSum_of_held (held (some tenantId))).symm
  others tenantId absent := by
    constructor
    · have listed := sql.iterate_perm (dailyGroups tables (some tenantId) start finish)
      rw [pairs_dailyGroups_of_absent absent] at listed
      rw [queryUsageDaily, listed.eq_nil, List.map_nil]
    · have listed := sql.iterate_perm (latencyGroups tables (some tenantId) start finish)
      rw [pairs_latencyGroups_of_absent absent] at listed
      rw [queryUsageLatency, listed.eq_nil, List.map_nil]

theorem usage_scopes_isolated [Driver] :
    (∀ (inputs : UsageInputs) (tenantId : String) (query : UsageQuery) (first second : UsageState),
      AgreeFor tenantId first second →
      usageAnswers inputs first (.tenant tenantId) query =
        usageAnswers inputs second (.tenant tenantId) query) ∧
    ∀ (sql : Arrangement) (tables : UsageTables) (start finish : String),
      PlatformAddsUp sql tables start finish :=
  ⟨fun inputs _ query _ _ agree => agree.usageAnswers inputs query, platformAddsUp⟩

/-! ## Two tenants -/

open scoped DefaultBackend

def sampleDay : String := formatDay 20000

def sampleGroup : DailyGroup :=
  { day := sampleDay, language := "en_US", status := 200, errorSlug := "" }

def sampleDailyKey (tenantId : String) : DailyKey :=
  { day := sampleDay, tenantId, language := "en_US", status := 200, errorSlug := "" }

def sampleLatencyKey (tenantId : String) : LatencyKey :=
  { day := sampleDay, tenantId, bucketLeMs := 5 }

/-- Tenant `t-a` has three requests, tenant `t-b` as many as given. -/
def sampleUsage (ofOther : ℤ) : UsageState :=
  { store := .reload .empty
    tables :=
      { daily :=
          ((∅ : Dict DailyKey DailyCounters).insert (sampleDailyKey "t-a")
            { requestCount := 3, latencySumUs := 9000 }).insert (sampleDailyKey "t-b")
              { requestCount := ofOther, latencySumUs := 5000 }
        latency :=
          ((∅ : Dict LatencyKey ℤ).insert (sampleLatencyKey "t-a") 3).insert (sampleLatencyKey "t-b")
            ofOther } }

theorem sampleUsage_agree (one other : ℤ) :
    AgreeFor "t-a" (sampleUsage one) (sampleUsage other) where
  record := rfl
  daily key own := by
    have differs : key ≠ sampleDailyKey "t-b" := by
      intro same
      rw [same] at own
      exact absurd own (by decide)
    exact (AList.lookup_insert_ne differs).trans (AList.lookup_insert_ne differs).symm
  latency key own := by
    have differs : key ≠ sampleLatencyKey "t-b" := by
      intro same
      rw [same] at own
      exact absurd own (by decide)
    exact (AList.lookup_insert_ne differs).trans (AList.lookup_insert_ne differs).symm

noncomputable def sampleOrder : Arrangement :=
  { arrange := Multiset.toList
    arrange_coe := Multiset.coe_toList }

noncomputable def sampleUsageInputs : UsageInputs :=
  { sql := sampleOrder, hash := sampleOrder, now := 20000 * 86400, failure := none }

def sampleBucket : LatencyGroup := { day := sampleDay, bucketLeMs := 5 }

theorem mem_tenantIds_sampleUsage {id : String} :
    id ∈ (sampleUsage 50).tables.tenantIds ↔ id = "t-a" ∨ id = "t-b" := by
  have ids : (sampleUsage 50).tables.tenantIds = {"t-a", "t-b"} := by decide +kernel
  simp [ids]

theorem sampleGroup_held : DailyHeld (sampleUsage 50).tables sampleDay sampleDay sampleGroup := by
  intro tenantId
  cases tenantId with
  | none => decide +kernel
  | some id =>
      by_cases known : id ∈ (sampleUsage 50).tables.tenantIds
      · rcases mem_tenantIds_sampleUsage.mp known with rfl | rfl <;> decide +kernel
      · rw [Dict.amountAt_of_pairs_nil (pairs_dailyGroups_of_absent known)]
        decide

theorem sampleBucket_held :
    LatencyHeld (sampleUsage 50).tables sampleDay sampleDay sampleBucket := by
  intro tenantId
  cases tenantId with
  | none => decide +kernel
  | some id =>
      by_cases known : id ∈ (sampleUsage 50).tables.tenantIds
      · rcases mem_tenantIds_sampleUsage.mp known with rfl | rfl <;> decide +kernel
      · rw [Dict.amountAt_of_pairs_nil (pairs_latencyGroups_of_absent known)]
        decide

theorem usage_scopes_isolated_for_two_tenants :
    usageAnswers sampleUsageInputs (sampleUsage 1) (.tenant "t-a")
        { start := none, finish := none } =
      usageAnswers sampleUsageInputs (sampleUsage 50) (.tenant "t-a")
        { start := none, finish := none } ∧
    requestsIn sampleGroup
        (queryUsageDaily sampleOrder (sampleUsage 50).tables none sampleDay sampleDay) =
      ∑ tenantId ∈ (sampleUsage 50).tables.tenantIds,
        requestsIn sampleGroup
          (queryUsageDaily sampleOrder (sampleUsage 50).tables (some tenantId) sampleDay
            sampleDay) ∧
    requestsInBucket sampleBucket
        (queryUsageLatency sampleOrder (sampleUsage 50).tables none sampleDay sampleDay) =
      ∑ tenantId ∈ (sampleUsage 50).tables.tenantIds,
        requestsInBucket sampleBucket
          (queryUsageLatency sampleOrder (sampleUsage 50).tables (some tenantId) sampleDay
            sampleDay) := by
  have addsUp := usage_scopes_isolated.2 sampleOrder (sampleUsage 50).tables sampleDay sampleDay
  exact ⟨usage_scopes_isolated.1 _ _ _ _ _ (sampleUsage_agree 1 50),
    addsUp.daily sampleGroup sampleGroup_held, addsUp.latency sampleBucket sampleBucket_held⟩

end SpellServer
