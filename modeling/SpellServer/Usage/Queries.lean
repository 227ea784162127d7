import SpellServer.Http.Gates
import SpellServer.Usage.Aggregation
import SpellServer.Usage.Window

/-!
# The usage endpoints

The two queries over the rollup tables, and the handlers of `/usage/*`.  The
rows of a query come out in the order `sql`, those of a hash map in the order
`hash`.  A sum arrives as the driver hands it back; statuses and buckets are small.
-/

namespace SpellServer

open Library

variable [Driver]

def DailyKey.group (key : DailyKey) : DailyGroup :=
  { day := key.day
    language := key.language
    status := key.status
    errorSlug := key.errorSlug }

def LatencyKey.group (key : LatencyKey) : LatencyGroup :=
  { day := key.day
    bucketLeMs := key.bucketLeMs }

/-- `day >= ? AND day <= ?`. -/
def inWindow (start finish day : String) : Bool := start ≤ day && day ≤ finish

/-- `AND tenant_id = ?`, where there is one to compare with. -/
def inScope (tenantId : Option String) (own : String) : Bool := tenantId.all fun id => own = id

def dailyGroups (tables : UsageTables) (tenantId : Option String) (start finish : String) :
    Dict DailyGroup DailyCounters :=
  tables.daily.groupSum
    (fun key => inWindow start finish key.day && inScope tenantId key.tenantId) DailyKey.group

def latencyGroups (tables : UsageTables) (tenantId : Option String) (start finish : String) :
    Dict LatencyGroup ℤ :=
  tables.latency.groupSum
    (fun key => inWindow start finish key.day && inScope tenantId key.tenantId) LatencyKey.group

/-- A sum, cast to `BIGINT`, as the driver hands it back. -/
def readSum (sum : ℤ) : ℤ := (Driver.readInteger (Int64.ofInt sum)).toInt

def DailyCounters.read (counters : DailyCounters) : DailyCounters :=
  { requestCount := readSum counters.requestCount
    latencySumUs := readSum counters.latencySumUs }

def queryUsageDaily (sql : Arrangement) (tables : UsageTables) (tenantId : Option String)
    (start finish : String) : List UsageDailyRow :=
  (sql.iterate (dailyGroups tables tenantId start finish)).map fun row =>
    { toDailyGroup := row.1, toDailyCounters := row.2.read }

def queryUsageLatency (sql : Arrangement) (tables : UsageTables) (tenantId : Option String)
    (start finish : String) : List UsageLatencyRow :=
  (sql.iterate (latencyGroups tables tenantId start finish)).map fun row =>
    { toLatencyGroup := row.1, requestCount := readSum row.2 }

/-- A sum that the driver hands back as it is. -/
def SumHeld (sum : ℤ) : Prop := -(Driver.limit : ℤ) ≤ sum ∧ sum < Driver.limit

instance (sum : ℤ) : Decidable (SumHeld sum) := inferInstanceAs (Decidable (_ ∧ _))

theorem readSum_of_held {sum : ℤ} (held : SumHeld sum) : readSum sum = sum := by
  obtain ⟨low, high⟩ := held
  have most := Driver.most
  have whole : (Int64.ofInt sum).toInt = sum :=
    Int64.toInt_ofInt_of_le (by omega) (by omega)
  rw [readSum, Driver.reads, whole]
  · rw [whole]
    exact low
  · rw [whole]
    exact high

theorem sumHeld_natCast {count : ℕ} (small : count < Driver.limit) : SumHeld (count : ℤ) := by
  constructor <;> omega

@[simp] theorem readSum_zero : readSum 0 = 0 :=
  readSum_of_held (sumHeld_natCast Driver.limit_pos)

/-- What the `/usage/*` handlers read. -/
structure UsageState where
  store : Store
  tables : UsageTables

/-- What a call takes from outside: the orders of its rows and maps, the clock in
seconds, and the error of the database if the query fails. -/
structure UsageInputs where
  sql : Arrangement
  hash : Arrangement
  now : ℕ
  failure : Option String

def usageWindow (state : UsageState) (now : ℕ) (scope : UsageScope) (query : UsageQuery) :
    Except AppError Window :=
  let period :=
    match scope with
    | .platform => none
    | .tenant id =>
        (state.store.getTenant id).bind fun info =>
          info.periodStart.bind fun start => info.periodEnd.map fun finish => (start, finish)
  resolveWindow now query period

def scopeTenant : UsageScope → Option String
  | .platform => none
  | .tenant id => some id

/-- `.map_err(|e| AppError::Internal(e.to_string()))`. -/
def fetched {α : Type} (failure : Option String) (rows : List α) : Except AppError (List α) :=
  match failure with
  | some reason => .error (.internal reason)
  | none => .ok rows

def usageDaily (inputs : UsageInputs) (state : UsageState) (scope : UsageScope)
    (query : UsageQuery) : Except AppError (List DailyUsageRow) := do
  let window ← usageWindow state inputs.now scope query
  let rows ← fetched inputs.failure
    (queryUsageDaily inputs.sql state.tables (scopeTenant scope) window.start window.finish)
  return aggregateDaily inputs.hash rows

def usageLatency (inputs : UsageInputs) (state : UsageState) (scope : UsageScope)
    (query : UsageQuery) : Except AppError (List LatencyTrend) := do
  let window ← usageWindow state inputs.now scope query
  let rows ← fetched inputs.failure
    (queryUsageLatency inputs.sql state.tables (scopeTenant scope) window.start window.finish)
  return aggregateLatency inputs.hash rows window.dated

def usageErrors (inputs : UsageInputs) (state : UsageState) (scope : UsageScope)
    (query : UsageQuery) : Except AppError (List ErrorTrend) := do
  let window ← usageWindow state inputs.now scope query
  let rows ← fetched inputs.failure
    (queryUsageDaily inputs.sql state.tables (scopeTenant scope) window.start window.finish)
  return aggregateErrors inputs.hash rows window.dated

def usageLanguages (inputs : UsageInputs) (state : UsageState) (scope : UsageScope)
    (query : UsageQuery) : Except AppError (List LanguageDistribution) := do
  let window ← usageWindow state inputs.now scope query
  let rows ← fetched inputs.failure
    (queryUsageDaily inputs.sql state.tables (scopeTenant scope) window.start window.finish)
  return aggregateLanguages inputs.hash rows window.dated

/-! ## What a query depends on -/

section

variable {sql : Arrangement} {tables first second : UsageTables} {tenantId : Option String}
  {start finish : String}

/-- Tables that agree on the rows of a window give the same answer. -/
theorem queryUsageDaily_congr_window
    (same : ∀ key : DailyKey, inWindow start finish key.day = true →
      inScope tenantId key.tenantId = true → first.daily.lookup key = second.daily.lookup key) :
    queryUsageDaily sql first tenantId start finish =
      queryUsageDaily sql second tenantId start finish := by
  apply congrArg (List.map _)
  apply sql.arrange_congr
  apply Dict.pairs_groupSum_perm
  intro key kept
  obtain ⟨inside, own⟩ := Bool.and_eq_true_iff.mp kept
  exact same key inside own

theorem queryUsageLatency_congr_window
    (same : ∀ key : LatencyKey, inWindow start finish key.day = true →
      inScope tenantId key.tenantId = true → first.latency.lookup key = second.latency.lookup key) :
    queryUsageLatency sql first tenantId start finish =
      queryUsageLatency sql second tenantId start finish := by
  apply congrArg (List.map _)
  apply sql.arrange_congr
  apply Dict.pairs_groupSum_perm
  intro key kept
  obtain ⟨inside, own⟩ := Bool.and_eq_true_iff.mp kept
  exact same key inside own

/-- Tables that agree on the rows in scope give the same answer. -/
theorem queryUsageDaily_congr
    (same : ∀ key : DailyKey, inScope tenantId key.tenantId = true →
      first.daily.lookup key = second.daily.lookup key) :
    queryUsageDaily sql first tenantId start finish =
      queryUsageDaily sql second tenantId start finish :=
  queryUsageDaily_congr_window fun key _ own => same key own

theorem queryUsageLatency_congr
    (same : ∀ key : LatencyKey, inScope tenantId key.tenantId = true →
      first.latency.lookup key = second.latency.lookup key) :
    queryUsageLatency sql first tenantId start finish =
      queryUsageLatency sql second tenantId start finish :=
  queryUsageLatency_congr_window fun key _ own => same key own

end

end SpellServer
