import SpellServer.Usage.Agreement
import SpellServer.Usage.Filing
import SpellServer.Usage.OutputOrder

/-!
# Reports about requests

What the usage endpoints report, said about the requests themselves: how many a
day had, how many failed, how long they took on average, and which languages
they were in.  After clean deploys the endpoints answer with these reports.
-/

namespace SpellServer

open Library

/-! ## The reports -/

namespace UsageRecord

def micros (request : UsageRecord) : ℕ := request.latency / 1000

def failed (request : UsageRecord) : Bool := 400 ≤ request.status

def group (request : UsageRecord) : DailyGroup := request.dailyKey.group

/-- What tells the errors of a report apart. -/
def errorKey (dated : Bool) (request : UsageRecord) : Option String × ℕ × String :=
  (datedDay dated request.day, request.status, request.errorSlug)

def languageKey (dated : Bool) (request : UsageRecord) : Option String × String :=
  (datedDay dated request.day, request.language)

end UsageRecord

def dayReport (requests : List UsageRecord) (day : String) : DailyUsageRow :=
  let own := requests.filter fun request => request.day = day
  { date := day
    requests := own.length
    averageLatencyMs := (own.map UsageRecord.micros).sum / own.length / 1000
    errors := (own.filter UsageRecord.failed).length }

/-- One row for every day with a request, in their order. -/
def dailyReport (requests : List UsageRecord) : List DailyUsageRow :=
  ((requests.map UsageRecord.day).dedup.map (dayReport requests)).mergeSort
    fun one two => (compare one.date two.date).isLE

def errorReport (requests : List UsageRecord) (dated : Bool) : List ErrorTrend :=
  let failed := requests.filter UsageRecord.failed
  (failed.map (UsageRecord.errorKey dated)).dedup.map fun key =>
    { date := key.1
      status := key.2.1
      errorCode := key.2.2
      count := failed.countP fun request => request.errorKey dated = key }

def languageReport (requests : List UsageRecord) (dated : Bool) : List LanguageDistribution :=
  (requests.map (UsageRecord.languageKey dated)).dedup.map fun key =>
    let count := requests.countP fun request => request.languageKey dated = key
    let total := requests.countP fun request => datedDay dated request.day = key.1
    { date := key.1
      language := key.2
      count
      percentage := f64Share.percentage count total }

/-- Statuses and sums that their machine types hold; what is summed in the database for
one group comes back through the driver. -/
structure FitMachine [Driver] (requests : List UsageRecord) : Prop where
  status : ∀ request ∈ requests, request.status < 2 ^ 16
  count : requests.length < 2 ^ 63
  micros : (requests.map UsageRecord.micros).sum < 2 ^ 63
  groupCount : ∀ group,
    (requests.filter fun request => request.group = group).length < Driver.limit
  groupMicros : ∀ group,
    ((requests.filter fun request => request.group = group).map UsageRecord.micros).sum <
      Driver.limit

theorem sum_micros_le {requests own : List UsageRecord} (among : own.Sublist requests) :
    (own.map UsageRecord.micros).sum ≤ (requests.map UsageRecord.micros).sum :=
  List.Sublist.sum_le_sum (among.map _) fun _ _ => Nat.zero_le _

theorem FitMachine.filter [Driver] {requests : List UsageRecord} (fits : FitMachine requests)
    (wanted : UsageRecord → Bool) : FitMachine (requests.filter wanted) where
  status request member := fits.status request (List.mem_of_mem_filter member)
  count := lt_of_le_of_lt (List.length_filter_le wanted requests) fits.count
  micros := lt_of_le_of_lt (sum_micros_le List.filter_sublist) fits.micros
  groupCount group :=
    lt_of_le_of_lt (List.filter_sublist.filter _).length_le (fits.groupCount group)
  groupMicros group :=
    lt_of_le_of_lt (sum_micros_le (List.filter_sublist.filter _)) (fits.groupMicros group)

/-! ## Rows of filed requests -/

/-- The row that these requests make up in a group. -/
def filedRow (requests : List UsageRecord) (group : DailyGroup) : UsageDailyRow :=
  let own := requests.filter fun request => request.group = group
  { toDailyGroup := group
    requestCount := own.length
    latencySumUs := (own.map UsageRecord.micros).sum }

def filedRows (requests : List UsageRecord) : List UsageDailyRow :=
  (requests.map UsageRecord.group).dedup.map (filedRow requests)

/-- The requests that a query asks for. -/
def askedFor (tenantId : Option String) (start finish : String) (requests : List UsageRecord) :
    List UsageRecord :=
  requests.filter fun request => inWindow start finish request.day && inScope tenantId request.tenantId

theorem foldl_amounts (counters : DailyCounters) (own : List UsageRecord) :
    (own.map fun request => (request.group, request.dailyAmount.2)).foldl
        (fun held item => held + item.2) counters =
      counters +
        { requestCount := own.length, latencySumUs := (own.map UsageRecord.micros).sum } := by
  induction own generalizing counters with
  | nil => exact DailyCounters.ext (add_zero _).symm (add_zero _).symm
  | cons request own induction =>
      rw [List.map_cons, List.foldl_cons, induction]
      apply DailyCounters.ext
      · simp [UsageRecord.dailyAmount]
        ring
      · simp [UsageRecord.dailyAmount, asMicros, UsageRecord.micros]
        ring

theorem read_counters [Driver] {own : List UsageRecord} (count : own.length < Driver.limit)
    (micros : (own.map UsageRecord.micros).sum < Driver.limit) :
    ({ requestCount := own.length, latencySumUs := (own.map UsageRecord.micros).sum } :
        DailyCounters).read =
      { requestCount := own.length, latencySumUs := (own.map UsageRecord.micros).sum } :=
  DailyCounters.ext (readSum_of_held (sumHeld_natCast count))
    (readSum_of_held (sumHeld_natCast micros))

theorem queryUsageDaily_filing [Driver] (sql : Arrangement) (requests : List UsageRecord)
    (tenantId : Option String) (start finish : String)
    (fits : FitMachine (askedFor tenantId start finish requests)) :
    (queryUsageDaily sql (.filing requests) tenantId start finish).Perm
      (filedRows (askedFor tenantId start finish requests)) := by
  let keep : DailyKey → Bool := fun key =>
    inWindow start finish key.day && inScope tenantId key.tenantId
  have grouped : (dailyGroups (.filing requests) tenantId start finish).pairs.Perm
      (Dict.addAll ∅ ((((requests.map UsageRecord.dailyAmount).filter fun item =>
        keep item.1)).map fun item => (item.1.group, item.2))).pairs :=
    Dict.pairs_groupSum_addAll _
  have items : (((requests.map UsageRecord.dailyAmount).filter fun item =>
      keep item.1)).map (fun item => (item.1.group, item.2)) =
        (askedFor tenantId start finish requests).map fun request =>
          (request.group, request.dailyAmount.2) := by
    rw [List.filter_map, List.map_map]
    rfl
  rw [items] at grouped
  refine (((sql.iterate_perm _).trans grouped).trans (Dict.pairs_accumulate_perm _)).map _ |>.trans
    (List.Perm.of_eq ?_)
  rw [List.map_map, List.map_map]
  apply List.map_congr_left
  intro group _
  simp only [Function.comp_apply, List.filter_map]
  rw [foldl_amounts, zero_add]
  exact congrArg (fun counters => ({ toDailyGroup := group, toDailyCounters := counters } : UsageDailyRow))
    (read_counters (fits.groupCount group) (fits.groupMicros group))

/-- The groups' rows measure the requests whose group is wanted. -/
theorem sum_filedRows {requests : List UsageRecord} {amount : UsageRecord → ℤ}
    {measure : UsageDailyRow → ℤ}
    (measures : ∀ group, measure (filedRow requests group) =
      ((requests.filter fun request => request.group = group).map amount).sum)
    (wanted : DailyGroup → Bool) :
    (((filedRows requests).filter fun row => wanted row.toDailyGroup).map measure).sum =
      ((requests.filter fun request => wanted request.group).map amount).sum := by
  rw [← Dict.sum_groups amount wanted requests, filedRows, List.filter_map, List.map_map]
  congr 1
  apply List.map_congr_left
  intro group _
  exact measures group

theorem requestTotal_filedRows (requests : List UsageRecord) (wanted : DailyGroup → Bool) :
    requestTotal ((filedRows requests).filter fun row => wanted row.toDailyGroup) =
      (requests.countP fun request => wanted request.group : ℕ) := by
  have measures : ∀ group, (filedRow requests group).requestCount =
      ((requests.filter fun request => request.group = group).map fun _ => (1 : ℤ)).sum := by
    intro group
    simp [filedRow]
  rw [requestTotal, sum_filedRows measures, List.countP_eq_length_filter]
  simp

theorem latencySum_filedRows (requests : List UsageRecord) (wanted : DailyGroup → Bool) :
    latencySum ((filedRows requests).filter fun row => wanted row.toDailyGroup) =
      (((requests.filter fun request => wanted request.group).map UsageRecord.micros).sum : ℕ) := by
  have measures : ∀ group, (filedRow requests group).latencySumUs =
      ((requests.filter fun request => request.group = group).map
        fun request => (request.micros : ℤ)).sum := by
    intro group
    simp [filedRow, Nat.cast_list_sum, Function.comp_def]
  rw [latencySum, sum_filedRows measures, Nat.cast_list_sum, List.map_map]
  rfl

/-- The keys of the wanted rows are those of the wanted requests. -/
theorem keys_filedRows {κ : Type} [DecidableEq κ] (requests : List UsageRecord)
    (wanted : DailyGroup → Bool) (key : DailyGroup → κ) :
    (((filedRows requests).filter fun row => wanted row.toDailyGroup).map
        fun row => key row.toDailyGroup).dedup.Perm
      ((requests.filter fun request => wanted request.group).map
        fun request => key request.group).dedup := by
  apply (List.perm_ext_iff_of_nodup (List.nodup_dedup _) (List.nodup_dedup _)).mpr
  intro one
  simp only [List.mem_dedup, List.mem_map, List.mem_filter, filedRows]
  constructor
  · rintro ⟨_, ⟨⟨_, ⟨request, member, rfl⟩, rfl⟩, asked⟩, rfl⟩
    exact ⟨request, ⟨member, asked⟩, rfl⟩
  · rintro ⟨request, ⟨member, asked⟩, rfl⟩
    exact ⟨filedRow requests request.group, ⟨⟨request.group, ⟨request, member, rfl⟩, rfl⟩, asked⟩,
      rfl⟩

/-! ## The aggregations of filed requests -/

section

variable {requests : List UsageRecord}

theorem asU64_natCast {value : ℕ} (fits : value < 2 ^ 63) : asU64 value = value := by
  unfold asU64
  omega

theorem asU16_natCast {value : ℕ} (fits : value < 2 ^ 16) : asU16 value = value := by
  unfold asU16
  omega

theorem FitMachine.countP [Driver] (fits : FitMachine requests) (wanted : UsageRecord → Bool) :
    requests.countP wanted < 2 ^ 63 :=
  lt_of_le_of_lt List.countP_le_length fits.count

/-- A day's row. -/
theorem dailyGroup_filedRows [Driver] (fits : FitMachine requests) (day : String) :
    dailyGroup day (onDay (filedRows requests) day) = dayReport requests day := by
  have total : requestTotal (onDay (filedRows requests) day) =
      ((requests.filter fun request => request.day = day).length : ℕ) := by
    rw [← List.countP_eq_length_filter]
    exact requestTotal_filedRows requests fun group => group.day = day
  have micros : latencySum (onDay (filedRows requests) day) =
      (((requests.filter fun request => request.day = day).map UsageRecord.micros).sum : ℕ) :=
    latencySum_filedRows requests fun group => group.day = day
  have errors : requestTotal (failedRows (onDay (filedRows requests) day)) =
      (((requests.filter fun request => request.day = day).filter UsageRecord.failed).length : ℕ) := by
    have counted := requestTotal_filedRows requests fun group =>
      decide (400 ≤ group.status) && decide (group.day = day)
    rw [List.countP_eq_length_filter] at counted
    unfold failedRows onDay
    rw [List.filter_filter, List.filter_filter]
    refine counted.trans ?_
    congr 3
    funext request
    congr 1
    exact decide_eq_decide.mpr Nat.ofNat_le_cast
  have own := fits.filter fun request => request.day = day
  have average : asU64 ((((((requests.filter fun request => request.day = day).map
      UsageRecord.micros).sum : ℕ) : ℤ).tdiv
        ((requests.filter fun request => request.day = day).length : ℕ)).tdiv 1000) =
      ((requests.filter fun request => request.day = day).map UsageRecord.micros).sum /
        (requests.filter fun request => request.day = day).length / 1000 := by
    have smaller : ((requests.filter fun request => request.day = day).map UsageRecord.micros).sum /
        (requests.filter fun request => request.day = day).length / 1000 < 2 ^ 63 :=
      lt_of_le_of_lt ((Nat.div_le_self _ _).trans (Nat.div_le_self _ _)) own.micros
    exact asU64_natCast smaller
  unfold dailyGroup
  rw [total, micros, errors, asU64_natCast own.count,
    asU64_natCast (own.filter UsageRecord.failed).count, average, dayReport]
  split
  · rfl
  · rename_i none
    have nothing : (requests.filter fun request => request.day = day).length = 0 := by omega
    rw [nothing, Nat.div_zero, Nat.zero_div]

theorem aggregateDaily_filedRows [Driver] (fits : FitMachine requests) (hash : Arrangement) :
    aggregateDaily hash (filedRows requests) = dailyReport requests := by
  have rows := aggregateDaily_perm hash (filedRows requests)
  simp only [dailyGroup_filedRows fits] at rows
  have days : (daysOf (filedRows requests)).Perm (requests.map UsageRecord.day).dedup := by
    have keys := keys_filedRows requests (fun _ => true) DailyGroup.day
    simp only [List.filter_true] at keys
    exact keys
  refine eq_of_sorted_map (compareOn DailyUsageRow.date) days rows (List.mergeSort_perm _ _)
    (pairwise_sort _ _) (pairwise_sort _ _) ?_
  intro day _ next _ tied
  have same : day = next := Std.compare_eq_iff_eq.mp tied
  rw [same]

theorem aggregateErrors_filedRows [Driver] (fits : FitMachine requests) (hash : Arrangement)
    (dated : Bool) :
    (aggregateErrors hash (filedRows requests) dated).Perm (errorReport requests dated) := by
  let widen : Option String × ℕ × String → Option String × ℤ × String :=
    fun key => (key.1, key.2.1, key.2.2)
  have injective : Function.Injective widen := by
    rintro ⟨date, status, slug⟩ ⟨otherDate, otherStatus, otherSlug⟩ same
    simpa [widen] using same
  have failed : failedRows (filedRows requests) =
      (filedRows requests).filter fun row => decide (400 ≤ row.toDailyGroup.status) := rfl
  have asked : (requests.filter fun request => decide (400 ≤ request.group.status)) =
      requests.filter UsageRecord.failed := by
    congr 1
    funext request
    exact decide_eq_decide.mpr Nat.ofNat_le_cast
  have keys := keys_filedRows requests (fun group => decide (400 ≤ group.status))
    fun group => (datedDay dated group.day, group.status, group.errorSlug)
  have widened : (((requests.filter UsageRecord.failed).map
      fun request => (datedDay dated request.group.day, request.group.status,
        request.group.errorSlug)).dedup) =
      (((requests.filter UsageRecord.failed).map (UsageRecord.errorKey dated)).dedup).map widen := by
    rw [← List.dedup_map_of_injective injective, List.map_map]
    rfl
  rw [asked, widened] at keys
  refine (aggregateErrors_perm hash _ dated).trans ?_
  refine (keys.map _).trans (List.Perm.of_eq ?_)
  rw [errorReport, List.map_map]
  apply List.map_congr_left
  intro key member
  obtain ⟨request, inside, rfl⟩ := List.mem_map.mp (List.mem_dedup.mp member)
  have status := fits.status request (List.mem_of_mem_filter inside)
  have count : requestsOf (SpellServer.errorKey dated) (failedRows (filedRows requests))
      (widen (request.errorKey dated)) =
        ((requests.filter UsageRecord.failed).countP fun other =>
          other.errorKey dated = request.errorKey dated : ℕ) := by
    have counted := requestTotal_filedRows requests fun group =>
      decide ((datedDay dated group.day, group.status, group.errorSlug) =
        widen (request.errorKey dated)) && decide (400 ≤ group.status)
    unfold requestsOf
    rw [failed, List.filter_filter]
    refine counted.trans ?_
    rw [← asked, List.countP_filter]
    congr 2
    funext other
    congr 1
    apply decide_eq_decide.mpr
    have apart : widen (other.errorKey dated) = widen (request.errorKey dated) ↔
        other.errorKey dated = request.errorKey dated := injective.eq_iff
    exact apart
  have fitting := (fits.filter UsageRecord.failed).countP fun other =>
    other.errorKey dated = request.errorKey dated
  simp only [Function.comp_apply, errorEntry, count, asU64_natCast fitting]
  refine congrArg (fun status => ErrorTrend.mk _ status _ _) ?_
  exact asU16_natCast status

theorem aggregateLanguages_filedRows [Driver] (fits : FitMachine requests) (hash : Arrangement)
    (dated : Bool) :
    (aggregateLanguages hash (filedRows requests) dated).Perm (languageReport requests dated) := by
  have keys : (languageKeys (filedRows requests) dated).Perm
      (requests.map (UsageRecord.languageKey dated)).dedup := by
    have own := keys_filedRows requests (fun _ => true)
      fun group => (datedDay dated group.day, group.language)
    simp only [List.filter_true] at own
    exact own
  rw [aggregateLanguages_eq]
  refine ((aggregateLanguagesIn_perm f64Share hash _ dated).map _).trans ?_
  rw [List.map_map]
  refine (keys.map _).trans (List.Perm.of_eq ?_)
  apply List.map_congr_left
  intro key _
  have count : requestsOf (SpellServer.languageKey dated) (filedRows requests) key =
      (requests.countP fun request => request.languageKey dated = key : ℕ) :=
    requestTotal_filedRows requests fun group =>
      decide ((datedDay dated group.day, group.language) = key)
  have total : dateTotal (filedRows requests) dated key.1 =
      (requests.countP fun request => datedDay dated request.day = key.1 : ℕ) :=
    requestTotal_filedRows requests fun group => decide (datedDay dated group.day = key.1)
  simp only [Function.comp_apply, languageEntry, LanguageShare.distribution, count, total,
    asU64_natCast (fits.countP _)]

end

/-! ## What the endpoints report -/

/-- The endpoints answer with the reports about these requests; errors and languages that
tie come in any order. -/
structure Reports [Driver] (inputs : UsageInputs) (state : UsageState) (scope : UsageScope)
    (query : UsageQuery) (requests : List UsageRecord) (dated : Bool) : Prop where
  daily : usageDaily inputs state scope query = .ok (dailyReport requests)
  errors : ∃ trends, usageErrors inputs state scope query = .ok trends ∧
    trends.Perm (errorReport requests dated)
  languages : ∃ shares, usageLanguages inputs state scope query = .ok shares ∧
    shares.Perm (languageReport requests dated)

/-- The groups of the errors do not depend on the order of the rows. -/
theorem aggregateErrors_rows_perm {rows listed : List UsageDailyRow} (same : rows.Perm listed)
    (hash : Arrangement) (dated : Bool) :
    (aggregateErrors hash rows dated).Perm (aggregateErrors hash listed dated) := by
  have failed : (failedRows rows).Perm (failedRows listed) := same.filter _
  have groups : (errorGroups rows dated).Perm (errorGroups listed dated) := by
    unfold errorGroups
    rw [requestsOf_perm (errorKey dated) failed]
    exact ((failed.map _).dedup).map _
  exact (aggregateErrors_perm hash rows dated).trans
    (groups.trans (aggregateErrors_perm hash listed dated).symm)

section

variable {requests : List UsageRecord} {inputs : UsageInputs} {store : Store} {scope : UsageScope}
  {query : UsageQuery} {window : Window}

theorem reports_filing [Driver] (fits : FitMachine requests) (succeeds : inputs.failure = none)
    (resolved : usageWindow { store, tables := .filing requests } inputs.now scope query =
      .ok window) :
    Reports inputs { store, tables := .filing requests } scope query
      (askedFor (scopeTenant scope) window.start window.finish requests) window.dated := by
  have asked : FitMachine (askedFor (scopeTenant scope) window.start window.finish requests) :=
    fits.filter _
  have rows := queryUsageDaily_filing inputs.sql requests (scopeTenant scope) window.start
    window.finish asked
  have fetches : ∀ {α : Type} (listed : List α), fetched inputs.failure listed = .ok listed := by
    intro α listed
    rw [succeeds]
    rfl
  constructor
  · unfold usageDaily
    rw [resolved]
    simp only [bind, Except.bind, fetches]
    rw [aggregateDaily_congr rows inputs.hash inputs.hash, aggregateDaily_filedRows asked]
    rfl
  · refine ⟨aggregateErrors inputs.hash (queryUsageDaily inputs.sql (.filing requests)
      (scopeTenant scope) window.start window.finish) window.dated, ?_, ?_⟩
    · unfold usageErrors
      rw [resolved]
      simp only [bind, Except.bind, fetches]
      rfl
    · exact (aggregateErrors_rows_perm rows inputs.hash _).trans
        (aggregateErrors_filedRows asked inputs.hash _)
  · refine ⟨aggregateLanguages inputs.hash (queryUsageDaily inputs.sql (.filing requests)
      (scopeTenant scope) window.start window.finish) window.dated, ?_, ?_⟩
    · unfold usageLanguages
      rw [resolved]
      simp only [bind, Except.bind, fetches]
      rfl
    · rw [aggregateLanguages_congr rows inputs.hash inputs.hash]
      exact aggregateLanguages_filedRows asked inputs.hash _

end

open UsageService in
/-- After clean deploys, a tenant or the platform reads the reports about its requests. -/
theorem clean_deploys_report_requests [Driver] {events : List ServiceEvent} {world : UsageService}
    (run : Run UsageService.step (fun world event => world.clean event = true) blank events world)
    (down : world.process = none) (fits : FitMachine (recorded events)) {inputs : UsageInputs}
    (clock : ∀ now, .purge now true ∈ events → now ≤ inputs.now)
    (within : epochDay inputs.now ≤ lastRollupDay) (succeeds : inputs.failure = none)
    {store : Store} {scope : UsageScope} {query : UsageQuery}
    (retained : ReadsRetained store inputs.now scope query) {window : Window}
    (resolved : usageWindow { store, tables := world.tables } inputs.now scope query =
      .ok window) :
    Reports inputs { store, tables := world.tables } scope query
      (askedFor (scopeTenant scope) window.start window.finish (recorded events))
      window.dated := by
  have early : ∀ now, .purge now true ∈ events →
      retentionCutoffDay now ≤ retentionCutoffDay inputs.now := by
    intro now member
    exact retentionCutoffDay_le (clock now member) within
  have answers := (agreeFrom_filing run down early).usageAnswers within retained
  have filed : Reports inputs { store, tables := .filing (recorded events) } scope query
      (askedFor (scopeTenant scope) window.start window.finish (recorded events))
      window.dated := by
    apply reports_filing fits succeeds
    rw [usageWindow_eq] at resolved ⊢
    exact resolved
  have daily := congrArg UsageAnswers.daily answers
  have errors := congrArg UsageAnswers.errors answers
  have languages := congrArg UsageAnswers.languages answers
  constructor
  · exact daily.trans filed.daily
  · obtain ⟨trends, found, perm⟩ := filed.errors
    exact ⟨trends, errors.trans found, perm⟩
  · obtain ⟨shares, found, perm⟩ := filed.languages
    exact ⟨shares, languages.trans found, perm⟩

open scoped DefaultBackend

open UsageService in
theorem clean_deploys_report_two_requests :
    ∃ world, Run UsageService.step (fun world event => world.clean event = true) blank cleanDeploy
        world ∧
      ∀ store,
        usageDaily { sampleUsageInputs with now := cutRecord.now }
            { store, tables := world.tables } .platform { start := none, finish := none } =
          .ok [{ date := cutRecord.day, requests := 2, averageLatencyMs := 1, errors := 0 }] := by
  obtain ⟨world, run, down⟩ := exists_run clean cleanDeploy (fun world => world.process.isNone)
    (by decide +kernel)
  refine ⟨world, run, ?_⟩
  intro store
  have fits : FitMachine (recorded cleanDeploy) :=
    { status := by decide +kernel
      count := by decide +kernel
      micros := by decide +kernel
      groupCount := fun _ => lt_of_le_of_lt (List.length_filter_le _ _) (by decide +kernel)
      groupMicros := fun _ =>
        lt_of_le_of_lt (sum_micros_le List.filter_sublist) (by decide +kernel) }
  have clock : ∀ now, ServiceEvent.purge now true ∈ cleanDeploy → now ≤ cutRecord.now := by
    intro now member
    have same : now = cutRecord.now := by simpa [cleanDeploy] using member
    exact le_of_eq same
  have retained : ReadsRetained store cutRecord.now .platform { start := none, finish := none } := by
    intro start finish period
    cases period
  have reports : Reports { sampleUsageInputs with now := cutRecord.now }
      { store, tables := world.tables } .platform { start := none, finish := none } _ _ :=
    clean_deploys_report_requests run (Option.isNone_iff_eq_none.mp down) fits clock
      (by decide +kernel) rfl retained rfl
  refine reports.daily.trans (congrArg Except.ok ?_)
  decide +kernel

end SpellServer
