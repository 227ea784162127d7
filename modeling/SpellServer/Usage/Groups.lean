import SpellServer.Usage.Aggregation

/-!
# The groups of an aggregation

Each aggregation returns one entry for every group key of its rows, computed
from the rows of that key.  What a hash map adds is an order that the sorting
may or may not take away again.
-/

namespace SpellServer

open Library

def requestTotal (rows : List UsageDailyRow) : ℤ := (rows.map fun row => row.requestCount).sum

def latencySum (rows : List UsageDailyRow) : ℤ := (rows.map fun row => row.latencySumUs).sum

/-- The rows of a status from 400 on. -/
def failedRows (rows : List UsageDailyRow) : List UsageDailyRow :=
  rows.filter fun row => 400 ≤ row.status

/-! ## Days -/

theorem foldl_feed (totals : DayTotals) (rows : List UsageDailyRow) :
    rows.foldl DayTotals.feed totals =
      { requests := totals.requests + requestTotal rows
        latencySumUs := totals.latencySumUs + latencySum rows
        errors := totals.errors + requestTotal (failedRows rows) } := by
  induction rows generalizing totals with
  | nil => simp [requestTotal, latencySum, failedRows]
  | cons row rows induction =>
      rw [List.foldl_cons, induction]
      by_cases failed : 400 ≤ row.status
      · simp [DayTotals.feed, requestTotal, latencySum, failedRows, failed, add_assoc]
      · simp [DayTotals.feed, requestTotal, latencySum, failedRows, failed, add_assoc]

/-- The row of `aggregate_daily` for the rows of a day. -/
def dailyGroup (day : String) (own : List UsageDailyRow) : DailyUsageRow :=
  { date := day
    requests := asU64 (requestTotal own)
    averageLatencyMs :=
      if 0 < requestTotal own then
        asU64 (((latencySum own).tdiv (requestTotal own)).tdiv 1000)
      else 0
    errors := asU64 (requestTotal (failedRows own)) }

def daysOf (rows : List UsageDailyRow) : List String := (rows.map fun row => row.day).dedup

/-- The rows of a day. -/
def onDay (rows : List UsageDailyRow) (day : String) : List UsageDailyRow :=
  rows.filter fun row => row.day = day

theorem aggregateDaily_perm (hash : Arrangement) (rows : List UsageDailyRow) :
    (aggregateDaily hash rows).Perm
      ((daysOf rows).map fun day => dailyGroup day (onDay rows day)) := by
  unfold aggregateDaily
  refine (List.mergeSort_perm _ _).trans ?_
  refine (((hash.iterate_perm _).trans (Dict.pairs_accumulate_perm rows)).map _).trans
    (List.Perm.of_eq ?_)
  rw [List.map_map]
  apply List.map_congr_left
  intro day _
  simp only [Function.comp_apply, foldl_feed, zero_add]
  rfl

/-! ## Counts by key -/

theorem foldl_requestCount (count : ℤ) (rows : List UsageDailyRow) :
    rows.foldl (fun count row => count + row.requestCount) count = count + requestTotal rows := by
  induction rows generalizing count with
  | nil => simp [requestTotal]
  | cons row rows induction =>
      rw [List.foldl_cons, induction]
      simp [requestTotal, add_assoc]

def errorKey (dated : Bool) (row : UsageDailyRow) : Option String × ℤ × String :=
  (datedDay dated row.day, row.status, row.errorSlug)

def languageKey (dated : Bool) (row : UsageDailyRow) : Option String × String :=
  (datedDay dated row.day, row.language)

/-- The requests of the rows of a key. -/
def requestsOf {κ : Type} [DecidableEq κ] (key : UsageDailyRow → κ) (rows : List UsageDailyRow)
    (one : κ) : ℤ :=
  requestTotal (rows.filter fun row => key row = one)

theorem iterate_counts_perm {κ : Type} [DecidableEq κ] (hash : Arrangement)
    (key : UsageDailyRow → κ) (rows : List UsageDailyRow) :
    (hash.iterate (Dict.accumulate key 0 (fun count row => count + row.requestCount) ∅ rows)).Perm
      ((rows.map key).dedup.map fun one => (one, requestsOf key rows one)) := by
  refine (hash.iterate_perm _).trans ((Dict.pairs_accumulate_perm rows).trans (List.Perm.of_eq ?_))
  apply List.map_congr_left
  intro one _
  rw [foldl_requestCount, zero_add]
  rfl

/-! ## Errors -/

/-- The entry of `aggregate_errors` for a group and its count. -/
def errorEntry (group : (Option String × ℤ × String) × ℤ) : ErrorTrend :=
  { date := group.1.1
    status := asU16 group.1.2.1
    errorCode := group.1.2.2
    count := asU64 group.2 }

/-- The groups in the order of their keys' first appearance. -/
def errorGroups (rows : List UsageDailyRow) (dated : Bool) : List ErrorTrend :=
  ((failedRows rows).map (errorKey dated)).dedup.map fun key =>
    errorEntry (key, requestsOf (errorKey dated) (failedRows rows) key)

theorem aggregateErrors_perm (hash : Arrangement) (rows : List UsageDailyRow) (dated : Bool) :
    (aggregateErrors hash rows dated).Perm (errorGroups rows dated) := by
  unfold aggregateErrors
  refine (List.mergeSort_perm _ _).trans ?_
  refine ((iterate_counts_perm hash (errorKey dated) (failedRows rows)).map errorEntry).trans ?_
  rw [List.map_map]
  exact List.Perm.refl _

/-! ## Languages -/

/-- The number operations of `aggregate_languages`. -/
structure ShareArithmetic (K : Type) where
  ofInt : ℤ → K
  mul : K → K → K
  div : K → K → K
  round : K → K
  zero : K
  ten : K
  thousand : K

structure LanguageShare (K : Type) where
  date : Option String
  language : String
  count : ℕ
  percentage : K

section

variable {K : Type} (arithmetic : ShareArithmetic K)

def ShareArithmetic.percentage (count total : ℤ) : K :=
  if 0 < total then
    arithmetic.div
      (arithmetic.round
        (arithmetic.mul (arithmetic.div (arithmetic.ofInt count) (arithmetic.ofInt total))
          arithmetic.thousand))
      arithmetic.ten
  else arithmetic.zero

def languageOrder (one two : LanguageShare K) : Bool :=
  ((compare one.date two.date).then
    ((compare two.count one.count).then (compare one.language two.language))).isLE

def aggregateLanguagesIn (hash : Arrangement) (rows : List UsageDailyRow) (dated : Bool) :
    List (LanguageShare K) :=
  let grouped : Dict (Option String × String) ℤ :=
    Dict.accumulate (fun row : UsageDailyRow => (datedDay dated row.day, row.language)) 0
      (fun count row => count + row.requestCount) ∅ rows
  let totals : Dict (Option String) ℤ :=
    Dict.accumulate (fun row : UsageDailyRow => datedDay dated row.day) 0
      (fun count row => count + row.requestCount) ∅ rows
  let out := (hash.iterate grouped).map fun ((date, language), count) =>
    let total := (totals.lookup date).getD 0
    ({ date
       language
       count := asU64 count
       percentage := arithmetic.percentage count total } : LanguageShare K)
  out.mergeSort languageOrder

end

/-- `f64`. -/
def f64Share : ShareArithmetic Float :=
  { ofInt := asF64
    mul := (· * ·)
    div := (· / ·)
    round := Float.round
    zero := 0.0
    ten := 10.0
    thousand := 1000.0 }

def LanguageShare.distribution (share : LanguageShare Float) : LanguageDistribution :=
  { date := share.date
    language := share.language
    count := share.count
    percentage := share.percentage }

theorem aggregateLanguages_eq (hash : Arrangement) (rows : List UsageDailyRow) (dated : Bool) :
    aggregateLanguages hash rows dated =
      (aggregateLanguagesIn f64Share hash rows dated).map LanguageShare.distribution := by
  have sorted : ∀ shares : List (LanguageShare Float),
      (shares.mergeSort languageOrder).map LanguageShare.distribution =
        (shares.map LanguageShare.distribution).mergeSort fun one two =>
          ((compare one.date two.date).then
            ((compare two.count one.count).then (compare one.language two.language))).isLE := by
    intro shares
    exact List.map_mergeSort fun _ _ _ _ => rfl
  unfold aggregateLanguages aggregateLanguagesIn
  dsimp only
  rw [sorted, List.map_map]
  rfl

/-- What an entry says beside its share. -/
def LanguageShare.counted {K : Type} (share : LanguageShare K) : Option String × String × ℕ :=
  (share.date, share.language, share.count)

/-- Neither the entries nor their order depend on the arithmetic of the shares. -/
theorem aggregateLanguagesIn_counted {K L : Type} (arithmetic : ShareArithmetic K)
    (other : ShareArithmetic L) (hash : Arrangement) (rows : List UsageDailyRow) (dated : Bool) :
    (aggregateLanguagesIn arithmetic hash rows dated).map LanguageShare.counted =
      (aggregateLanguagesIn other hash rows dated).map LanguageShare.counted := by
  have sorted : ∀ {M : Type} (shares : List (LanguageShare M)),
      (shares.mergeSort languageOrder).map LanguageShare.counted =
        (shares.map LanguageShare.counted).mergeSort fun one two =>
          ((compare one.1 two.1).then
            ((compare two.2.2 one.2.2).then (compare one.2.1 two.2.1))).isLE := by
    intro M shares
    exact List.map_mergeSort fun _ _ _ _ => rfl
  unfold aggregateLanguagesIn
  dsimp only
  rw [sorted, sorted, List.map_map, List.map_map]
  rfl

/-- The requests of a date, or of all rows. -/
def dateTotal (rows : List UsageDailyRow) (dated : Bool) (date : Option String) : ℤ :=
  requestsOf (fun row => datedDay dated row.day) rows date

/-- The entry of `aggregate_languages` for a group. -/
def languageEntry {K : Type} (arithmetic : ShareArithmetic K) (rows : List UsageDailyRow)
    (dated : Bool) (key : Option String × String) : LanguageShare K :=
  { date := key.1
    language := key.2
    count := asU64 (requestsOf (languageKey dated) rows key)
    percentage := arithmetic.percentage (requestsOf (languageKey dated) rows key)
      (dateTotal rows dated key.1) }

def languageKeys (rows : List UsageDailyRow) (dated : Bool) : List (Option String × String) :=
  (rows.map (languageKey dated)).dedup

theorem aggregateLanguagesIn_perm {K : Type} (arithmetic : ShareArithmetic K) (hash : Arrangement)
    (rows : List UsageDailyRow) (dated : Bool) :
    (aggregateLanguagesIn arithmetic hash rows dated).Perm
      ((languageKeys rows dated).map (languageEntry arithmetic rows dated)) := by
  have total : ∀ date, ((Dict.accumulate (fun row : UsageDailyRow => datedDay dated row.day) 0
      (fun count row => count + row.requestCount) ∅ rows).lookup date).getD 0 =
        dateTotal rows dated date := by
    intro date
    rw [Dict.getD_lookup_accumulate, foldl_requestCount]
    simp [dateTotal, requestsOf]
  unfold aggregateLanguagesIn
  refine (List.mergeSort_perm _ _).trans ?_
  refine ((iterate_counts_perm hash (languageKey dated) rows).map _).trans (List.Perm.of_eq ?_)
  rw [List.map_map]
  apply List.map_congr_left
  intro key _
  simp only [Function.comp_apply, total]
  rfl

end SpellServer
