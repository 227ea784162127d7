import SpellServer.Library.Sorting
import SpellServer.Usage.Groups

/-!
# The order of the output

Rows come in any order, and so do the entries of a hash map.  Days and languages
are sorted by keys that tell all their entries apart.  Errors are not: the
status of a group is part of its key, but not of the comparison.
-/

namespace SpellServer

open Library

/-! ## Comparison by count -/

section

variable {ε : Type} {date : ε → Option String} {count : ε → ℕ} {name : ε → String}

/-- By date, then by falling count, then by name. -/
def byCount (date : ε → Option String) (count : ε → ℕ) (name : ε → String) : ε → ε → Ordering :=
  compareLex (compareOn date) (compareLex (fun one two => compareOn count two one) (compareOn name))

instance : Std.TransCmp (byCount date count name) := by
  have falling : Std.TransCmp fun one two => compareOn count two one := Std.TransCmp.opposite
  unfold byCount
  infer_instance

theorem byCount_eq_iff {one two : ε} :
    byCount date count name one two = .eq ↔
      date one = date two ∧ count one = count two ∧ name one = name two := by
  unfold byCount
  rw [compareLex_eq_eq, compareLex_eq_eq]
  simp only [compareOn, Std.compare_eq_iff_eq]
  constructor
  · intro same
    exact ⟨same.1, same.2.1.symm, same.2.2⟩
  · intro same
    exact ⟨same.1, same.2.1.symm, same.2.2⟩

end

/-! ## Rows in another order -/

section

variable {rows listed : List UsageDailyRow}

theorem requestTotal_perm (same : rows.Perm listed) : requestTotal rows = requestTotal listed :=
  (same.map _).sum_eq

theorem latencySum_perm (same : rows.Perm listed) : latencySum rows = latencySum listed :=
  (same.map _).sum_eq

theorem requestsOf_perm {κ : Type} [DecidableEq κ] (key : UsageDailyRow → κ)
    (same : rows.Perm listed) : requestsOf key rows = requestsOf key listed := by
  funext one
  exact requestTotal_perm (same.filter _)

theorem dailyGroup_perm (day : String) (same : rows.Perm listed) :
    dailyGroup day rows = dailyGroup day listed := by
  have failed : requestTotal (failedRows rows) = requestTotal (failedRows listed) :=
    requestTotal_perm (same.filter _)
  unfold dailyGroup
  rw [requestTotal_perm same, latencySum_perm same, failed]

theorem languageEntry_perm {K : Type} (arithmetic : ShareArithmetic K) (same : rows.Perm listed)
    (dated : Bool) :
    languageEntry arithmetic rows dated = languageEntry arithmetic listed dated := by
  funext key
  unfold languageEntry dateTotal
  rw [requestsOf_perm (languageKey dated) same,
    requestsOf_perm (fun row => datedDay dated row.day) same]

/-! ## Entries told apart -/

theorem aggregateDaily_congr (same : rows.Perm listed) (hash other : Arrangement) :
    aggregateDaily hash rows = aggregateDaily other listed := by
  have entries : (fun day => dailyGroup day (onDay listed day)) =
      fun day => dailyGroup day (onDay rows day) := by
    funext day
    exact dailyGroup_perm day (same.symm.filter _)
  have listedPerm := aggregateDaily_perm other listed
  rw [entries] at listedPerm
  refine eq_of_sorted_map (compareOn DailyUsageRow.date) (same.map _).dedup
    (aggregateDaily_perm hash rows) listedPerm (pairwise_sort _ _) (pairwise_sort _ _) ?_
  intro day _ next _ tied
  have days : day = next := Std.compare_eq_iff_eq.mp tied
  rw [days]

theorem aggregateLanguages_congr (same : rows.Perm listed) (hash other : Arrangement)
    (dated : Bool) :
    aggregateLanguages hash rows dated = aggregateLanguages other listed dated := by
  have listedPerm := aggregateLanguagesIn_perm f64Share other listed dated
  rw [languageEntry_perm f64Share same.symm dated] at listedPerm
  rw [aggregateLanguages_eq, aggregateLanguages_eq]
  congr 1
  refine eq_of_sorted_map
    (byCount LanguageShare.date LanguageShare.count LanguageShare.language) (same.map _).dedup
    (aggregateLanguagesIn_perm f64Share hash rows dated) listedPerm (pairwise_sort _ _)
    (pairwise_sort _ _) ?_
  intro key _ next _ tied
  have parts := byCount_eq_iff.mp tied
  have keys : key = next := Prod.ext parts.1 parts.2.2
  rw [keys]

/-- The failures of a date with one code and equally many requests have one status. -/
def ErrorsToldApart (rows : List UsageDailyRow) (dated : Bool) : Prop :=
  ∀ row ∈ failedRows rows, ∀ other ∈ failedRows rows,
    datedDay dated row.day = datedDay dated other.day → row.errorSlug = other.errorSlug →
    asU64 (requestsOf (errorKey dated) (failedRows rows) (errorKey dated row)) =
      asU64 (requestsOf (errorKey dated) (failedRows rows) (errorKey dated other)) →
    asU16 row.status = asU16 other.status

theorem aggregateErrors_congr {dated : Bool} (apart : ErrorsToldApart rows dated)
    (same : rows.Perm listed) (hash other : Arrangement) :
    aggregateErrors hash rows dated = aggregateErrors other listed dated := by
  have failed : (failedRows rows).Perm (failedRows listed) := same.filter _
  have listedPerm := aggregateErrors_perm other listed dated
  rw [errorGroups, requestsOf_perm (errorKey dated) failed.symm] at listedPerm
  refine eq_of_sorted_map (byCount ErrorTrend.date ErrorTrend.count ErrorTrend.errorCode)
    (failed.map _).dedup (aggregateErrors_perm hash rows dated) listedPerm (pairwise_sort _ _)
    (pairwise_sort _ _) ?_
  intro key keyed next nextKeyed tied
  obtain ⟨row, inside, rfl⟩ := List.mem_map.mp (List.mem_dedup.mp keyed)
  obtain ⟨other, otherInside, rfl⟩ := List.mem_map.mp (List.mem_dedup.mp nextKeyed)
  obtain ⟨dates, counts, codes⟩ := byCount_eq_iff.mp tied
  have statuses := apart row inside other otherInside dates codes counts
  exact (ErrorTrend.mk.injEq ..).mpr ⟨dates, statuses, codes, counts⟩

end

/-! ## Groups that tie -/

/-- The groups of two rows come out in either order when the sorting does not tell them
apart. -/
theorem exists_swapped_errors {rows : List UsageDailyRow} {dated : Bool} {row other : UsageDailyRow}
    (inside : row ∈ failedRows rows) (otherInside : other ∈ failedRows rows)
    (dates : datedDay dated row.day = datedDay dated other.day)
    (codes : row.errorSlug = other.errorSlug)
    (counts : asU64 (requestsOf (errorKey dated) (failedRows rows) (errorKey dated row)) =
      asU64 (requestsOf (errorKey dated) (failedRows rows) (errorKey dated other)))
    (differ : asU16 row.status ≠ asU16 other.status) :
    ∃ hash swapped : Arrangement,
      aggregateErrors hash rows dated ≠ aggregateErrors swapped rows dated := by
  let group := fun own : UsageDailyRow =>
    (errorKey dated own, requestsOf (errorKey dated) (failedRows rows) (errorKey dated own))
  let grouped := Dict.accumulate (errorKey dated) 0
    (fun count row => count + row.requestCount) ∅ (failedRows rows)
  have stored : ∀ own ∈ failedRows rows, group own ∈ grouped.pairs := by
    intro own member
    have iterated := iterate_counts_perm (Arrangement.listing rows) (errorKey dated)
      (failedRows rows)
    apply (((Arrangement.listing rows).iterate_perm _).symm.trans iterated).mem_iff.mpr
    exact List.mem_map_of_mem (List.mem_dedup.mpr (List.mem_map_of_mem member))
  have distinct : group row ≠ group other := by
    intro same
    have statuses : row.status = other.status := congrArg (fun item => item.1.2.1) same
    exact differ (congrArg asU16 statuses)
  obtain ⟨hash, swapped, rest, first, second⟩ :=
    Arrangement.exists_swapped (stored row inside) (stored other otherInside) distinct
  refine ⟨hash, swapped, ?_⟩
  intro same
  -- Sorting is stable, so the tied entries stay as the hash map listed them.
  let tied := fun trend : ErrorTrend =>
    decide (trend.date = datedDay dated row.day ∧
      trend.count = (errorEntry (group row)).count ∧ trend.errorCode = row.errorSlug)
  have stable := @filter_sort _
    (byCount ErrorTrend.date ErrorTrend.count ErrorTrend.errorCode) _ tied ?_
  · have kept : ((hash.iterate grouped).map errorEntry).filter tied =
        ((swapped.iterate grouped).map errorEntry).filter tied :=
      (stable _).symm.trans ((congrArg (List.filter tied) same).trans (stable _))
    have rowTied : tied (errorEntry (group row)) = true :=
      decide_eq_true ⟨rfl, rfl, rfl⟩
    have otherTied : tied (errorEntry (group other)) = true :=
      decide_eq_true ⟨dates.symm, counts.symm, codes.symm⟩
    have rowFirst : (((hash.iterate grouped).map errorEntry).filter tied).head? =
        some (errorEntry (group row)) := by
      rw [first, List.map_cons, List.filter_cons_of_pos rowTied, List.head?_cons]
    have otherFirst : (((swapped.iterate grouped).map errorEntry).filter tied).head? =
        some (errorEntry (group other)) := by
      rw [second, List.map_cons, List.filter_cons_of_pos otherTied, List.head?_cons]
    rw [kept, otherFirst] at rowFirst
    exact differ (congrArg ErrorTrend.status (Option.some.inj rowFirst)).symm
  · intro one two oneTied twoTied
    obtain ⟨oneDate, oneCount, oneCode⟩ := of_decide_eq_true oneTied
    obtain ⟨twoDate, twoCount, twoCode⟩ := of_decide_eq_true twoTied
    have equal : byCount ErrorTrend.date ErrorTrend.count ErrorTrend.errorCode one two = .eq :=
      byCount_eq_iff.mpr ⟨oneDate.trans twoDate.symm, oneCount.trans twoCount.symm,
        oneCode.trans twoCode.symm⟩
    rw [equal]
    rfl

/-! ## Fixed order -/

/-- What the aggregations return depends on nothing but the rows that there are. -/
def OrderFixed (rows : List UsageDailyRow) (dated : Bool) : Prop :=
  ∀ listed, rows.Perm listed → ∀ hash other : Arrangement,
    aggregateDaily hash rows = aggregateDaily other listed ∧
    aggregateErrors hash rows dated = aggregateErrors other listed dated ∧
    aggregateLanguages hash rows dated = aggregateLanguages other listed dated

theorem order_fixed_iff (rows : List UsageDailyRow) (dated : Bool) :
    OrderFixed rows dated ↔ ErrorsToldApart rows dated := by
  constructor
  · intro fixed row inside other otherInside dates codes counts
    by_contra differ
    obtain ⟨hash, swapped, unequal⟩ :=
      exists_swapped_errors inside otherInside dates codes counts differ
    exact unequal (fixed rows (List.Perm.refl rows) hash swapped).2.1
  · intro apart listed same hash other
    exact ⟨aggregateDaily_congr same hash other, aggregateErrors_congr apart same hash other,
      aggregateLanguages_congr same hash other dated⟩

/-- A day on which a refused method and an internal error were each answered once. -/
def tiedRows : List UsageDailyRow :=
  [{ day := "2024-01-01", language := "unknown", status := 405, errorSlug := "internal-error"
     requestCount := 1, latencySumUs := 100 },
    { day := "2024-01-01", language := "unknown", status := 500, errorSlug := "internal-error"
      requestCount := 1, latencySumUs := 200 }]

theorem tied_errors_in_two_orders : ¬ OrderFixed tiedRows true := by
  intro fixed
  have refused : tiedRows[0] ∈ failedRows tiedRows := by decide
  have internal : tiedRows[1] ∈ failedRows tiedRows := by decide
  have dates : datedDay true tiedRows[0].day = datedDay true tiedRows[1].day := rfl
  obtain ⟨hash, swapped, unequal⟩ :=
    exists_swapped_errors refused internal dates rfl (by decide) (by decide)
  exact unequal (fixed tiedRows (List.Perm.refl tiedRows) hash swapped).2.1

end SpellServer
