import SpellServer.Usage.Groups

/-!
# Aggregations that agree

Days, errors and languages partition the same rows: their counts add up to the
same totals, date by date and overall, and the shares of a date's languages to
one hundred percent.
-/

namespace SpellServer

open Library

/-! ## Totals -/

/-- Rows of counts that are not negative and add up within `i64`. -/
structure CountedRows (rows : List UsageDailyRow) : Prop where
  counts : ∀ row ∈ rows, 0 ≤ row.requestCount
  latencies : ∀ row ∈ rows, 0 ≤ row.latencySumUs
  requestsFit : requestTotal rows < 2 ^ 63
  latencyFits : latencySum rows < 2 ^ 63

theorem asU64_of_fits {value : ℤ} (nonneg : 0 ≤ value) (fits : value < 2 ^ 63) :
    (asU64 value : ℤ) = value := by
  unfold asU64
  omega

/-- A selection adds up to no more than the whole. -/
theorem sum_filter_bounds {amount : UsageDailyRow → ℤ} {rows : List UsageDailyRow}
    (nonneg : ∀ row ∈ rows, 0 ≤ amount row) (wanted : UsageDailyRow → Bool) :
    0 ≤ ((rows.filter wanted).map amount).sum ∧
      ((rows.filter wanted).map amount).sum ≤ (rows.map amount).sum := by
  induction rows with
  | nil => exact ⟨le_refl 0, le_refl 0⟩
  | cons row rows induction =>
      have first := nonneg row List.mem_cons_self
      have rest := induction fun other member => nonneg other (List.mem_cons_of_mem row member)
      rw [List.filter_cons, List.map_cons, List.sum_cons]
      split
      · rw [List.map_cons, List.sum_cons]
        omega
      · omega

namespace CountedRows

variable {rows : List UsageDailyRow}

theorem requests (counted : CountedRows rows) (wanted : UsageDailyRow → Bool) :
    0 ≤ requestTotal (rows.filter wanted) ∧ requestTotal (rows.filter wanted) < 2 ^ 63 := by
  have bounds := sum_filter_bounds counted.counts wanted
  exact ⟨bounds.1, lt_of_le_of_lt bounds.2 counted.requestsFit⟩

theorem latency (counted : CountedRows rows) (wanted : UsageDailyRow → Bool) :
    0 ≤ latencySum (rows.filter wanted) ∧ latencySum (rows.filter wanted) < 2 ^ 63 := by
  have bounds := sum_filter_bounds counted.latencies wanted
  exact ⟨bounds.1, lt_of_le_of_lt bounds.2 counted.latencyFits⟩

theorem filter (counted : CountedRows rows) (wanted : UsageDailyRow → Bool) :
    CountedRows (rows.filter wanted) where
  counts row member := counted.counts row (List.mem_of_mem_filter member)
  latencies row member := counted.latencies row (List.mem_of_mem_filter member)
  requestsFit := (counted.requests wanted).2
  latencyFits := (counted.latency wanted).2

end CountedRows

/-- Entries that measure their groups add up to the rows of the groups asked for. -/
theorem sum_entries {κ ε : Type} [DecidableEq κ] {key : UsageDailyRow → κ}
    {amount : UsageDailyRow → ℤ} {rows : List UsageDailyRow} {entries : List ε} {entry : κ → ε}
    {measure : ε → ℕ} (label : ε → Bool) (wanted : κ → Bool)
    (perm : entries.Perm ((rows.map key).dedup.map entry))
    (measured : ∀ one, (measure (entry one) : ℤ) =
      ((rows.filter fun row => key row = one).map amount).sum)
    (labelled : ∀ one, label (entry one) = wanted one) :
    ((((entries.filter label).map measure).sum : ℕ) : ℤ) =
      ((rows.filter fun row => wanted (key row)).map amount).sum := by
  have listed := (perm.filter label).map fun one => (measure one : ℤ)
  rw [Nat.cast_list_sum, List.map_map]
  refine listed.sum_eq.trans ?_
  rw [List.filter_map, List.map_map, ← Dict.sum_groups amount wanted rows]
  congr 1
  have asked : label ∘ entry = wanted := funext labelled
  rw [asked]
  apply List.map_congr_left
  intro one _
  exact measured one

theorem failed_total (rows : List UsageDailyRow) :
    (rows.map fun row => if 400 ≤ row.status then row.requestCount else 0).sum =
      requestTotal (failedRows rows) := by
  induction rows with
  | nil => rfl
  | cons row rows induction =>
      rw [List.map_cons, List.sum_cons, induction]
      by_cases failed : 400 ≤ row.status
      · simp [requestTotal, failedRows, failed]
      · simp [requestTotal, failedRows, failed]

/-- The counts of the three aggregations are those of the rows. -/
structure TotalsAgree (daily : List DailyUsageRow) (errors : List ErrorTrend)
    (languages : List LanguageDistribution) (rows : List UsageDailyRow) : Prop where
  requests : (((daily.map DailyUsageRow.requests).sum : ℕ) : ℤ) = requestTotal rows
  languages : (((languages.map LanguageDistribution.count).sum : ℕ) : ℤ) = requestTotal rows
  dailyErrors : (((daily.map DailyUsageRow.errors).sum : ℕ) : ℤ) = requestTotal (failedRows rows)
  errors : (((errors.map ErrorTrend.count).sum : ℕ) : ℤ) = requestTotal (failedRows rows)

section

variable {rows : List UsageDailyRow}

theorem share_counts {K : Type} (arithmetic : ShareArithmetic K) (wanted : Option String → Bool)
    (dated : Bool) (counted : CountedRows rows) (hash : Arrangement) :
    (((((aggregateLanguagesIn arithmetic hash rows dated).filter fun share =>
        wanted share.date).map LanguageShare.count).sum : ℕ) : ℤ) =
      requestTotal (rows.filter fun row => wanted (datedDay dated row.day)) := by
  refine sum_entries (fun share => wanted share.date) (fun key => wanted key.1)
    (aggregateLanguagesIn_perm arithmetic hash rows dated) ?_ fun _ => rfl
  intro one
  have bounds := counted.requests fun row => languageKey dated row = one
  exact asU64_of_fits bounds.1 bounds.2

/-- The totals agree on the dates that are asked for. -/
theorem totals_agree (counted : CountedRows rows) (hashDaily hashErrors hashLanguages : Arrangement)
    (dated : Bool) (wanted : Option String → Bool) (wantedDay : String → Bool)
    (same : ∀ day, wanted (datedDay dated day) = wantedDay day) :
    TotalsAgree ((aggregateDaily hashDaily rows).filter fun row => wantedDay row.date)
      ((aggregateErrors hashErrors rows dated).filter fun trend => wanted trend.date)
      ((aggregateLanguages hashLanguages rows dated).filter fun share => wanted share.date)
      (rows.filter fun row => wantedDay row.day) where
  requests := by
    refine sum_entries (fun row => wantedDay row.date) wantedDay
      (aggregateDaily_perm hashDaily rows) ?_ fun _ => rfl
    intro day
    have bounds := counted.requests fun row => row.day = day
    exact asU64_of_fits bounds.1 bounds.2
  languages := by
    have sums := share_counts f64Share wanted dated counted hashLanguages
    simp only [same] at sums
    rw [aggregateLanguages_eq, List.filter_map, List.map_map]
    exact sums
  dailyErrors := by
    rw [← failed_total]
    refine sum_entries (fun row => wantedDay row.date) wantedDay
      (aggregateDaily_perm hashDaily rows) ?_ fun _ => rfl
    intro day
    rw [failed_total]
    have bounds := (counted.filter fun row => row.day = day).requests fun row => 400 ≤ row.status
    exact asU64_of_fits bounds.1 bounds.2
  errors := by
    have failed : failedRows (rows.filter fun row => wantedDay row.day) =
        (failedRows rows).filter fun row => wanted (errorKey dated row).1 := by
      unfold failedRows
      rw [List.filter_filter, List.filter_filter]
      apply List.filter_congr
      intro row _
      rw [errorKey, same, Bool.and_comm]
    rw [failed]
    refine sum_entries (fun trend => wanted trend.date) (fun key => wanted key.1)
      (aggregateErrors_perm hashErrors rows dated) ?_ fun _ => rfl
    intro one
    have bounds := (counted.filter fun row => 400 ≤ row.status).requests
      fun row => errorKey dated row = one
    exact asU64_of_fits bounds.1 bounds.2

end

end SpellServer
