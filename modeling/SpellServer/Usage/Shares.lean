import Mathlib.Algebra.Order.Round
import Mathlib.Tactic.FieldSimp
import SpellServer.Library.Sorting
import SpellServer.Usage.Agreement

/-!
# Days and shares

What each entry says of its group: the average latency of a day, and the share
of a language in the requests of its date, in exact arithmetic.
-/

namespace SpellServer

open Library

/-! ## Days -/

/-- The row of a day, as the rows of that day have it. -/
structure DaySummary (rows : List UsageDailyRow) (entry : DailyUsageRow) : Prop where
  requests : (entry.requests : ℤ) = requestTotal (onDay rows entry.date)
  errors : entry.errors ≤ entry.requests
  averageLatency : (entry.averageLatencyMs : ℤ) =
    latencySum (onDay rows entry.date) / (1000 * requestTotal (onDay rows entry.date))

theorem dates_perm (hash : Arrangement) (rows : List UsageDailyRow) :
    ((aggregateDaily hash rows).map DailyUsageRow.date).Perm (daysOf rows) := by
  have named : DailyUsageRow.date ∘ (fun day => dailyGroup day (onDay rows day)) = id := rfl
  have mapped := (aggregateDaily_perm hash rows).map DailyUsageRow.date
  rw [List.map_map, named, List.map_id] at mapped
  exact mapped

theorem aggregateDaily_increasing (hash : Arrangement) (rows : List UsageDailyRow) :
    (aggregateDaily hash rows).Pairwise fun earlier later => earlier.date < later.date := by
  have distinct : ((aggregateDaily hash rows).map DailyUsageRow.date).Nodup :=
    (dates_perm hash rows).nodup_iff.mpr (List.nodup_dedup _)
  have ordered : (aggregateDaily hash rows).Pairwise fun one two =>
      (compareOn DailyUsageRow.date one two).isLE = true := pairwise_sort _ _
  refine (ordered.and (List.pairwise_map.mp distinct)).imp ?_
  intro earlier later before
  exact lt_of_le_of_ne (compare_le_iff_le.mp (Ordering.ne_gt_iff_isLE.mpr before.1)) before.2

theorem average_of_fits {latency requests : ℤ} (latencyNonneg : 0 ≤ latency)
    (latencyFits : latency < 2 ^ 63) (requestsNonneg : 0 ≤ requests) :
    ((if 0 < requests then asU64 ((latency.tdiv requests).tdiv 1000) else 0 : ℕ) : ℤ) =
      latency / (1000 * requests) := by
  split
  · have quotient : (latency.tdiv requests).tdiv 1000 = latency / (1000 * requests) := by
      rw [Int.tdiv_eq_ediv_of_nonneg latencyNonneg,
        Int.tdiv_eq_ediv_of_nonneg (Int.ediv_nonneg latencyNonneg requestsNonneg),
        Int.ediv_ediv_of_nonneg requestsNonneg, mul_comm]
    have scale : 0 ≤ 1000 * requests := by omega
    rw [quotient]
    exact asU64_of_fits (Int.ediv_nonneg latencyNonneg scale)
      (lt_of_le_of_lt (Int.ediv_le_self _ latencyNonneg) latencyFits)
  · next empty =>
      have none : requests = 0 := le_antisymm (not_lt.mp empty) requestsNonneg
      rw [none, mul_zero, Int.ediv_zero, Nat.cast_zero]

theorem daySummary_of_mem {rows : List UsageDailyRow} (counted : CountedRows rows)
    {hash : Arrangement} {entry : DailyUsageRow} (member : entry ∈ aggregateDaily hash rows) :
    DaySummary rows entry := by
  obtain ⟨day, _, rfl⟩ :=
    List.mem_map.mp ((aggregateDaily_perm hash rows).mem_iff.mp member)
  have requests := counted.requests fun row => row.day = day
  have latency := counted.latency fun row => row.day = day
  have failed := sum_filter_bounds (counted.filter fun row => row.day = day).counts
    fun row => 400 ≤ row.status
  have requestsHeld : ((dailyGroup day (onDay rows day)).requests : ℤ) =
      requestTotal (onDay rows day) := asU64_of_fits requests.1 requests.2
  have errorsHeld : ((dailyGroup day (onDay rows day)).errors : ℤ) =
      requestTotal (failedRows (onDay rows day)) :=
    asU64_of_fits failed.1 (lt_of_le_of_lt failed.2 requests.2)
  refine ⟨requestsHeld, ?_, average_of_fits latency.1 latency.2 requests.1⟩
  have within : ((dailyGroup day (onDay rows day)).errors : ℤ) ≤
      ((dailyGroup day (onDay rows day)).requests : ℤ) := by
    rw [requestsHeld, errorsHeld]
    exact failed.2
  exact_mod_cast within

/-! ## Shares -/

/-- `f64::round`, of an exact number: halves go away from zero. -/
def roundAway (value : ℚ) : ℚ := if 0 ≤ value then round value else -round (-value)

theorem roundAway_close (value : ℚ) : |roundAway value - value| ≤ 1 / 2 := by
  unfold roundAway
  split
  · rw [abs_sub_comm]
    exact abs_sub_round value
  · have close := abs_sub_round (-value)
    rw [show -(round (-value) : ℚ) - value = -value - round (-value) by ring]
    exact close

/-- The number operations of `aggregate_languages`, without rounding errors. -/
def exactShare : ShareArithmetic ℚ :=
  { ofInt := fun value => value
    mul := (· * ·)
    div := (· / ·)
    round := roundAway
    zero := 0
    ten := 10
    thousand := 1000 }

theorem percentage_close {total : ℤ} (nonneg : 0 ≤ total) (count : ℤ) :
    |exactShare.percentage count total - 100 * count / total| ≤ 1 / 20 := by
  unfold ShareArithmetic.percentage
  split
  · have close := roundAway_close ((count : ℚ) / total * 1000)
    rw [abs_le] at close ⊢
    have scaled : (100 : ℚ) * count / total = (count : ℚ) / total * 1000 / 10 := by ring
    change -(1 / 20) ≤ roundAway ((count : ℚ) / total * 1000) / 10 - _ ∧
      roundAway ((count : ℚ) / total * 1000) / 10 - _ ≤ 1 / 20
    rw [scaled]
    constructor
    · linarith
    · linarith
  · next empty =>
      have none : total = 0 := le_antisymm (not_lt.mp empty) nonneg
      subst none
      change |(0 : ℚ) - 100 * count / ((0 : ℤ) : ℚ)| ≤ 1 / 20
      norm_num

/-- Values that are each close to their parts of a whole add up close to it. -/
theorem sum_close {α : Type*} {entries : List α} {value part : α → ℚ} {error : ℚ}
    (close : ∀ entry ∈ entries, |value entry - part entry| ≤ error) :
    |(entries.map value).sum - (entries.map part).sum| ≤ error * entries.length := by
  induction entries with
  | nil => simp
  | cons entry entries induction =>
      have first := close entry List.mem_cons_self
      have rest := induction fun other member => close other (List.mem_cons_of_mem entry member)
      rw [abs_le] at first rest ⊢
      simp only [List.map_cons, List.sum_cons, List.length_cons, Nat.cast_add, Nat.cast_one]
      constructor
      · linarith
      · linarith

section

variable {rows : List UsageDailyRow}

theorem share_close (counted : CountedRows rows) {hash : Arrangement} {dated : Bool}
    {share : LanguageShare ℚ} (member : share ∈ aggregateLanguagesIn exactShare hash rows dated) :
    |share.percentage - 100 * share.count / dateTotal rows dated share.date| ≤ 1 / 20 := by
  obtain ⟨key, _, rfl⟩ :=
    List.mem_map.mp ((aggregateLanguagesIn_perm exactShare hash rows dated).mem_iff.mp member)
  have own := counted.requests fun row => languageKey dated row = key
  have total := counted.requests fun row => datedDay dated row.day = key.1
  have held : (asU64 (requestsOf (languageKey dated) rows key) : ℤ) =
      requestsOf (languageKey dated) rows key := asU64_of_fits own.1 own.2
  have count : ((asU64 (requestsOf (languageKey dated) rows key) : ℕ) : ℚ) =
      requestsOf (languageKey dated) rows key := by exact_mod_cast held
  have close := percentage_close total.1 (requestsOf (languageKey dated) rows key)
  rw [← count] at close
  exact close

theorem shares_close (counted : CountedRows rows) (hash : Arrangement) (dated : Bool)
    {date : Option String} (given : dateTotal rows dated date ≠ 0) :
    |(((aggregateLanguagesIn exactShare hash rows dated).filter fun share =>
        share.date = date).map LanguageShare.percentage).sum - 100| ≤
      1 / 20 * ((aggregateLanguagesIn exactShare hash rows dated).filter fun share =>
        share.date = date).length := by
  have parts : ∀ share ∈ (aggregateLanguagesIn exactShare hash rows dated).filter fun share =>
      share.date = date,
        |share.percentage - share.count * (100 / dateTotal rows dated date)| ≤ 1 / 20 := by
    intro share member
    obtain ⟨listed, named⟩ := List.mem_filter.mp member
    have own := share_close counted listed
    rw [of_decide_eq_true named] at own
    rw [show (share.count : ℚ) * (100 / dateTotal rows dated date) =
      100 * share.count / dateTotal rows dated date by ring]
    exact own
  have close := sum_close parts
  have counts := share_counts exactShare (fun other => other = date) dated counted hash
  have whole : (((aggregateLanguagesIn exactShare hash rows dated).filter fun share =>
      share.date = date).map fun share => (share.count : ℚ)).sum = dateTotal rows dated date := by
    have cast := congrArg (fun count : ℤ => (count : ℚ)) counts
    rw [Int.cast_natCast, Nat.cast_list_sum, List.map_map] at cast
    exact cast
  rw [List.sum_map_mul_right, whole] at close
  have nonzero : (dateTotal rows dated date : ℚ) ≠ 0 := by exact_mod_cast given
  rw [mul_div_cancel₀ _ nonzero] at close
  exact close

end

/-! ## Agreement -/

/-- Every group that the rows have is named by one entry.  The status of an error is cut
to sixteen bits on its way out. -/
structure KeysOnce (daily : List DailyUsageRow) (errors : List ErrorTrend)
    (languages : List LanguageDistribution) (rows : List UsageDailyRow) (dated : Bool) :
    Prop where
  days : (daily.map DailyUsageRow.date).Perm (daysOf rows)
  errorGroups : errors.Perm (((failedRows rows).map (errorKey dated)).dedup.map fun key =>
    errorEntry (key, requestsOf (errorKey dated) (failedRows rows) key))
  errors : (∀ row ∈ rows, 0 ≤ row.status ∧ row.status < 2 ^ 16) →
    (errors.map fun trend => (trend.date, trend.status, trend.errorCode)).Nodup
  languages : (languages.map fun share => (share.date, share.language)).Perm
    (languageKeys rows dated)

theorem keys_once (hashDaily hashErrors hashLanguages : Arrangement) (rows : List UsageDailyRow)
    (dated : Bool) :
    KeysOnce (aggregateDaily hashDaily rows) (aggregateErrors hashErrors rows dated)
      (aggregateLanguages hashLanguages rows dated) rows dated where
  days := dates_perm hashDaily rows
  errorGroups := aggregateErrors_perm hashErrors rows dated
  errors := by
    intro small
    apply (((aggregateErrors_perm hashErrors rows dated).map _).nodup_iff).mpr
    rw [errorGroups, List.map_map]
    apply List.Nodup.map_on _ (List.nodup_dedup _)
    intro one oneMember two twoMember same
    have statusOf : ∀ key ∈ ((failedRows rows).map (errorKey dated)).dedup,
        ((asU16 key.2.1 : ℕ) : ℤ) = key.2.1 := by
      intro key member
      obtain ⟨row, inside, rfl⟩ := List.mem_map.mp (List.mem_dedup.mp member)
      have bounds := small row (List.mem_of_mem_filter inside)
      change ((asU16 row.status : ℕ) : ℤ) = row.status
      unfold asU16
      omega
    have parts := Prod.ext_iff.mp same
    have rest := Prod.ext_iff.mp parts.2
    have statuses : ((asU16 one.2.1 : ℕ) : ℤ) = asU16 two.2.1 := congrArg _ rest.1
    rw [statusOf one oneMember, statusOf two twoMember] at statuses
    exact Prod.ext parts.1 (Prod.ext statuses rest.2)
  languages := by
    have mapped := (aggregateLanguagesIn_perm f64Share hashLanguages rows dated).map
      fun share => (share.date, share.language)
    rw [List.map_map] at mapped
    rw [aggregateLanguages_eq, List.map_map]
    refine mapped.trans (List.Perm.of_eq ?_)
    exact List.map_id _

/-- The aggregations of the same rows. -/
structure UsagesAgree (hashDaily hashErrors hashLanguages : Arrangement)
    (rows : List UsageDailyRow) (dated : Bool) : Prop where
  overall : TotalsAgree (aggregateDaily hashDaily rows) (aggregateErrors hashErrors rows dated)
    (aggregateLanguages hashLanguages rows dated) rows
  eachDate : dated = true → ∀ date,
    TotalsAgree ((aggregateDaily hashDaily rows).filter fun row => row.date = date)
      ((aggregateErrors hashErrors rows dated).filter fun trend => trend.date = some date)
      ((aggregateLanguages hashLanguages rows dated).filter fun share => share.date = some date)
      (onDay rows date)
  increasing : (aggregateDaily hashDaily rows).Pairwise fun earlier later =>
    earlier.date < later.date
  days : ∀ entry ∈ aggregateDaily hashDaily rows, DaySummary rows entry
  sameEntries : (aggregateLanguages hashLanguages rows dated).map
      (fun share => (share.date, share.language, share.count)) =
    (aggregateLanguagesIn exactShare hashLanguages rows dated).map LanguageShare.counted
  shares : ∀ share ∈ aggregateLanguagesIn exactShare hashLanguages rows dated,
    |share.percentage - 100 * share.count / dateTotal rows dated share.date| ≤ 1 / 20
  sharesSum : ∀ date, dateTotal rows dated date ≠ 0 →
    |(((aggregateLanguagesIn exactShare hashLanguages rows dated).filter fun share =>
        share.date = date).map LanguageShare.percentage).sum - 100| ≤
      1 / 20 * ((aggregateLanguagesIn exactShare hashLanguages rows dated).filter fun share =>
        share.date = date).length
  keys : KeysOnce (aggregateDaily hashDaily rows) (aggregateErrors hashErrors rows dated)
    (aggregateLanguages hashLanguages rows dated) rows dated

/-- Days, errors and languages agree on the rows they are made of. -/
theorem usages_agree {rows : List UsageDailyRow} (counted : CountedRows rows)
    (hashDaily hashErrors hashLanguages : Arrangement) (dated : Bool) :
    UsagesAgree hashDaily hashErrors hashLanguages rows dated where
  overall := by
    have agree := totals_agree counted hashDaily hashErrors hashLanguages dated
      (fun _ => true) (fun _ => true) fun _ => rfl
    simp only [List.filter_true] at agree
    exact agree
  eachDate := by
    intro given date
    subst given
    refine totals_agree counted hashDaily hashErrors hashLanguages true
      (fun other => other = some date) (fun other => other = date) ?_
    intro day
    simp [datedDay]
  increasing := aggregateDaily_increasing hashDaily rows
  days _ member := daySummary_of_mem counted member
  sameEntries := by
    rw [aggregateLanguages_eq, List.map_map]
    exact aggregateLanguagesIn_counted f64Share exactShare hashLanguages rows dated
  shares _ member := share_close counted member
  sharesSum _ given := shares_close counted hashLanguages dated given
  keys := keys_once hashDaily hashErrors hashLanguages rows dated

/-- One failure among seven requests of two days. -/
def sampleRows : List UsageDailyRow :=
  [{ day := "2024-01-02", language := "en", status := 200, errorSlug := ""
     requestCount := 4, latencySumUs := 9000 },
    { day := "2024-01-01", language := "de", status := 500, errorSlug := "internal-error"
      requestCount := 1, latencySumUs := 2500 },
    { day := "2024-01-01", language := "en", status := 200, errorSlug := ""
      requestCount := 2, latencySumUs := 600 }]

theorem usages_agree_two_days :
    requestTotal sampleRows = 7 ∧ requestTotal (failedRows sampleRows) = 1 ∧
    UsagesAgree (Arrangement.listing sampleRows) (Arrangement.listing sampleRows)
      (Arrangement.listing sampleRows) sampleRows true := by
  refine ⟨by decide, by decide, usages_agree ?_ _ _ _ true⟩
  exact {
    counts := by decide
    latencies := by decide
    requestsFit := by decide
    latencyFits := by decide }

end SpellServer
