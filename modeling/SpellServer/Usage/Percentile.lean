import SpellServer.Library.Quantile
import SpellServer.Usage.Aggregation
import SpellServer.Usage.Buckets

/-!
# Percentiles in exact arithmetic

`percentile` is one text over any kind of number.  Over `f64` it is the function
the handlers call; over the rationals it is the interpolated walk, and its
results are ordered and bounded by the ladder.
-/

namespace SpellServer

open Library

/-- The number operations of `percentile`; `round` includes the cast to `u64`. -/
structure Arithmetic (K : Type) where
  ofInt : ℤ → K
  add : K → K → K
  sub : K → K → K
  mul : K → K → K
  div : K → K → K
  atMost : K → K → Bool
  clampUnit : K → K
  round : K → ℕ

section

variable {K : Type} (arithmetic : Arithmetic K)

def crossingIn (rank : K) : List (ℤ × ℤ) → ℤ → ℤ → ℕ ⊕ ℤ
  | [], _, lower => .inr lower
  | (upper, count) :: rest, cumulative, lower =>
      if count ≤ 0 then crossingIn rank rest cumulative upper
      else
        let next := cumulative + count
        if arithmetic.atMost rank (arithmetic.ofInt next) then
          let intoBucket := arithmetic.sub rank (arithmetic.ofInt cumulative)
          let fraction := arithmetic.clampUnit (arithmetic.div intoBucket (arithmetic.ofInt count))
          .inl
            (arithmetic.round
              (arithmetic.add (arithmetic.ofInt lower)
                (arithmetic.mul (arithmetic.ofInt (upper - lower)) fraction)))
        else crossingIn rank rest next upper

def percentileIn (buckets : List (ℤ × ℤ)) (q : K) : Option ℕ :=
  let total := (buckets.map Prod.snd).sum
  if total ≤ 0 then none
  else
    let ordered := (buckets.filter fun bucket => bucket.1 ≠ bucketOverflow).mergeSort
      fun one two => one.1 ≤ two.1
    let overflow := ((buckets.filter fun bucket => bucket.1 = bucketOverflow).map Prod.snd).sum
    let lastFinite := latencyBucketsMs.getLastD 0
    match crossingIn arithmetic (arithmetic.mul q (arithmetic.ofInt total)) ordered 0 0 with
    | .inl value => some value
    | .inr lower => some (if 0 < overflow then asU64 lastFinite else asU64 (max lower 0))

/-- `quantiles` are the labelled fractions to report. -/
def aggregateLatencyIn (quantiles : List (String × K)) (hash : Arrangement)
    (rows : List UsageLatencyRow) (dated : Bool) : List LatencyTrend :=
  let grouped : Dict (Option String) (List (ℤ × ℤ)) :=
    Dict.accumulate (fun row : UsageLatencyRow => datedDay dated row.day) []
      (fun buckets row => buckets ++ [(row.bucketLeMs, row.requestCount)]) ∅ rows
  let dates := ((hash.iterate grouped).map Prod.fst).mergeSort
    fun one two => (compare one two).isLE
  dates.flatMap fun date =>
    let buckets := (grouped.lookup date).getD []
    quantiles.filterMap fun (label, q) =>
      (percentileIn arithmetic buckets q).map fun valueMs =>
        { date, percentile := label, valueMs }

end

/-! ## `f64` -/

def f64 : Arithmetic Float :=
  { ofInt := asF64
    add := (· + ·)
    sub := (· - ·)
    mul := (· * ·)
    div := (· / ·)
    atMost := fun one two => decide (one ≤ two)
    clampUnit := clampUnit
    round := fun value => value.round.toUInt64.toNat }

theorem crossing_eq (rank : Float) (rows : List (ℤ × ℤ)) (cumulative lower : ℤ) :
    crossing rank rows cumulative lower = crossingIn f64 rank rows cumulative lower := by
  induction rows generalizing cumulative lower with
  | nil => rfl
  | cons row rest induction =>
      obtain ⟨upper, count⟩ := row
      simp only [crossing, crossingIn, induction, f64, decide_eq_true_eq]

theorem percentile_eq (buckets : List (ℤ × ℤ)) (q : Float) :
    percentile buckets q = percentileIn f64 buckets q := by
  simp only [percentile, percentileIn, crossing_eq]
  rfl

theorem aggregateLatency_eq (hash : Arrangement) (rows : List UsageLatencyRow) (dated : Bool) :
    aggregateLatency hash rows dated = aggregateLatencyIn f64 percentiles hash rows dated := by
  simp only [aggregateLatency, aggregateLatencyIn, percentile_eq]

/-! ## Exact arithmetic -/

/-- Half of a millisecond is rounded up; `as u64` saturates. -/
def roundU64 (value : ℚ) : ℕ := min (⌊value + 1 / 2⌋).toNat (2 ^ 64 - 1)

def exact : Arithmetic ℚ :=
  { ofInt := fun value => value
    add := (· + ·)
    sub := (· - ·)
    mul := (· * ·)
    div := (· / ·)
    atMost := fun one two => decide (one ≤ two)
    clampUnit := fun value => max 0 (min value 1)
    round := roundU64 }

def exactQuantiles : List (String × ℚ) := [("p50", 50 / 100), ("p95", 95 / 100), ("p99", 99 / 100)]

/-- Rows as `usage_latency` has them: a ladder bound or the overflow, and a count. -/
structure ValidBuckets (buckets : List (ℤ × ℤ)) : Prop where
  bounds : ∀ bucket ∈ buckets, bucket.1 ∈ latencyBucketsMs ∨ bucket.1 = bucketOverflow
  counts : ∀ bucket ∈ buckets, 0 ≤ bucket.2

def asRational (bucket : ℤ × ℤ) : ℚ × ℚ := (bucket.1, bucket.2)

/-- The rows in the order of the walk. -/
def orderedBuckets (buckets : List (ℤ × ℤ)) : List (ℤ × ℤ) :=
  latencyBucketsMs.flatMap fun bound => buckets.filter fun bucket => bucket.1 = bound

def totalCount (buckets : List (ℤ × ℤ)) : ℤ := (buckets.map Prod.snd).sum

/-- The value that is rounded, or what lies above the ladder. -/
def exactValue (buckets : List (ℤ × ℤ)) (rank : ℚ) : ℚ :=
  (interpolate rank ((orderedBuckets buckets).map asRational) 0 0).getD 1000

theorem roundU64_mono {one two : ℚ} (order : one ≤ two) : roundU64 one ≤ roundU64 two := by
  unfold roundU64
  apply min_le_min_right
  apply Int.toNat_le_toNat
  apply Int.floor_mono
  linarith

theorem crossingIn_exact (rank : ℚ) (rows : List (ℤ × ℤ)) (cumulative lower : ℤ) :
    (∃ value, interpolate rank (rows.map asRational) cumulative lower = some value ∧
      crossingIn exact rank rows cumulative lower = .inl (roundU64 value)) ∨
    (interpolate rank (rows.map asRational) cumulative lower = none ∧
      ∃ last, crossingIn exact rank rows cumulative lower = .inr last) := by
  induction rows generalizing cumulative lower with
  | nil => exact Or.inr ⟨rfl, lower, rfl⟩
  | cons row rest induction =>
      obtain ⟨upper, count⟩ := row
      rw [List.map_cons, crossingIn, asRational, interpolate]
      by_cases empty : count ≤ 0
      · rw [if_pos empty, if_pos (Int.cast_nonpos.mpr empty)]
        exact induction cumulative upper
      · have counted : ¬((count : ℚ) ≤ 0) := mt Int.cast_nonpos.mp empty
        rw [if_neg empty, if_neg counted]
        by_cases reached : rank ≤ cumulative + count
        · have there : exact.atMost rank (exact.ofInt (cumulative + count)) = true := by
            simpa [exact] using reached
          rw [if_pos reached, if_pos there]
          refine Or.inl ⟨_, rfl, ?_⟩
          simp [exact, between]
        · have missed : ¬(exact.atMost rank (exact.ofInt (cumulative + count)) = true) := by
            simpa [exact] using reached
          rw [if_neg reached, if_neg missed]
          have later := induction (cumulative + count) upper
          push_cast at later
          exact later

/-! ## The walk over the ladder -/

namespace ValidBuckets

variable {buckets : List (ℤ × ℤ)}

theorem ordered_eq (valid : ValidBuckets buckets) :
    ((buckets.filter fun bucket => bucket.1 ≠ bucketOverflow).mergeSort
      fun one two => one.1 ≤ two.1) = orderedBuckets buckets := by
  rw [Ladder.mergeSort_eq_flatMap latencyBucketsMs_sorted]
  · apply List.flatMap_congr
    intro bound member
    rw [List.filter_filter]
    apply List.filter_congr
    intro bucket _
    by_cases same : bucket.1 = bound
    · simp [same, ne_bucketOverflow member]
    · simp [same]
  · intro bucket member
    obtain ⟨given, finite⟩ := List.mem_filter.mp member
    exact (valid.bounds bucket given).resolve_right (of_decide_eq_true finite)

end ValidBuckets

def overflowCount (buckets : List (ℤ × ℤ)) : ℤ :=
  totalCount (buckets.filter fun bucket => bucket.1 = bucketOverflow)

theorem mem_orderedBuckets {buckets : List (ℤ × ℤ)} {bucket : ℤ × ℤ}
    (member : bucket ∈ orderedBuckets buckets) :
    bucket ∈ buckets ∧ bucket.1 ∈ latencyBucketsMs := by
  obtain ⟨bound, among, inside⟩ := List.mem_flatMap.mp member
  obtain ⟨given, same⟩ := List.mem_filter.mp inside
  exact ⟨given, of_decide_eq_true same ▸ among⟩

theorem sum_asRational (rows : List (ℤ × ℤ)) :
    ((rows.map asRational).map Prod.snd).sum = totalCount rows := by
  unfold totalCount
  rw [List.map_map, Int.cast_list_sum, List.map_map]
  rfl

theorem orderedBuckets_ascending (buckets : List (ℤ × ℤ)) :
    ((orderedBuckets buckets).map asRational).Pairwise fun one two => one.1 ≤ two.1 := by
  apply List.pairwise_map.mpr
  apply List.pairwise_flatMap.mpr
  constructor
  · intro bound _
    apply List.pairwise_of_forall_mem_list
    intro one first two second
    have same := of_decide_eq_true (List.mem_filter.mp first).2
    have other := of_decide_eq_true (List.mem_filter.mp second).2
    exact le_of_eq (congrArg Int.cast (same.trans other.symm))
  · apply latencyBucketsMs_sorted.imp
    intro lower upper less one first two second
    have same := of_decide_eq_true (List.mem_filter.mp first).2
    have other := of_decide_eq_true (List.mem_filter.mp second).2
    exact Int.cast_le.mpr (same.trans_le ((le_of_lt less).trans (ge_of_eq other)))

theorem orderedBuckets_positive (buckets : List (ℤ × ℤ)) :
    ∀ row ∈ (orderedBuckets buckets).map asRational, 0 ≤ row.1 := by
  intro row member
  obtain ⟨bucket, among, rfl⟩ := List.mem_map.mp member
  have bounded := latencyBucketsMs_bounded _ (mem_orderedBuckets among).2
  exact Int.cast_nonneg (by omega)

namespace ValidBuckets

variable {buckets : List (ℤ × ℤ)}

theorem totalCount_split (valid : ValidBuckets buckets) :
    totalCount buckets = totalCount (orderedBuckets buckets) + overflowCount buckets := by
  have split := List.filter_append_perm (fun bucket : ℤ × ℤ => bucket.1 ≠ bucketOverflow) buckets
  have sums := (split.map Prod.snd).sum_eq
  rw [List.map_append, List.sum_append] at sums
  have finite := ((List.mergeSort_perm (buckets.filter fun bucket => bucket.1 ≠ bucketOverflow)
    fun one two => one.1 ≤ two.1).map Prod.snd).sum_eq
  rw [valid.ordered_eq] at finite
  unfold totalCount overflowCount
  rw [finite, ← sums]
  congr 3
  apply List.filter_congr
  intro bucket _
  simp

theorem ordered_counts (valid : ValidBuckets buckets) :
    ∀ row ∈ (orderedBuckets buckets).map asRational, 0 ≤ row.2 := by
  intro row member
  obtain ⟨bucket, among, rfl⟩ := List.mem_map.mp member
  exact Int.cast_nonneg (valid.counts bucket (mem_orderedBuckets among).1)

theorem totalCount_nonneg (valid : ValidBuckets buckets) : 0 ≤ totalCount buckets := by
  apply List.sum_nonneg
  intro count member
  obtain ⟨bucket, among, rfl⟩ := List.mem_map.mp member
  exact valid.counts bucket among

theorem filter (valid : ValidBuckets buckets) (kept : ℤ × ℤ → Bool) :
    ValidBuckets (buckets.filter kept) :=
  ⟨fun bucket member => valid.bounds bucket (List.mem_of_mem_filter member),
    fun bucket member => valid.counts bucket (List.mem_of_mem_filter member)⟩

theorem overflowCount_nonneg (valid : ValidBuckets buckets) : 0 ≤ overflowCount buckets :=
  (valid.filter _).totalCount_nonneg

/-- A percentile is the rounded value at its rank. -/
theorem percentileIn_exact (valid : ValidBuckets buckets) (given : 0 < totalCount buckets) {q : ℚ}
    (at_most : q ≤ 1) :
    percentileIn exact buckets q =
      some (roundU64 (exactValue buckets (q * totalCount buckets))) := by
  have nonempty : ¬(buckets.map Prod.snd).sum ≤ 0 := not_le.mpr given
  unfold percentileIn exactValue
  simp only [if_neg nonempty, valid.ordered_eq]
  have walk := crossingIn_exact (q * totalCount buckets) (orderedBuckets buckets) 0 0
  rw [Int.cast_zero] at walk
  rcases walk with ⟨value, found, crossed⟩ | ⟨missed, last, crossed⟩
  · have same : crossingIn exact (exact.mul q (exact.ofInt (buckets.map Prod.snd).sum))
        (orderedBuckets buckets) 0 0 = .inl (roundU64 value) := crossed
    rw [same, found]
    rfl
  · have same : crossingIn exact (exact.mul q (exact.ofInt (buckets.map Prod.snd).sum))
        (orderedBuckets buckets) 0 0 = .inr last := crossed
    have above : 0 < overflowCount buckets := by
      by_contra none_above
      have finite : totalCount (orderedBuckets buckets) = totalCount buckets := by
        have split := valid.totalCount_split
        have nonneg := valid.overflowCount_nonneg
        omega
      have counted : ∃ row ∈ (orderedBuckets buckets).map asRational, 0 < row.2 := by
        by_contra none
        have nothing := sum_counts_eq_zero valid.ordered_counts none
        rw [sum_asRational, finite, Int.cast_eq_zero] at nothing
        omega
      have total : (0 : ℚ) ≤ totalCount buckets := Int.cast_nonneg (le_of_lt given)
      have reached : q * totalCount buckets ≤
          0 + (((orderedBuckets buckets).map asRational).map Prod.snd).sum := by
        rw [sum_asRational, finite, zero_add]
        exact mul_le_of_le_one_left total at_most
      have found : ∃ value, interpolate (q * totalCount buckets)
          ((orderedBuckets buckets).map asRational) 0 0 = some value :=
        interpolate_reaches valid.ordered_counts counted reached
      obtain ⟨value, found⟩ := found
      rw [missed] at found
      cases found
    have overflows : 0 < ((buckets.filter fun bucket => bucket.1 = bucketOverflow).map
        Prod.snd).sum := above
    simp only [same, if_pos overflows, missed]
    exact congrArg some (by decide +kernel)

end ValidBuckets

theorem exactValue_le (buckets : List (ℤ × ℤ)) (rank : ℚ) : exactValue buckets rank ≤ 1000 := by
  unfold exactValue
  cases found : interpolate rank ((orderedBuckets buckets).map asRational) 0 0 with
  | none => exact le_refl _
  | some value =>
      obtain ⟨_, row, member, most⟩ := interpolate_bounds (orderedBuckets_ascending buckets)
        (orderedBuckets_positive buckets) found
      obtain ⟨bucket, among, rfl⟩ := List.mem_map.mp member
      have bounded := latencyBucketsMs_bounded _ (mem_orderedBuckets among).2
      have last : ((bucket.1 : ℤ) : ℚ) ≤ 1000 := by exact_mod_cast bounded.2
      exact most.trans last

/-- A higher rank has a higher value. -/
theorem exactValue_mono (buckets : List (ℤ × ℤ)) {rank higher : ℚ} (order : rank ≤ higher) :
    exactValue buckets rank ≤ exactValue buckets higher := by
  cases second : interpolate higher ((orderedBuckets buckets).map asRational) 0 0 with
  | none =>
      have last : exactValue buckets higher = 1000 := by rw [exactValue, second]; rfl
      rw [last]
      exact exactValue_le buckets rank
  | some most =>
      obtain ⟨least, first⟩ := interpolate_earlier order second
      have values := interpolate_mono (orderedBuckets_ascending buckets)
        (orderedBuckets_positive buckets) order first second
      rwa [exactValue, exactValue, first, second]

theorem percentileIn_of_empty {K : Type} (arithmetic : Arithmetic K) {buckets : List (ℤ × ℤ)}
    (empty : totalCount buckets ≤ 0) (q : K) : percentileIn arithmetic buckets q = none :=
  if_pos empty

/-! ## Order -/

structure OrderedPercentiles (buckets : List (ℤ × ℤ)) : Prop where
  absent : (∀ q, 0 ≤ q → q ≤ 1 → percentileIn exact buckets q = none) ↔ totalCount buckets = 0
  ordered : totalCount buckets ≠ 0 → ∀ q₁ q₂, 0 ≤ q₁ → q₁ ≤ q₂ → q₂ ≤ 1 →
    ∃ low high, percentileIn exact buckets q₁ = some low ∧
      percentileIn exact buckets q₂ = some high ∧ low ≤ high ∧ high ≤ 1000

theorem ValidBuckets.orderedPercentiles {buckets : List (ℤ × ℤ)} (valid : ValidBuckets buckets) :
    OrderedPercentiles buckets := by
  have nonneg := valid.totalCount_nonneg
  constructor
  · constructor
    · intro absent
      by_contra counted
      have found := valid.percentileIn_exact (lt_of_le_of_ne nonneg (Ne.symm counted)) le_rfl
      rw [absent 1 zero_le_one le_rfl] at found
      cases found
    · intro empty q _ _
      exact percentileIn_of_empty exact (le_of_eq empty) q
  · intro counted q₁ q₂ _ order at_most
    have positive := lt_of_le_of_ne nonneg (Ne.symm counted)
    have ranks : q₁ * totalCount buckets ≤ q₂ * totalCount buckets :=
      mul_le_mul_of_nonneg_right order (Int.cast_nonneg nonneg)
    refine ⟨_, _, valid.percentileIn_exact positive (order.trans at_most),
      valid.percentileIn_exact positive at_most, roundU64_mono (exactValue_mono buckets ranks), ?_⟩
    have last : roundU64 1000 = 1000 := by decide +kernel
    exact (roundU64_mono (exactValue_le buckets _)).trans (le_of_eq last)

/-! ## The reported groups -/

def UsageLatencyRow.bucket (row : UsageLatencyRow) : ℤ × ℤ := (row.bucketLeMs, row.requestCount)

/-- All three percentiles of a date or none, in order. -/
def OrderedGroup (trends : List LatencyTrend) : Prop :=
  trends = [] ∨ ∃ date p50 p95 p99,
    trends =
      [{ date, percentile := "p50", valueMs := p50 }, { date, percentile := "p95", valueMs := p95 },
        { date, percentile := "p99", valueMs := p99 }] ∧
    p50 ≤ p95 ∧ p95 ≤ p99

/-- The buckets that a date's percentiles are computed from. -/
def bucketsOf (rows : List UsageLatencyRow) (dated : Bool) (date : Option String) :
    List (ℤ × ℤ) :=
  (rows.filter fun row => datedDay dated row.day = date).map UsageLatencyRow.bucket

section

variable {K : Type} (arithmetic : Arithmetic K) (quantiles : List (String × K))

def groupTrends (date : Option String) (buckets : List (ℤ × ℤ)) : List LatencyTrend :=
  quantiles.filterMap fun (label, q) =>
    (percentileIn arithmetic buckets q).map fun valueMs => { date, percentile := label, valueMs }

variable {arithmetic quantiles}

theorem groupTrends_date {date : Option String} {buckets : List (ℤ × ℤ)} {trend : LatencyTrend}
    (member : trend ∈ groupTrends arithmetic quantiles date buckets) : trend.date = date := by
  obtain ⟨⟨label, q⟩, _, found⟩ := List.mem_filterMap.mp member
  obtain ⟨valueMs, _, rfl⟩ := Option.map_eq_some_iff.mp found
  rfl

/-- A date without requests is not reported. -/
theorem groupTrends_of_empty {date : Option String} {buckets : List (ℤ × ℤ)}
    (empty : totalCount buckets ≤ 0) : groupTrends arithmetic quantiles date buckets = [] := by
  apply List.filterMap_eq_nil_iff.mpr
  intro quantile _
  obtain ⟨label, q⟩ := quantile
  simp only [percentileIn_of_empty arithmetic empty q, Option.map_none]

theorem lookup_buckets (rows : List UsageLatencyRow) (dated : Bool) (date : Option String) :
    ((Dict.accumulate (fun row : UsageLatencyRow => datedDay dated row.day) []
        (fun buckets row => buckets ++ [(row.bucketLeMs, row.requestCount)]) ∅ rows).lookup
      date).getD [] = bucketsOf rows dated date := by
  rw [Dict.getD_lookup_accumulate, List.foldl_append_eq_append]
  exact List.map_eq_flatMap.symm

/-- What is reported of a date. -/
theorem aggregateLatencyIn_filter (hash : Arrangement) (rows : List UsageLatencyRow) (dated : Bool)
    (date : Option String) :
    ((aggregateLatencyIn arithmetic quantiles hash rows dated).filter
        fun trend => trend.date = date) =
      groupTrends arithmetic quantiles date (bucketsOf rows dated date) := by
  let grouped : Dict (Option String) (List (ℤ × ℤ)) :=
    Dict.accumulate (fun row : UsageLatencyRow => datedDay dated row.day) []
      (fun buckets row => buckets ++ [(row.bucketLeMs, row.requestCount)]) ∅ rows
  let dates := ((hash.iterate grouped).map Prod.fst).mergeSort
    fun one two => (compare one two).isLE
  have keys : dates.Perm grouped.keys := by
    have listed := (hash.iterate_perm grouped).map Prod.fst
    rw [Dict.pairs, List.map_map] at listed
    exact (List.mergeSort_perm _ _).trans listed
  have lookup : (grouped.lookup date).getD [] = bucketsOf rows dated date :=
    lookup_buckets rows dated date
  have own : ∀ one ∈ dates,
      ∀ trend ∈ groupTrends arithmetic quantiles one ((grouped.lookup one).getD []),
        trend.date = one := fun _ _ _ => groupTrends_date
  refine (filter_flatMap_of_nodup (keys.nodup_iff.mpr grouped.keys_nodup) own date).trans ?_
  rw [lookup]
  split
  · rfl
  · rename_i absent
    have missing : grouped.lookup date = none :=
      AList.lookup_eq_none.mpr fun stored => absent (keys.mem_iff.mpr stored)
    rw [missing] at lookup
    rw [← lookup]
    exact (groupTrends_of_empty (le_refl 0)).symm

end

theorem percentiles_ordered {buckets : List (ℤ × ℤ)} (valid : ValidBuckets buckets) :
    OrderedPercentiles buckets ∧
      ∀ (hash : Arrangement) (rows : List UsageLatencyRow) (dated : Bool),
        rows.map UsageLatencyRow.bucket = buckets →
        ∀ date, OrderedGroup ((aggregateLatencyIn exact exactQuantiles hash rows dated).filter
          fun trend => trend.date = date) := by
  refine ⟨valid.orderedPercentiles, ?_⟩
  intro hash rows dated given date
  rw [aggregateLatencyIn_filter]
  have validDate : ValidBuckets (bucketsOf rows dated date) := by
    have among : ∀ bucket ∈ bucketsOf rows dated date, bucket ∈ buckets := by
      intro bucket member
      obtain ⟨row, inside, rfl⟩ := List.mem_map.mp member
      exact given ▸ List.mem_map_of_mem (List.mem_of_mem_filter inside)
    exact ⟨fun bucket member => valid.bounds bucket (among bucket member),
      fun bucket member => valid.counts bucket (among bucket member)⟩
  by_cases empty : totalCount (bucketsOf rows dated date) = 0
  · exact Or.inl (groupTrends_of_empty (le_of_eq empty))
  · right
    have ordered := validDate.orderedPercentiles.ordered empty
    obtain ⟨p50, p95, at50, at95, low, _⟩ := ordered (50 / 100) (95 / 100) (by norm_num)
      (by norm_num) (by norm_num)
    obtain ⟨p95', p99, at95', at99, high, _⟩ := ordered (95 / 100) (99 / 100) (by norm_num)
      (by norm_num) (by norm_num)
    cases Option.some.inj (at95.symm.trans at95')
    refine ⟨date, p50, p95, p99, ?_, low, high⟩
    simp [groupTrends, exactQuantiles, at50, at95, at99]

/-- Two days of one tenant, the buckets in no order. -/
def twoDays : List UsageLatencyRow :=
  [{ day := "2025-10-09", bucketLeMs := 10, requestCount := 3 },
    { day := "2025-10-10", bucketLeMs := bucketOverflow, requestCount := 1 },
    { day := "2025-10-10", bucketLeMs := 5, requestCount := 4 },
    { day := "2025-10-09", bucketLeMs := 10, requestCount := 2 }]

theorem percentiles_ordered_for_two_days :
    ∃ buckets, ValidBuckets buckets ∧ OrderedPercentiles buckets ∧ totalCount buckets = 10 ∧
      ∀ hash date, OrderedGroup ((aggregateLatencyIn exact exactQuantiles hash twoDays true).filter
        fun trend => trend.date = date) := by
  have valid : ValidBuckets (twoDays.map UsageLatencyRow.bucket) := ⟨by decide, by decide⟩
  obtain ⟨ordered, groups⟩ := percentiles_ordered valid
  exact ⟨_, valid, ordered, by decide, fun hash date => groups hash twoDays true rfl date⟩

end SpellServer
