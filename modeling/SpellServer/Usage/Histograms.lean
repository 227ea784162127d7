import SpellServer.Usage.Percentile

/-!
# Split and padded histograms

A bound may come with several rows, one for each day, or with none.  In exact
arithmetic the value within a bucket depends on the first of its rows alone, and
on the last bound below it that has a row.
-/

namespace SpellServer

open Library

/-- The counts of a bound, in the order of its rows. -/
def countsAt (buckets : List (ℤ × ℤ)) (bound : ℤ) : List ℤ :=
  (buckets.filter fun bucket => bucket.1 = bound).map Prod.snd

def countAt (buckets : List (ℤ × ℤ)) (bound : ℤ) : ℤ := (countsAt buckets bound).sum

def firstCount (buckets : List (ℤ × ℤ)) (bound : ℤ) : ℤ := (countsAt buckets bound).headD 0

def countBelow (buckets : List (ℤ × ℤ)) (bound : ℤ) : ℤ :=
  ((latencyBucketsMs.filter (· < bound)).map (countAt buckets)).sum

/-- The last bound below that has a row. -/
def lowerEdge (buckets : List (ℤ × ℤ)) (bound : ℤ) : ℤ :=
  Ladder.preceding 0 (latencyBucketsMs.filter fun other => other ∈ buckets.map Prod.fst) bound

/-- The exact value a distance into a bucket. -/
def valueAt (buckets : List (ℤ × ℤ)) (bound : ℤ) (distance : ℚ) : ℚ :=
  if firstCount buckets bound = 0 then bound
  else between (lowerEdge buckets bound : ℚ) bound (distance / firstCount buckets bound)

variable {buckets one two : List (ℤ × ℤ)} {bound : ℤ}

theorem countAt_of_absent (absent : bound ∉ buckets.map Prod.fst) : countAt buckets bound = 0 := by
  unfold countAt countsAt
  rw [List.filter_eq_nil_iff.mpr, List.map_nil, List.sum_nil]
  intro bucket member same
  exact absent (of_decide_eq_true same ▸ List.mem_map_of_mem member)

theorem hit_of_counted (counted : 0 < countAt buckets bound) : bound ∈ buckets.map Prod.fst := by
  by_contra absent
  rw [countAt_of_absent absent] at counted
  exact absurd counted (lt_irrefl 0)

theorem lowerEdge_bounds (buckets : List (ℤ × ℤ)) (member : bound ∈ latencyBucketsMs) :
    0 ≤ lowerEdge buckets bound ∧ lowerEdge buckets bound < bound := by
  have bounded := latencyBucketsMs_bounded bound member
  have edge := Ladder.preceding_cases 0
    (latencyBucketsMs.filter fun other => other ∈ buckets.map Prod.fst) bound
  rcases edge with start | ⟨among, less⟩
  · unfold lowerEdge
    omega
  · have edgeBounded := latencyBucketsMs_bounded _ (List.mem_of_mem_filter among)
    unfold lowerEdge
    omega

/-! ## The rows below a bound -/

def rowsBelow (buckets : List (ℤ × ℤ)) (bound : ℤ) : List (ℤ × ℤ) :=
  (latencyBucketsMs.filter (· < bound)).flatMap fun other =>
    buckets.filter fun bucket => bucket.1 = other

theorem totalCount_flatMap (bounds : List ℤ) :
    totalCount (bounds.flatMap fun other => buckets.filter fun bucket => bucket.1 = other) =
      (bounds.map (countAt buckets)).sum := by
  induction bounds with
  | nil => rfl
  | cons first rest induction =>
      unfold totalCount at induction ⊢
      rw [List.flatMap_cons, List.map_append, List.sum_append, induction, List.map_cons,
        List.sum_cons]
      rfl

theorem totalCount_rowsBelow : totalCount (rowsBelow buckets bound) = countBelow buckets bound :=
  totalCount_flatMap _

theorem countBelow_of_split {before after : List ℤ}
    (parts : latencyBucketsMs = before ++ bound :: after) :
    countBelow buckets bound = (before.map (countAt buckets)).sum := by
  have sorted := latencyBucketsMs_sorted
  rw [parts] at sorted
  rw [countBelow, parts, Ladder.filter_lt_of_split sorted]

theorem totalCount_orderedBuckets :
    totalCount (orderedBuckets buckets) = (latencyBucketsMs.map (countAt buckets)).sum :=
  totalCount_flatMap _

theorem overflowCount_eq : overflowCount buckets = countAt buckets bucketOverflow := rfl

/-- The walk comes to a bound with the last bound below it that has a row. -/
theorem last_rowsBelow :
    ((rowsBelow buckets bound).map Prod.fst).getLastD 0 = lowerEdge buckets bound := by
  unfold rowsBelow lowerEdge Ladder.preceding
  rw [Ladder.getLastD_flatMap, List.filter_filter, List.filter_filter]
  · congr 1
    apply List.filter_congr
    intro other _
    have listed : (buckets.filter fun bucket => bucket.1 = other) ≠ [] ↔
        other ∈ buckets.map Prod.fst := by
      simp [List.filter_eq_nil_iff]
    rw [Bool.and_comm, decide_eq_decide.mpr listed]
  · intro other bucket member
    exact of_decide_eq_true (List.mem_filter.mp member).2

theorem orderedBuckets_split (buckets : List (ℤ × ℤ)) (member : bound ∈ latencyBucketsMs) :
    ∃ rest, orderedBuckets buckets =
      rowsBelow buckets bound ++ ((buckets.filter fun bucket => bucket.1 = bound) ++ rest) := by
  obtain ⟨before, after, parts⟩ := List.append_of_mem member
  have sorted := latencyBucketsMs_sorted
  unfold orderedBuckets rowsBelow
  rw [parts] at sorted ⊢
  rw [Ladder.filter_lt_of_split sorted, List.flatMap_append, List.flatMap_cons]
  exact ⟨_, rfl⟩

namespace ValidBuckets

theorem countAt_nonneg (valid : ValidBuckets buckets) (bound : ℤ) : 0 ≤ countAt buckets bound :=
  (valid.filter _).totalCount_nonneg

theorem rowsBelow_counts (valid : ValidBuckets buckets) (bound : ℤ) :
    ∀ row ∈ (rowsBelow buckets bound).map asRational, 0 ≤ row.2 := by
  intro row member
  obtain ⟨bucket, among, rfl⟩ := List.mem_map.mp member
  obtain ⟨other, _, inside⟩ := List.mem_flatMap.mp among
  exact Int.cast_nonneg (valid.counts bucket (List.mem_of_mem_filter inside))

theorem firstCount_bounds (valid : ValidBuckets buckets) (bound : ℤ) :
    0 ≤ firstCount buckets bound ∧ firstCount buckets bound ≤ countAt buckets bound := by
  have counts : ∀ count ∈ countsAt buckets bound, 0 ≤ count := by
    intro count member
    obtain ⟨bucket, among, rfl⟩ := List.mem_map.mp member
    exact valid.counts bucket (List.mem_of_mem_filter among)
  unfold firstCount countAt
  cases rows : countsAt buckets bound with
  | nil => simp
  | cons first rest =>
      rw [rows] at counts
      have later := List.sum_nonneg fun count member => counts count (List.mem_cons_of_mem _ member)
      rw [List.headD_cons, List.sum_cons]
      exact ⟨counts first List.mem_cons_self, by omega⟩

/-- The value at a rank that lies in a bucket. -/
theorem exactValue_inside (valid : ValidBuckets buckets) (member : bound ∈ latencyBucketsMs)
    (counted : 0 < countAt buckets bound) {distance : ℚ}
    (reached : distance ≤ countAt buckets bound)
    (inside : 0 < distance ∨ (countBelow buckets bound : ℚ) = 0) :
    exactValue buckets (countBelow buckets bound + distance) = valueAt buckets bound distance := by
  obtain ⟨rest, ordered⟩ := orderedBuckets_split buckets member
  have front_sum : (((rowsBelow buckets bound).map asRational).map Prod.snd).sum =
      (countBelow buckets bound : ℚ) := by
    rw [sum_asRational, totalCount_rowsBelow]
  have front_last : (((rowsBelow buckets bound).map asRational).map Prod.fst).getLastD 0 =
      (lowerEdge buckets bound : ℚ) := by
    have casts : ((rowsBelow buckets bound).map asRational).map Prod.fst =
        ((rowsBelow buckets bound).map Prod.fst).map Int.cast := by
      rw [List.map_map, List.map_map]
      rfl
    rw [← last_rowsBelow, casts, List.getLastD_eq_getLast?, List.getLastD_eq_getLast?,
      List.getLast?_map, ← Int.cast_zero, Option.getD_map]
  have passed : (∀ row ∈ (rowsBelow buckets bound).map asRational, row.2 = 0) ∨
      0 + (((rowsBelow buckets bound).map asRational).map Prod.snd).sum <
        (countBelow buckets bound : ℚ) + distance := by
    rw [front_sum]
    rcases inside with positive | nothing
    · exact Or.inr (by linarith)
    · rw [← front_sum] at nothing
      exact Or.inl (counts_eq_zero_of_sum (valid.rowsBelow_counts bound) nothing)
  cases rows : buckets.filter fun bucket => bucket.1 = bound with
  | nil =>
      have nothing : countAt buckets bound = 0 := by rw [countAt, countsAt, rows]; rfl
      omega
  | cons first others =>
      have among : ∀ bucket ∈ first :: others, bucket ∈ buckets ∧ bucket.1 = bound := by
        intro bucket listed
        rw [← rows] at listed
        obtain ⟨given, same⟩ := List.mem_filter.mp listed
        exact ⟨given, of_decide_eq_true same⟩
      have head : firstCount buckets bound = first.2 := by rw [firstCount, countsAt, rows]; rfl
      have sum : (countAt buckets bound : ℚ) =
          first.2 + ((others.map asRational).map Prod.snd).sum := by
        rw [sum_asRational, countAt, countsAt, rows, List.map_cons, List.sum_cons, Int.cast_add]
        rfl
      have named : asRational first = ((bound : ℚ), (first.2 : ℚ)) := by
        rw [asRational, (among first List.mem_cons_self).2]
      have counts : ∀ row ∈ first :: others, 0 ≤ row.2 :=
        fun row listed => valid.counts row (among row listed).1
      have walk : interpolate ((countBelow buckets bound : ℚ) + distance)
          (((bound : ℚ), (first.2 : ℚ)) :: others.map asRational ++ rest.map asRational)
          (countBelow buckets bound : ℚ) (lowerEdge buckets bound : ℚ) =
          some (if (first.2 : ℚ) = 0 then (bound : ℚ)
            else between (lowerEdge buckets bound : ℚ) bound (distance / first.2)) := by
        apply interpolate_first
        · intro row listed
          obtain ⟨bucket, later, rfl⟩ := List.mem_map.mp listed
          exact congrArg Int.cast (among bucket (List.mem_cons_of_mem _ later)).2
        · intro row listed
          obtain ⟨bucket, later, rfl⟩ := List.mem_map.mp listed
          exact Int.cast_nonneg (counts bucket (List.mem_cons_of_mem _ later))
        · exact Int.cast_nonneg (counts first List.mem_cons_self)
        · rw [← sum]
          exact Int.cast_pos.mpr counted
        · rw [← sum]
          exact reached
      unfold exactValue valueAt
      rw [ordered, rows, List.map_append, List.map_append, List.map_cons, named,
        interpolate_append (valid.rowsBelow_counts bound) passed, front_sum, front_last, zero_add,
        walk, head, Option.getD_some]
      simp only [Int.cast_eq_zero]

/-- Above the ladder there is only its last bound. -/
theorem exactValue_above (valid : ValidBuckets buckets) {rank : ℚ}
    (above : (totalCount (orderedBuckets buckets) : ℚ) < rank ∨
      (totalCount (orderedBuckets buckets) : ℚ) = 0) : exactValue buckets rank = 1000 := by
  have counts := valid.ordered_counts
  have passed : (∀ row ∈ (orderedBuckets buckets).map asRational, row.2 = 0) ∨
      0 + (((orderedBuckets buckets).map asRational).map Prod.snd).sum < rank := by
    rw [sum_asRational, zero_add]
    rcases above with short | nothing
    · exact Or.inr short
    · rw [← sum_asRational] at nothing
      exact Or.inl (counts_eq_zero_of_sum counts nothing)
  have walk : interpolate rank ((orderedBuckets buckets).map asRational ++ []) 0 0 = _ :=
    interpolate_append counts passed
  rw [List.append_nil] at walk
  rw [exactValue, walk]
  rfl

/-- A rank lies in a bucket or above the ladder. -/
theorem rank_cases (valid : ValidBuckets buckets) {rank : ℚ} (nonneg : 0 ≤ rank) :
    (∃ bound ∈ latencyBucketsMs, ∃ distance : ℚ, 0 < countAt buckets bound ∧
      distance ≤ countAt buckets bound ∧ rank = countBelow buckets bound + distance ∧
      (0 < distance ∨ (countBelow buckets bound : ℚ) = 0)) ∨
    (totalCount (orderedBuckets buckets) : ℚ) < rank ∨
      (totalCount (orderedBuckets buckets) : ℚ) = 0 := by
  have sum : (totalCount (orderedBuckets buckets) : ℚ) =
      (latencyBucketsMs.map fun bound => (countAt buckets bound : ℚ)).sum := by
    rw [totalCount_orderedBuckets, Int.cast_list_sum, List.map_map]
    rfl
  have counts : ∀ bound ∈ latencyBucketsMs, (0 : ℚ) ≤ countAt buckets bound :=
    fun bound _ => Int.cast_nonneg (valid.countAt_nonneg bound)
  by_cases above : (totalCount (orderedBuckets buckets) : ℚ) < rank ∨
      (totalCount (orderedBuckets buckets) : ℚ) = 0
  · exact Or.inr above
  · left
    obtain ⟨reached, counted⟩ := not_or.mp above
    have positive : (0 : ℚ) < totalCount (orderedBuckets buckets) := by
      apply lt_of_le_of_ne _ (Ne.symm counted)
      rw [sum]
      apply List.sum_nonneg
      intro count member
      obtain ⟨bound, among, rfl⟩ := List.mem_map.mp member
      exact counts bound among
    rw [sum] at positive reached
    obtain ⟨before, bound, after, distance, parts, inside, covers, same, started⟩ :=
      rank_inside counts nonneg positive (not_lt.mp reached)
    have below : (countBelow buckets bound : ℚ) =
        (before.map fun bound => (countAt buckets bound : ℚ)).sum := by
      rw [countBelow_of_split parts, Int.cast_list_sum, List.map_map]
      rfl
    rw [← below] at same started
    have member : bound ∈ latencyBucketsMs := by
      rw [parts]
      exact List.mem_append_right _ List.mem_cons_self
    exact ⟨bound, member, distance, Int.cast_pos.mp inside, covers, same, started⟩

end ValidBuckets

/-! ## Ranks of a bucket -/

def rankFraction (buckets : List (ℤ × ℤ)) (bound : ℤ) (distance : ℚ) : ℚ :=
  (countBelow buckets bound + distance) / totalCount buckets

namespace ValidBuckets

theorem countBelow_nonneg (valid : ValidBuckets buckets) (bound : ℤ) :
    0 ≤ countBelow buckets bound := by
  apply List.sum_nonneg
  intro count member
  obtain ⟨other, _, rfl⟩ := List.mem_map.mp member
  exact valid.countAt_nonneg other

theorem countBelow_add_le (valid : ValidBuckets buckets) (member : bound ∈ latencyBucketsMs) :
    countBelow buckets bound + countAt buckets bound ≤ totalCount buckets := by
  obtain ⟨before, after, parts⟩ := List.append_of_mem member
  have above : 0 ≤ (after.map (countAt buckets)).sum := by
    apply List.sum_nonneg
    intro count listed
    obtain ⟨other, _, rfl⟩ := List.mem_map.mp listed
    exact valid.countAt_nonneg other
  have overflow := valid.overflowCount_nonneg
  rw [valid.totalCount_split, totalCount_orderedBuckets, countBelow_of_split parts, parts,
    List.map_append, List.sum_append, List.map_cons, List.sum_cons]
  omega

theorem rankFraction_bounds (valid : ValidBuckets buckets) (member : bound ∈ latencyBucketsMs)
    {distance : ℚ} (positive : 0 < distance) (covers : distance ≤ countAt buckets bound) :
    0 < rankFraction buckets bound distance ∧ rankFraction buckets bound distance ≤ 1 ∧
      rankFraction buckets bound distance * totalCount buckets =
        countBelow buckets bound + distance := by
  have below : (0 : ℚ) ≤ countBelow buckets bound := Int.cast_nonneg (valid.countBelow_nonneg bound)
  have most : (countBelow buckets bound : ℚ) + countAt buckets bound ≤ totalCount buckets := by
    exact_mod_cast valid.countBelow_add_le member
  have total : (0 : ℚ) < totalCount buckets := by linarith
  unfold rankFraction
  refine ⟨div_pos (by linarith) total, (div_le_one total).mpr (by linarith), ?_⟩
  exact div_mul_cancel₀ _ (ne_of_gt total)

/-- The percentile at a rank of a bucket. -/
theorem percentileIn_inside (valid : ValidBuckets buckets) (member : bound ∈ latencyBucketsMs)
    {distance : ℚ} (positive : 0 < distance) (covers : distance ≤ countAt buckets bound) :
    percentileIn exact buckets (rankFraction buckets bound distance) =
      some (roundU64 (valueAt buckets bound distance)) := by
  obtain ⟨_, most, rank⟩ := valid.rankFraction_bounds member positive covers
  have counted : 0 < countAt buckets bound := Int.cast_pos.mp (positive.trans_le covers)
  have below := valid.countBelow_nonneg bound
  have total := valid.countBelow_add_le member
  rw [valid.percentileIn_exact (by omega) most, rank,
    valid.exactValue_inside member counted covers (Or.inl positive)]

end ValidBuckets

theorem roundU64_near (edge : ℤ) {value : ℚ} (nonneg : 0 ≤ edge) (bounded : edge ≤ 1000)
    (least : (edge : ℚ) - 1 / 2 ≤ value) (most : value < (edge : ℚ) + 1 / 2) :
    roundU64 value = edge.toNat := by
  have floor : ⌊value + 1 / 2⌋ = edge :=
    Int.floor_eq_iff.mpr ⟨by linarith, by linarith⟩
  unfold roundU64
  rw [floor]
  omega

theorem valueAt_of_le {distance : ℚ} (counted : 0 < firstCount buckets bound)
    (nonneg : 0 ≤ distance) (first : distance ≤ firstCount buckets bound) :
    valueAt buckets bound distance = lowerEdge buckets bound +
      (bound - lowerEdge buckets bound) * (distance / firstCount buckets bound) := by
  have width : (0 : ℚ) < firstCount buckets bound := Int.cast_pos.mpr counted
  rw [valueAt, if_neg (ne_of_gt counted)]
  exact between_of_unit (div_nonneg nonneg (le_of_lt width)) ((div_le_one width).mpr first)

/-- Where the values of a bucket begin. -/
def startOf (buckets : List (ℤ × ℤ)) (bound : ℤ) : ℤ :=
  if firstCount buckets bound = 0 then bound else lowerEdge buckets bound

/-- A step this small rounds to the start of any bucket. -/
def smallStep : ℚ := 1 / 4000

theorem ValidBuckets.roundU64_start (valid : ValidBuckets buckets)
    (member : bound ∈ latencyBucketsMs) :
    roundU64 (valueAt buckets bound smallStep) = (startOf buckets bound).toNat := by
  have bounded := latencyBucketsMs_bounded bound member
  obtain ⟨edge_nonneg, edge_less⟩ := lowerEdge_bounds buckets member
  unfold startOf
  split
  · rename_i empty
    rw [valueAt, if_pos empty]
    exact roundU64_near bound (by omega) bounded.2 (by linarith) (by linarith)
  · rename_i counted
    have positive : 0 < firstCount buckets bound :=
      lt_of_le_of_ne (valid.firstCount_bounds bound).1 (Ne.symm counted)
    have one_le : (1 : ℚ) ≤ firstCount buckets bound := by exact_mod_cast positive
    have narrow : (bound : ℚ) - lowerEdge buckets bound ≤ 1000 := by
      have most : bound - lowerEdge buckets bound ≤ 1000 := by omega
      exact_mod_cast most
    have wide : (0 : ℚ) ≤ (bound : ℚ) - lowerEdge buckets bound := by
      have least : 0 ≤ bound - lowerEdge buckets bound := by omega
      exact_mod_cast least
    have fraction : smallStep / firstCount buckets bound ≤ 1 / 4000 := by
      rw [div_le_iff₀ (by linarith)]
      unfold smallStep
      linarith
    have fraction_nonneg : 0 ≤ smallStep / firstCount buckets bound := by
      unfold smallStep
      positivity
    have small : (bound - lowerEdge buckets bound) * (smallStep / firstCount buckets bound) ≤
        (1000 : ℚ) * (1 / 4000) := mul_le_mul narrow fraction fraction_nonneg (by norm_num)
    have least := mul_nonneg wide fraction_nonneg
    have first : smallStep ≤ firstCount buckets bound := by
      unfold smallStep
      linarith
    rw [valueAt_of_le positive (by unfold smallStep; norm_num) first]
    exact roundU64_near _ edge_nonneg (by omega) (by linarith) (by linarith)

/-! ## Histograms with the same totals -/

/-- However the counts are split over rows. -/
def SameTotals (one two : List (ℤ × ℤ)) : Prop := ∀ bound, countAt one bound = countAt two bound

/-- Each bound that counts comes with the same first row, and with the same bound
below it unless that row is empty. -/
def SameShape (one two : List (ℤ × ℤ)) : Prop :=
  ∀ bound ∈ latencyBucketsMs, 0 < countAt one bound →
    firstCount one bound = firstCount two bound ∧
      (firstCount one bound = 0 ∨ lowerEdge one bound = lowerEdge two bound)

theorem SameTotals.of_perm (perm : one.Perm two) : SameTotals one two :=
  fun _ => ((perm.filter _).map Prod.snd).sum_eq

theorem SameTotals.countBelow_eq (same : SameTotals one two) (bound : ℤ) :
    countBelow one bound = countBelow two bound := by
  unfold countBelow
  rw [List.map_congr_left fun other _ => same other]

theorem SameTotals.ordered_eq (same : SameTotals one two) :
    totalCount (orderedBuckets one) = totalCount (orderedBuckets two) := by
  rw [totalCount_orderedBuckets, totalCount_orderedBuckets,
    List.map_congr_left fun other _ => same other]

theorem SameTotals.total_eq (same : SameTotals one two) (validOne : ValidBuckets one)
    (validTwo : ValidBuckets two) : totalCount one = totalCount two := by
  rw [validOne.totalCount_split, validTwo.totalCount_split, same.ordered_eq, overflowCount_eq,
    overflowCount_eq, same bucketOverflow]

theorem SameShape.exactValue_eq (shape : SameShape one two) (same : SameTotals one two)
    (validOne : ValidBuckets one) (validTwo : ValidBuckets two) {rank : ℚ} (nonneg : 0 ≤ rank) :
    exactValue one rank = exactValue two rank := by
  rcases validOne.rank_cases nonneg with inside | above
  · obtain ⟨bound, member, distance, counted, covers, at_rank, started⟩ := inside
    obtain ⟨first, edge⟩ := shape bound member counted
    have values : valueAt one bound distance = valueAt two bound distance := by
      unfold valueAt
      rw [← first]
      by_cases empty : firstCount one bound = 0
      · rw [if_pos empty, if_pos empty]
      · rw [if_neg empty, if_neg empty, edge.resolve_left empty]
    rw [at_rank, validOne.exactValue_inside member counted covers started, values,
      same.countBelow_eq bound]
    rw [same bound] at counted covers
    rw [same.countBelow_eq bound] at started
    exact (validTwo.exactValue_inside member counted covers started).symm
  · rw [validOne.exactValue_above above]
    rw [same.ordered_eq] at above
    exact (validTwo.exactValue_above above).symm

theorem SameShape.percentileIn_eq (shape : SameShape one two) (same : SameTotals one two)
    (validOne : ValidBuckets one) (validTwo : ValidBuckets two) {q : ℚ} (least : 0 ≤ q)
    (most : q ≤ 1) : percentileIn exact one q = percentileIn exact two q := by
  have total := same.total_eq validOne validTwo
  by_cases empty : totalCount one ≤ 0
  · rw [percentileIn_of_empty exact empty, percentileIn_of_empty exact (total ▸ empty)]
  · have counted := not_le.mp empty
    have nonneg : 0 ≤ q * totalCount one := mul_nonneg least (Int.cast_nonneg (le_of_lt counted))
    rw [validOne.percentileIn_exact counted most,
      validTwo.percentileIn_exact (total ▸ counted) most,
      shape.exactValue_eq same validOne validTwo nonneg, total]

/-- Half a millisecond into a bucket tells its first count from any larger one. -/
theorem ValidBuckets.first_not_less (validOne : ValidBuckets one) (member : bound ∈ latencyBucketsMs)
    (counted : 0 < firstCount one bound) (edge : lowerEdge one bound = lowerEdge two bound)
    (equal : ∀ distance : ℚ, 0 < distance → distance ≤ countAt one bound →
      roundU64 (valueAt one bound distance) = roundU64 (valueAt two bound distance)) :
    ¬firstCount one bound < firstCount two bound := by
  intro less
  obtain ⟨edge_nonneg, edge_less⟩ := lowerEdge_bounds one member
  have bounded := latencyBucketsMs_bounded bound member
  have width : (1 : ℚ) ≤ (bound : ℚ) - lowerEdge one bound := by
    have least : 1 ≤ bound - lowerEdge one bound := by omega
    exact_mod_cast least
  have one_pos : (0 : ℚ) < firstCount one bound := Int.cast_pos.mpr counted
  have two_less : (firstCount one bound : ℚ) < firstCount two bound := Int.cast_lt.mpr less
  have total : (firstCount one bound : ℚ) ≤ countAt one bound :=
    Int.cast_le.mpr (validOne.firstCount_bounds bound).2
  let half : ℚ := firstCount one bound / (2 * (bound - lowerEdge one bound))
  have half_pos : 0 < half := div_pos one_pos (by linarith)
  have half_le : half ≤ firstCount one bound := div_le_self (le_of_lt one_pos) (by linarith)
  have same := equal half half_pos (half_le.trans total)
  have first : (bound - lowerEdge one bound) * (half / firstCount one bound) = (1 / 2 : ℚ) := by
    simp only [half]
    field_simp
  have second : (bound - lowerEdge one bound) * (half / firstCount two bound) < (1 / 2 : ℚ) := by
    rw [← first]
    apply mul_lt_mul_of_pos_left _ (by linarith)
    exact div_lt_div_of_pos_left half_pos one_pos two_less
  have second_nonneg : (0 : ℚ) ≤ (bound - lowerEdge one bound) * (half / firstCount two bound) :=
    mul_nonneg (by linarith) (div_nonneg (le_of_lt half_pos) (by linarith))
  rw [valueAt_of_le counted (le_of_lt half_pos) half_le,
    valueAt_of_le (counted.trans less) (le_of_lt half_pos) (by linarith), ← edge, first,
    roundU64_near (lowerEdge one bound + 1) (by omega) (by omega)
      (by push_cast; linarith) (by push_cast; linarith),
    roundU64_near (lowerEdge one bound) edge_nonneg (by omega) (by linarith)
      (by linarith)] at same
  omega

theorem SameShape.of_percentileIn (same : SameTotals one two) (validOne : ValidBuckets one)
    (validTwo : ValidBuckets two)
    (equal : ∀ q, 0 < q → q ≤ 1 → percentileIn exact one q = percentileIn exact two q) :
    SameShape one two := by
  have total := same.total_eq validOne validTwo
  intro bound member counted
  have rounded : ∀ distance : ℚ, 0 < distance → distance ≤ countAt one bound →
      roundU64 (valueAt one bound distance) = roundU64 (valueAt two bound distance) := by
    intro distance positive covers
    obtain ⟨least, most, _⟩ := validOne.rankFraction_bounds member positive covers
    have fractions : rankFraction one bound distance = rankFraction two bound distance := by
      rw [rankFraction, rankFraction, same.countBelow_eq, total]
    have first := validOne.percentileIn_inside member positive covers
    have second := validTwo.percentileIn_inside member positive (same bound ▸ covers)
    rw [equal _ least most, fractions, second] at first
    exact (Option.some.inj first).symm
  have starts : startOf one bound = startOf two bound := by
    have one_le : (1 : ℚ) ≤ countAt one bound := by exact_mod_cast counted
    have small := rounded smallStep (by unfold smallStep; norm_num)
      (by unfold smallStep; linarith)
    rw [validOne.roundU64_start member, validTwo.roundU64_start member] at small
    have bounded := latencyBucketsMs_bounded bound member
    have edgeOne := lowerEdge_bounds one member
    have edgeTwo := lowerEdge_bounds two member
    unfold startOf at small ⊢
    split at small <;> split at small <;> omega
  have edgeOne := lowerEdge_bounds one member
  have edgeTwo := lowerEdge_bounds two member
  have firstOne := validOne.firstCount_bounds bound
  have firstTwo := validTwo.firstCount_bounds bound
  unfold startOf at starts
  by_cases emptyOne : firstCount one bound = 0
  · rw [if_pos emptyOne] at starts
    have emptyTwo : firstCount two bound = 0 := by
      by_contra countedTwo
      rw [if_neg countedTwo] at starts
      omega
    exact ⟨emptyOne.trans emptyTwo.symm, Or.inl emptyOne⟩
  · rw [if_neg emptyOne] at starts
    have countedTwo : firstCount two bound ≠ 0 := by
      intro emptyTwo
      rw [if_pos emptyTwo] at starts
      omega
    rw [if_neg countedTwo] at starts
    have notLess := validOne.first_not_less member (by omega) starts rounded
    have notGreater := validTwo.first_not_less member (by omega) starts.symm
      fun distance positive covers => (rounded distance positive (same bound ▸ covers)).symm
    exact ⟨by omega, Or.inr starts⟩

/-! ## One row for each bound -/

def merged (buckets : List (ℤ × ℤ)) : List (ℤ × ℤ) :=
  (buckets.map Prod.fst).dedup.map fun bound => (bound, countAt buckets bound)

theorem countsAt_merged (buckets : List (ℤ × ℤ)) (bound : ℤ) :
    countsAt (merged buckets) bound =
      if bound ∈ buckets.map Prod.fst then [countAt buckets bound] else [] := by
  have own : ∀ one ∈ (buckets.map Prod.fst).dedup,
      ∀ bucket ∈ [(one, countAt buckets one)], bucket.1 = one := by
    intro one _ bucket member
    rw [List.mem_singleton.mp member]
  have rows := filter_flatMap_of_nodup (List.nodup_dedup _) own bound
  rw [← List.map_eq_flatMap] at rows
  unfold countsAt merged
  rw [rows]
  by_cases listed : bound ∈ buckets.map Prod.fst
  · rw [if_pos (List.mem_dedup.mpr listed), if_pos listed]
    rfl
  · rw [if_neg (mt List.mem_dedup.mp listed), if_neg listed]
    rfl

theorem merged_sameTotals (buckets : List (ℤ × ℤ)) : SameTotals buckets (merged buckets) := by
  intro bound
  rw [countAt.eq_1 (merged buckets), countsAt_merged]
  split
  · exact (List.sum_singleton).symm
  · rename_i absent
    exact countAt_of_absent absent

theorem merged_valid (valid : ValidBuckets buckets) : ValidBuckets (merged buckets) := by
  constructor
  · intro bucket member
    obtain ⟨bound, among, rfl⟩ := List.mem_map.mp member
    obtain ⟨given, listed, rfl⟩ := List.mem_map.mp (List.mem_dedup.mp among)
    exact valid.bounds given listed
  · intro bucket member
    obtain ⟨bound, _, rfl⟩ := List.mem_map.mp member
    exact valid.countAt_nonneg bound

theorem lowerEdge_merged (buckets : List (ℤ × ℤ)) (bound : ℤ) :
    lowerEdge (merged buckets) bound = lowerEdge buckets bound := by
  have bounds : (merged buckets).map Prod.fst = (buckets.map Prod.fst).dedup := by
    unfold merged
    rw [List.map_map]
    exact List.map_id _
  unfold lowerEdge
  rw [bounds]
  simp only [List.mem_dedup]

/-- Merging keeps the percentiles only where the first row of a bound counts all of it. -/
theorem sameShape_merged_iff (buckets : List (ℤ × ℤ)) :
    SameShape buckets (merged buckets) ↔ ∀ bound ∈ latencyBucketsMs,
      0 < countAt buckets bound → firstCount buckets bound = countAt buckets bound := by
  apply forall₃_congr
  intro bound _ counted
  have listed := hit_of_counted counted
  rw [lowerEdge_merged, firstCount.eq_1 (merged buckets), countsAt_merged, if_pos listed,
    List.headD_cons]
  simp

/-! ## Days added up -/

section Aggregate

variable {K : Type} (arithmetic : Arithmetic K) (quantiles : List (String × K))

/-- Without dates there is one group. -/
theorem aggregateLatencyIn_flat (hash : Arrangement) (rows : List UsageLatencyRow) :
    aggregateLatencyIn arithmetic quantiles hash rows false =
      groupTrends arithmetic quantiles none (rows.map UsageLatencyRow.bucket) := by
  have undated : ∀ trend ∈ aggregateLatencyIn arithmetic quantiles hash rows false,
      trend.date = none := by
    intro trend member
    by_contra dated
    have among : trend ∈ (aggregateLatencyIn arithmetic quantiles hash rows false).filter
        fun other => other.date = trend.date := List.mem_filter.mpr ⟨member, decide_eq_true rfl⟩
    have nothing : bucketsOf rows false trend.date = [] := by
      simp [bucketsOf, datedDay, Ne.symm dated]
    rw [aggregateLatencyIn_filter, nothing, groupTrends_of_empty (le_refl 0)] at among
    cases among
  have all : bucketsOf rows false none = rows.map UsageLatencyRow.bucket := by
    simp [bucketsOf, datedDay]
  rw [← all, ← aggregateLatencyIn_filter hash, List.filter_eq_self.mpr]
  intro trend member
  exact decide_eq_true (undated trend member)

end Aggregate

/-- What the server computes for a window without dates does not depend on the order of
its map, in `f64` as in exact arithmetic. -/
theorem aggregateLatency_undated (hash otherHash : Arrangement) (rows : List UsageLatencyRow) :
    aggregateLatency hash rows false = aggregateLatency otherHash rows false := by
  rw [aggregateLatency_eq, aggregateLatency_eq, aggregateLatencyIn_flat, aggregateLatencyIn_flat]

/-- Histograms that no report and no percentile tells apart. -/
structure Additive (rows others : List UsageLatencyRow) : Prop where
  reports : ∀ hash otherHash,
    aggregateLatencyIn exact exactQuantiles hash rows false =
      aggregateLatencyIn exact exactQuantiles otherHash others false
  percentiles : ∀ q, 0 ≤ q → q ≤ 1 →
    percentileIn exact (rows.map UsageLatencyRow.bucket) q =
      percentileIn exact (others.map UsageLatencyRow.bucket) q

theorem SameShape.additive {rows others : List UsageLatencyRow}
    (valid : ValidBuckets (rows.map UsageLatencyRow.bucket))
    (othersValid : ValidBuckets (others.map UsageLatencyRow.bucket))
    (same : SameTotals (rows.map UsageLatencyRow.bucket) (others.map UsageLatencyRow.bucket))
    (shape : SameShape (rows.map UsageLatencyRow.bucket) (others.map UsageLatencyRow.bucket)) :
    Additive rows others := by
  have percentiles : ∀ q, 0 ≤ q → q ≤ 1 →
      percentileIn exact (rows.map UsageLatencyRow.bucket) q =
        percentileIn exact (others.map UsageLatencyRow.bucket) q :=
    fun q least most => shape.percentileIn_eq same valid othersValid least most
  refine ⟨?_, percentiles⟩
  intro hash otherHash
  rw [aggregateLatencyIn_flat, aggregateLatencyIn_flat]
  apply List.filterMap_congr
  intro quantile member
  obtain ⟨label, q⟩ := quantile
  have unit : ∀ quantile ∈ exactQuantiles, 0 ≤ quantile.2 ∧ quantile.2 ≤ 1 := by decide +kernel
  obtain ⟨least, most⟩ := unit _ member
  simp only [percentiles q least most]

/-- A histogram merges as its first rows do. -/
theorem ValidBuckets.merged_percentiles_iff (valid : ValidBuckets buckets) :
    (∀ q, 0 ≤ q → q ≤ 1 → percentileIn exact (merged buckets) q = percentileIn exact buckets q) ↔
      ∀ bound ∈ latencyBucketsMs, 0 < countAt buckets bound →
        firstCount buckets bound = countAt buckets bound := by
  have same := merged_sameTotals buckets
  rw [← sameShape_merged_iff]
  constructor
  · intro equal
    apply SameShape.of_percentileIn same valid (merged_valid valid)
    intro q positive most
    exact (equal q (le_of_lt positive) most).symm
  · intro shape q least most
    exact (shape.percentileIn_eq same valid (merged_valid valid) least most).symm

theorem latency_additive_iff {rows others : List UsageLatencyRow}
    (valid : ValidBuckets (rows.map UsageLatencyRow.bucket))
    (othersValid : ValidBuckets (others.map UsageLatencyRow.bucket))
    (same : SameTotals (rows.map UsageLatencyRow.bucket) (others.map UsageLatencyRow.bucket)) :
    (Additive rows others ↔
      SameShape (rows.map UsageLatencyRow.bucket) (others.map UsageLatencyRow.bucket)) ∧
    ((∀ q, 0 ≤ q → q ≤ 1 → percentileIn exact (merged (rows.map UsageLatencyRow.bucket)) q =
        percentileIn exact (rows.map UsageLatencyRow.bucket) q) ↔
      ∀ bound ∈ latencyBucketsMs, 0 < countAt (rows.map UsageLatencyRow.bucket) bound →
        firstCount (rows.map UsageLatencyRow.bucket) bound =
          countAt (rows.map UsageLatencyRow.bucket) bound) := by
  refine ⟨⟨?_, SameShape.additive valid othersValid same⟩, valid.merged_percentiles_iff⟩
  intro additive
  apply SameShape.of_percentileIn same valid othersValid
  intro q positive most
  exact additive.percentiles q (le_of_lt positive) most

/-- The two days of one tenant, in the order of the ladder. -/
def twoDaysOrdered : List UsageLatencyRow :=
  [{ day := "2025-10-10", bucketLeMs := 5, requestCount := 4 },
    { day := "2025-10-09", bucketLeMs := 10, requestCount := 3 },
    { day := "2025-10-09", bucketLeMs := 10, requestCount := 2 },
    { day := "2025-10-10", bucketLeMs := bucketOverflow, requestCount := 1 }]

theorem latency_additive_for_two_days : Additive twoDays twoDaysOrdered :=
  (latency_additive_iff ⟨by decide, by decide⟩ ⟨by decide, by decide⟩
    (SameTotals.of_perm (by decide))).1.mpr (by unfold SameShape; decide)

/-- Ten requests of one bucket on one day, or the first of them a day earlier. -/
def tenOnOneDay : List UsageLatencyRow :=
  [{ day := "2025-10-10", bucketLeMs := 10, requestCount := 10 }]

def tenOnTwoDays : List UsageLatencyRow :=
  [{ day := "2025-10-09", bucketLeMs := 10, requestCount := 1 },
    { day := "2025-10-10", bucketLeMs := 10, requestCount := 9 }]

/-- The median is five milliseconds in one row, and ten in two. -/
theorem split_bucket_changes_report :
    ¬∀ rows others : List UsageLatencyRow, ValidBuckets (rows.map UsageLatencyRow.bucket) →
      ValidBuckets (others.map UsageLatencyRow.bucket) →
      SameTotals (rows.map UsageLatencyRow.bucket) (others.map UsageLatencyRow.bucket) →
      Additive rows others := by
  intro claim
  have validOne : ValidBuckets (tenOnOneDay.map UsageLatencyRow.bucket) := ⟨by decide, by decide⟩
  have validTwo : ValidBuckets (tenOnTwoDays.map UsageLatencyRow.bucket) := ⟨by decide, by decide⟩
  have same : SameTotals (tenOnOneDay.map UsageLatencyRow.bucket)
      (tenOnTwoDays.map UsageLatencyRow.bucket) := by
    intro bound
    by_cases ten : (10 : ℤ) = bound <;>
      simp [countAt, countsAt, tenOnOneDay, tenOnTwoDays, UsageLatencyRow.bucket, ten]
  have additive := claim tenOnOneDay tenOnTwoDays validOne validTwo same
  have medians := additive.percentiles (1 / 2) (by norm_num) (by norm_num)
  rw [validOne.percentileIn_exact (by decide) (by norm_num),
    validTwo.percentileIn_exact (by decide) (by norm_num)] at medians
  revert medians
  decide +kernel

end SpellServer
