import SpellServer.Usage.Histograms

/-!
# Percentiles of stored buckets

A bucket without requests has no row, and the walk then interpolates from the
last bound that has one.
-/

namespace SpellServer

open Library

/-- One row for each bucket that was hit. -/
structure StoredBuckets (buckets : List (ℤ × ℤ)) : Prop where
  bounds : ∀ bucket ∈ buckets, bucket.1 ∈ latencyBucketsMs ∨ bucket.1 = bucketOverflow
  counts : ∀ bucket ∈ buckets, 0 < bucket.2
  distinct : (buckets.map Prod.fst).Nodup
  nonempty : buckets ≠ []

/-! ## What a recorder stores -/

namespace UsageRecorder

/-- The latency rows of a tenant's day. -/
def latencyRows (recorder : UsageRecorder) (day tenantId : String) : List (ℤ × ℤ) :=
  (recorder.latency.entries.filter
    fun entry => entry.1.day = day ∧ entry.1.tenantId = tenantId).map
    fun entry => (entry.1.bucketLeMs, entry.2)

theorem recordAll_latency (recorder : UsageRecorder) (entries : List UsageRecord) :
    (recorder.recordAll entries).latency =
      recorder.latency.accumulate UsageRecord.latencyKey 0 (fun count _ => count + 1) entries := by
  induction entries generalizing recorder with
  | nil => rfl
  | cons entry entries induction => exact induction (recorder.record entry)

theorem lookup_recordAll_latency {entries : List UsageRecord} {key : LatencyKey} {count : ℤ}
    (found : (new.recordAll entries).latency.lookup key = some count) :
    0 < count ∧ ∃ entry ∈ entries, entry.latencyKey = key := by
  rw [recordAll_latency] at found
  have unfed : new.latency.lookup key = none := rfl
  have some_entry := (Dict.isSome_lookup_accumulate UsageRecord.latencyKey 0
    (fun count _ => count + 1) new.latency entries key).mp (by rw [found]; rfl)
  have hit := some_entry.resolve_left (by rw [unfed]; exact Bool.false_ne_true)
  refine ⟨?_, hit⟩
  have fed := Dict.getD_lookup_accumulate UsageRecord.latencyKey 0 (fun count _ => count + 1)
    new.latency entries key
  have summed : ∀ (items : List UsageRecord) (start : ℤ),
      items.foldl (fun count _ => count + 1) start = start + items.length := by
    intro items
    induction items with
    | nil => exact fun start => (add_zero start).symm
    | cons _ _ induction =>
        intro start
        rw [List.foldl_cons, induction, List.length_cons]
        push_cast
        ring
  obtain ⟨entry, member, same⟩ := hit
  have own : 0 < (entries.filter fun entry => entry.latencyKey = key).length :=
    List.length_pos_of_mem (List.mem_filter.mpr ⟨member, decide_eq_true same⟩)
  rw [found, unfed, summed, Option.getD_some, Option.getD_none] at fed
  omega

/-- What a recorder holds of a day with requests. -/
theorem recordAll_stored (entries : List UsageRecord) (day tenantId : String)
    (nonempty : (new.recordAll entries).latencyRows day tenantId ≠ []) :
    StoredBuckets ((new.recordAll entries).latencyRows day tenantId) := by
  have held : ∀ row ∈ (new.recordAll entries).latencyRows day tenantId,
      0 < row.2 ∧ ∃ entry ∈ entries, bucketFor entry.latency = row.1 := by
    intro row member
    obtain ⟨entry, among, rfl⟩ := List.mem_map.mp member
    have found := Dict.mem_entries_iff.mp (List.mem_of_mem_filter among)
    obtain ⟨positive, record, given, key⟩ := lookup_recordAll_latency found
    exact ⟨positive, record, given, congrArg LatencyKey.bucketLeMs key⟩
  refine ⟨?_, fun row member => (held row member).1, ?_, nonempty⟩
  · intro row member
    obtain ⟨_, entry, _, bucket⟩ := held row member
    rw [← bucket]
    exact (bucketFor_cases entry.latency).imp (fun finite => finite.1) (fun overflow => overflow.1)
  · have keys : (((new.recordAll entries).latency.entries.filter fun entry =>
        entry.1.day = day ∧ entry.1.tenantId = tenantId).map Sigma.fst).Nodup :=
      (new.recordAll entries).latency.nodupKeys.sublist List.filter_sublist
    have rows : ((new.recordAll entries).latencyRows day tenantId).map Prod.fst =
        (((new.recordAll entries).latency.entries.filter fun entry =>
          entry.1.day = day ∧ entry.1.tenantId = tenantId).map Sigma.fst).map
          LatencyKey.bucketLeMs := by
      unfold latencyRows
      rw [List.map_map, List.map_map]
      rfl
    have own : ∀ key ∈ ((new.recordAll entries).latency.entries.filter fun entry =>
        entry.1.day = day ∧ entry.1.tenantId = tenantId).map Sigma.fst,
        key.day = day ∧ key.tenantId = tenantId := by
      intro key member
      obtain ⟨entry, among, rfl⟩ := List.mem_map.mp member
      exact of_decide_eq_true (List.mem_filter.mp among).2
    rw [rows]
    apply List.Nodup.map_on _ keys
    intro one first two second same
    obtain ⟨oneDay, oneTenant⟩ := own one first
    obtain ⟨twoDay, twoTenant⟩ := own two second
    rw [LatencyKey.mk.injEq]
    exact ⟨oneDay.trans twoDay.symm, oneTenant.trans twoTenant.symm, same⟩

end UsageRecorder

namespace StoredBuckets

variable {buckets : List (ℤ × ℤ)} {bound : ℤ}

theorem valid (stored : StoredBuckets buckets) : ValidBuckets buckets :=
  ⟨stored.bounds, fun bucket member => le_of_lt (stored.counts bucket member)⟩

theorem totalCount_pos (stored : StoredBuckets buckets) : 0 < totalCount buckets := by
  apply List.sum_pos
  · intro count member
    obtain ⟨bucket, among, rfl⟩ := List.mem_map.mp member
    exact stored.counts bucket among
  · simpa using stored.nonempty

/-- A bucket that was hit has one row. -/
theorem countsAt_eq (stored : StoredBuckets buckets) (hit : bound ∈ buckets.map Prod.fst) :
    countsAt buckets bound = [countAt buckets bound] ∧ 0 < countAt buckets bound := by
  obtain ⟨bucket, member, same⟩ := List.mem_map.mp hit
  obtain ⟨before, after, parts⟩ := List.append_of_mem member
  have distinct := stored.distinct
  rw [parts, List.map_append, List.map_cons, same, List.nodup_middle, List.nodup_cons,
    ← List.map_append] at distinct
  have others : ∀ other ∈ before ++ after, other.1 ≠ bound := by
    intro other among same
    exact distinct.1 (same ▸ List.mem_map_of_mem among)
  have noneBefore : (before.filter fun bucket => bucket.1 = bound) = [] :=
    List.filter_eq_nil_iff.mpr fun other among =>
      mt of_decide_eq_true (others other (List.mem_append_left _ among))
  have noneAfter : (after.filter fun bucket => bucket.1 = bound) = [] :=
    List.filter_eq_nil_iff.mpr fun other among =>
      mt of_decide_eq_true (others other (List.mem_append_right _ among))
  have counts : countsAt buckets bound = [bucket.2] := by
    have kept : decide (bucket.1 = bound) = true := decide_eq_true same
    rw [countsAt, parts, List.filter_append, noneBefore, List.filter_cons, if_pos kept, noneAfter]
    rfl
  have count : countAt buckets bound = bucket.2 := by rw [countAt, counts, List.sum_singleton]
  rw [counts, count]
  exact ⟨rfl, stored.counts bucket member⟩

end StoredBuckets

/-! ## The crossing bucket -/

/-- The requests of a bucket and those below it. -/
def countUpTo (buckets : List (ℤ × ℤ)) (bound : ℤ) : ℤ :=
  countBelow buckets bound + countAt buckets bound

/-- The first bucket whose cumulative count reaches a fraction of the total. -/
def crossingBound (buckets : List (ℤ × ℤ)) (q : ℚ) : Option ℤ :=
  latencyBucketsMs.find? fun bound => q * totalCount buckets ≤ countUpTo buckets bound

/-- The percentile lies in the bucket that holds its rank. -/
def InCrossingBucket (buckets : List (ℤ × ℤ)) (q : ℚ) : Prop :=
  match crossingBound buckets q with
  | some bound => ∃ value, percentileIn exact buckets q = some value ∧
      precedingBound bound ≤ value ∧ (value : ℤ) ≤ bound
  | none => percentileIn exact buckets q = some 1000

/-- Rows without requests for the bounds that have none, in any order. -/
def Padded (buckets padded : List (ℤ × ℤ)) : Prop :=
  padded.Perm (buckets ++
    (latencyBucketsMs.filter fun bound => bound ∉ buckets.map Prod.fst).map fun bound => (bound, 0))

/-- The bucket before one that was hit was hit too. -/
def Gapless (buckets : List (ℤ × ℤ)) : Prop :=
  ∀ bound ∈ latencyBucketsMs, bound ∈ buckets.map Prod.fst →
    precedingBound bound = 0 ∨ precedingBound bound ∈ buckets.map Prod.fst

section

variable {buckets padded : List (ℤ × ℤ)} {bound : ℤ}

/-! ## Edges -/

/-- The edge in hand lies at the bound before or further down. -/
theorem lowerEdge_le (buckets : List (ℤ × ℤ)) (bound : ℤ) :
    lowerEdge buckets bound ≤ precedingBound bound := by
  rcases Ladder.preceding_cases 0
    (latencyBucketsMs.filter fun other => other ∈ buckets.map Prod.fst) bound with start | lower
  · have least : 0 ≤ precedingBound bound := by
      rcases Ladder.preceding_cases 0 latencyBucketsMs bound with zero | ⟨member, _⟩
      · exact ge_of_eq zero
      · have bounded := latencyBucketsMs_bounded _ member
        unfold precedingBound
        omega
    exact start.trans_le least
  · exact Ladder.le_preceding latencyBucketsMs_sorted (List.mem_of_mem_filter lower.1) lower.2

theorem lowerEdge_eq_iff (buckets : List (ℤ × ℤ)) (bound : ℤ) :
    lowerEdge buckets bound = precedingBound bound ↔
      precedingBound bound = 0 ∨ precedingBound bound ∈ buckets.map Prod.fst := by
  constructor
  · intro same
    rcases Ladder.preceding_cases 0
      (latencyBucketsMs.filter fun other => other ∈ buckets.map Prod.fst) bound with start | lower
    · exact Or.inl (same.symm.trans start)
    · right
      rw [← same]
      exact of_decide_eq_true (List.mem_filter.mp lower.1).2
  · intro anchored
    apply le_antisymm (lowerEdge_le buckets bound)
    rcases Ladder.preceding_cases 0 latencyBucketsMs bound with zero | ⟨member, less⟩
    · rcases Ladder.preceding_cases 0
        (latencyBucketsMs.filter fun other => other ∈ buckets.map Prod.fst) bound with start | lower
      · exact le_of_eq (zero.trans start.symm)
      · have bounded := latencyBucketsMs_bounded _ (List.mem_of_mem_filter lower.1)
        have first : precedingBound bound = 0 := zero
        unfold lowerEdge
        omega
    · have bounded := latencyBucketsMs_bounded _ member
      have hit : precedingBound bound ∈ buckets.map Prod.fst := by
        apply anchored.resolve_left
        unfold precedingBound
        omega
      exact Ladder.le_preceding (latencyBucketsMs_sorted.filter _)
        (List.mem_filter.mpr ⟨member, decide_eq_true hit⟩) less

/-! ## Ranks -/

theorem crossingBound_eq_some {q : ℚ} (positive : 0 < q * totalCount buckets)
    (crossing : crossingBound buckets q = some bound) :
    bound ∈ latencyBucketsMs ∧ countBelow buckets bound < q * totalCount buckets ∧
      q * totalCount buckets ≤ countBelow buckets bound + countAt buckets bound := by
  obtain ⟨reached, before, after, parts, missed⟩ := List.find?_eq_some_iff_append.mp crossing
  refine ⟨List.mem_of_find?_eq_some crossing, ?_, ?_⟩
  · rcases List.eq_nil_or_concat' before with none | ⟨front, last, ends⟩
    · rw [none] at parts
      rw [countBelow_of_split parts]
      simpa using positive
    · have lastParts : latencyBucketsMs = front ++ last :: (bound :: after) := by
        rw [parts, ends, List.append_assoc]
        rfl
      have short := missed last (by rw [ends]; simp)
      rw [countUpTo, countBelow_of_split lastParts] at short
      rw [countBelow_of_split parts, ends, List.map_append, List.sum_append]
      simpa using short
  · have covered := of_decide_eq_true reached
    unfold countUpTo at covered
    push_cast at covered
    exact covered

theorem crossingBound_of_inside (valid : ValidBuckets buckets) (member : bound ∈ latencyBucketsMs)
    {q : ℚ} (past : countBelow buckets bound < q * totalCount buckets)
    (reached : q * totalCount buckets ≤ countBelow buckets bound + countAt buckets bound) :
    crossingBound buckets q = some bound := by
  obtain ⟨before, after, parts⟩ := List.append_of_mem member
  have covered : q * totalCount buckets ≤ countUpTo buckets bound := by
    unfold countUpTo
    push_cast
    exact reached
  refine List.find?_eq_some_iff_append.mpr ⟨decide_eq_true covered, before, after, parts, ?_⟩
  intro other among
  obtain ⟨front, rest, ends⟩ := List.append_of_mem among
  have otherParts : latencyBucketsMs = front ++ other :: (rest ++ bound :: after) := by
    rw [parts, ends, List.append_assoc]
    rfl
  have later : 0 ≤ (rest.map (countAt buckets)).sum := by
    apply List.sum_nonneg
    intro count listed
    obtain ⟨third, _, rfl⟩ := List.mem_map.mp listed
    exact valid.countAt_nonneg third
  have smaller : countUpTo buckets other ≤ countBelow buckets bound := by
    rw [countUpTo, countBelow_of_split otherParts, countBelow_of_split parts, ends,
      List.map_append, List.sum_append, List.map_cons, List.sum_cons]
    omega
  have missed : ((countUpTo buckets other : ℤ) : ℚ) < q * totalCount buckets :=
    (Int.cast_le.mpr smaller).trans_lt past
  simpa using missed

/-! ## In the crossing bucket -/

theorem roundU64_between {lower upper : ℤ} {value : ℚ} (nonneg : 0 ≤ lower) (bounded : upper ≤ 1000)
    (least : (lower : ℚ) ≤ value) (most : value ≤ upper) :
    lower ≤ roundU64 value ∧ (roundU64 value : ℤ) ≤ upper := by
  have order : lower ≤ upper := by exact_mod_cast least.trans most
  have lowerRounded : roundU64 lower = lower.toNat :=
    roundU64_near lower nonneg (by omega) (by linarith) (by linarith)
  have upperRounded : roundU64 upper = upper.toNat :=
    roundU64_near upper (by omega) bounded (by linarith) (by linarith)
  have above := roundU64_mono least
  have below := roundU64_mono most
  rw [lowerRounded] at above
  rw [upperRounded] at below
  omega

theorem valueAt_bounds (buckets : List (ℤ × ℤ)) (member : bound ∈ latencyBucketsMs) (distance : ℚ) :
    (lowerEdge buckets bound : ℚ) ≤ valueAt buckets bound distance ∧
      valueAt buckets bound distance ≤ bound := by
  have order : (lowerEdge buckets bound : ℚ) ≤ bound :=
    Int.cast_le.mpr (le_of_lt (lowerEdge_bounds buckets member).2)
  unfold valueAt
  split
  · exact ⟨order, le_refl _⟩
  · exact ⟨le_between order _, between_le order _⟩

namespace StoredBuckets

theorem firstCount_pos (stored : StoredBuckets buckets) (hit : bound ∈ buckets.map Prod.fst) :
    0 < firstCount buckets bound := by
  obtain ⟨rows, counted⟩ := stored.countsAt_eq hit
  rw [firstCount, rows, List.headD_cons]
  exact counted

theorem inCrossingBucket (stored : StoredBuckets buckets) (gapless : Gapless buckets) {q : ℚ}
    (positive : 0 < q) (most : q ≤ 1) : InCrossingBucket buckets q := by
  have total := stored.totalCount_pos
  have rank : 0 < q * totalCount buckets := mul_pos positive (Int.cast_pos.mpr total)
  unfold InCrossingBucket
  rw [stored.valid.percentileIn_exact total most]
  cases crossing : crossingBound buckets q with
  | none =>
      have missed := List.find?_eq_none.mp crossing
      rcases stored.valid.rank_cases (le_of_lt rank) with inside | above
      · obtain ⟨bound, member, distance, _, covers, at_rank, _⟩ := inside
        have reached : q * totalCount buckets ≤ countUpTo buckets bound := by
          unfold countUpTo
          push_cast
          linarith
        exact absurd (decide_eq_true reached) (missed bound member)
      · rw [stored.valid.exactValue_above above]
        exact congrArg some (by decide +kernel)
  | some bound =>
      obtain ⟨member, past, reached⟩ := crossingBound_eq_some rank crossing
      have counted : 0 < countAt buckets bound := by
        have wide : (0 : ℚ) < countAt buckets bound := by linarith
        exact Int.cast_pos.mp wide
      let distance : ℚ := q * totalCount buckets - countBelow buckets bound
      have covers : distance ≤ countAt buckets bound := by
        simp only [distance]
        linarith
      have inside := stored.valid.exactValue_inside member counted covers
        (Or.inl (sub_pos.mpr past))
      rw [add_sub_cancel] at inside
      obtain ⟨least, most⟩ := valueAt_bounds buckets member distance
      have edge := (lowerEdge_eq_iff buckets bound).mpr
        (gapless bound member (hit_of_counted counted))
      rw [edge] at least
      have bounded := latencyBucketsMs_bounded bound member
      have nonneg := (lowerEdge_bounds buckets member).1
      rw [edge] at nonneg
      rw [inside]
      exact ⟨_, rfl, roundU64_between nonneg bounded.2 least most⟩

/-- A small step into a bucket behind a gap gives the bound before the gap. -/
theorem gapless_of_inCrossingBucket (stored : StoredBuckets buckets)
    (inside : ∀ q, 0 < q → q ≤ 1 → InCrossingBucket buckets q) : Gapless buckets := by
  intro bound member hit
  have counted := (stored.countsAt_eq hit).2
  have one_le : (1 : ℚ) ≤ countAt buckets bound := by exact_mod_cast counted
  have covers : smallStep ≤ countAt buckets bound := by
    unfold smallStep
    linarith
  have step_pos : 0 < smallStep := by
    unfold smallStep
    norm_num
  obtain ⟨positive, most, rank⟩ := stored.valid.rankFraction_bounds member step_pos covers
  have crossing := crossingBound_of_inside stored.valid member
    (q := rankFraction buckets bound smallStep) (by linarith) (by linarith)
  have inBucket := inside _ positive most
  unfold InCrossingBucket at inBucket
  rw [crossing, stored.valid.percentileIn_inside member step_pos covers] at inBucket
  obtain ⟨value, found, least, _⟩ := inBucket
  rw [← Option.some.inj found, stored.valid.roundU64_start member, startOf,
    if_neg (ne_of_gt (stored.firstCount_pos hit))] at least
  have nonneg := (lowerEdge_bounds buckets member).1
  apply (lowerEdge_eq_iff buckets bound).mp
  apply le_antisymm (lowerEdge_le buckets bound)
  omega

end StoredBuckets

/-! ## Padding -/

theorem Padded.countsAt_eq (padding : Padded buckets padded) (stored : StoredBuckets buckets)
    (hit : bound ∈ buckets.map Prod.fst) : countsAt padded bound = countsAt buckets bound := by
  have rows := (padding.filter fun bucket => bucket.1 = bound).map Prod.snd
  have none : ((latencyBucketsMs.filter fun other => other ∉ buckets.map Prod.fst).map
      fun other => ((other, 0) : ℤ × ℤ)).filter (fun bucket => bucket.1 = bound) = [] := by
    apply List.filter_eq_nil_iff.mpr
    intro bucket member same
    obtain ⟨other, among, rfl⟩ := List.mem_map.mp member
    have absent := of_decide_eq_true (List.mem_filter.mp among).2
    have other_eq : other = bound := of_decide_eq_true same
    exact absent (other_eq ▸ hit)
  rw [List.filter_append, none, List.append_nil] at rows
  change (countsAt padded bound).Perm (countsAt buckets bound) at rows
  rw [(stored.countsAt_eq hit).1] at rows ⊢
  exact List.perm_singleton.mp rows

theorem Padded.valid (padding : Padded buckets padded) (valid : ValidBuckets buckets) :
    ValidBuckets padded := by
  have among : ∀ bucket ∈ padded, bucket ∈ buckets ∨ bucket.1 ∈ latencyBucketsMs ∧ bucket.2 = 0 := by
    intro bucket member
    rcases List.mem_append.mp (padding.mem_iff.mp member) with given | added
    · exact Or.inl given
    · obtain ⟨other, listed, rfl⟩ := List.mem_map.mp added
      exact Or.inr ⟨List.mem_of_mem_filter listed, rfl⟩
  constructor
  · intro bucket member
    exact (among bucket member).elim (valid.bounds bucket) fun added => Or.inl added.1
  · intro bucket member
    exact (among bucket member).elim (valid.counts bucket) fun added => ge_of_eq added.2

theorem Padded.sameTotals (padding : Padded buckets padded) : SameTotals buckets padded := by
  intro bound
  rw [SameTotals.of_perm padding bound]
  have nothing : ∀ bounds : List ℤ,
      countAt (bounds.map fun other => ((other, 0) : ℤ × ℤ)) bound = 0 := by
    intro bounds
    apply List.sum_eq_zero
    intro count member
    obtain ⟨bucket, among, rfl⟩ := List.mem_map.mp member
    obtain ⟨other, _, rfl⟩ := List.mem_map.mp (List.mem_of_mem_filter among)
    rfl
  have sums : ∀ rows : List (ℤ × ℤ),
      countAt (buckets ++ rows) bound = countAt buckets bound + countAt rows bound := by
    intro rows
    rw [countAt, countsAt, List.filter_append, List.map_append, List.sum_append]
    rfl
  rw [sums, nothing, add_zero]

/-- With a row for every bound, the edge is the bound before. -/
theorem Padded.lowerEdge_eq (padding : Padded buckets padded) (bound : ℤ) :
    lowerEdge padded bound = precedingBound bound := by
  have all : ∀ other ∈ latencyBucketsMs, other ∈ padded.map Prod.fst := by
    intro other member
    rw [(padding.map Prod.fst).mem_iff, List.map_append]
    by_cases hit : other ∈ buckets.map Prod.fst
    · exact List.mem_append_left _ hit
    · apply List.mem_append_right
      rw [List.map_map]
      exact List.mem_map_of_mem (f := id) (List.mem_filter.mpr ⟨member, decide_eq_true hit⟩)
  unfold lowerEdge precedingBound
  rw [List.filter_eq_self.mpr fun other member => decide_eq_true (all other member)]

theorem Padded.sameShape_iff (padding : Padded buckets padded) (stored : StoredBuckets buckets) :
    SameShape buckets padded ↔ Gapless buckets := by
  have sameFirst : ∀ bound, bound ∈ buckets.map Prod.fst →
      firstCount buckets bound = firstCount padded bound := by
    intro bound hit
    rw [firstCount, firstCount, padding.countsAt_eq stored hit]
  constructor
  · intro shape bound member hit
    obtain ⟨_, edge⟩ := shape bound member (stored.countsAt_eq hit).2
    have edges := edge.resolve_left (ne_of_gt (stored.firstCount_pos hit))
    exact (lowerEdge_eq_iff buckets bound).mp (edges.trans (padding.lowerEdge_eq bound))
  · intro gapless bound member counted
    have hit := hit_of_counted counted
    have edge := (lowerEdge_eq_iff buckets bound).mpr (gapless bound member hit)
    exact ⟨sameFirst bound hit, Or.inr (edge.trans (padding.lowerEdge_eq bound).symm)⟩

theorem percentile_in_bucket_iff (stored : StoredBuckets buckets) :
    ((∀ q, 0 < q → q ≤ 1 → InCrossingBucket buckets q) ↔ Gapless buckets) ∧
      ((∀ padded, Padded buckets padded → ∀ q, 0 < q → q ≤ 1 →
        percentileIn exact padded q = percentileIn exact buckets q) ↔ Gapless buckets) := by
  refine ⟨⟨stored.gapless_of_inCrossingBucket, fun gapless q => stored.inCrossingBucket gapless⟩, ?_⟩
  constructor
  · intro unchanged
    have padding : Padded buckets _ := List.Perm.refl _
    apply (padding.sameShape_iff stored).mp
    apply SameShape.of_percentileIn padding.sameTotals stored.valid (padding.valid stored.valid)
    intro q positive most
    exact (unchanged _ padding q positive most).symm
  · intro gapless padded padding q positive most
    have shape := (padding.sameShape_iff stored).mpr gapless
    exact (shape.percentileIn_eq padding.sameTotals stored.valid (padding.valid stored.valid)
      (le_of_lt positive) most).symm

theorem percentile_in_bucket_for_first_buckets :
    StoredBuckets [(2, 3), (1, 4), (bucketOverflow, 1)] ∧
      ∀ q, 0 < q → q ≤ 1 → InCrossingBucket [(2, 3), (1, 4), (bucketOverflow, 1)] q := by
  have stored : StoredBuckets [(2, 3), (1, 4), (bucketOverflow, 1)] :=
    ⟨by decide, by decide, by decide, by decide⟩
  have inside := (percentile_in_bucket_iff stored).1.mpr (by unfold Gapless; decide)
  exact ⟨stored, inside⟩

/-- A request of a hundred milliseconds alone. -/
theorem lone_bucket_reaches_below : ¬∀ buckets, StoredBuckets buckets →
    ∀ q, 0 < q → q ≤ 1 → InCrossingBucket buckets q := by
  intro claim
  have stored : StoredBuckets [(100, 1)] := ⟨by decide, by decide, by decide, by decide⟩
  have inside := claim _ stored (1 / 5) (by norm_num) (by norm_num)
  have crossing : crossingBound [(100, 1)] (1 / 5) = some 100 := by decide +kernel
  unfold InCrossingBucket at inside
  rw [crossing, stored.valid.percentileIn_exact (by decide) (by norm_num)] at inside
  obtain ⟨value, found, least, _⟩ := inside
  have twenty : roundU64 (exactValue [(100, 1)] (1 / 5 * totalCount [(100, 1)])) = 20 := by
    decide +kernel
  rw [twenty] at found
  cases found
  revert least
  decide

end

end SpellServer
