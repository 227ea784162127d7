import SpellServer.Library.Ladder
import SpellServer.Usage.Recorder

/-!
# Latency buckets

A bucket is to bound the latencies it counts.  `bucket_for` drops what a latency
has below a whole millisecond, so it counts one just above a bound under the
bound itself.
-/

namespace SpellServer

open Library

def nanosPerMilli : ℕ := 1000000

/-- The ladder bound before a given one. -/
def precedingBound (bound : ℤ) : ℤ := Ladder.preceding 0 latencyBucketsMs bound

/-! ## The ladder -/

theorem latencyBucketsMs_sorted : latencyBucketsMs.Pairwise (· < ·) := by decide

theorem latencyBucketsMs_bounded : ∀ bound ∈ latencyBucketsMs, 1 ≤ bound ∧ bound ≤ 1000 := by
  decide

theorem thousand_mem_latencyBucketsMs : (1000 : ℤ) ∈ latencyBucketsMs := by decide

theorem ne_bucketOverflow {bound : ℤ} (member : bound ∈ latencyBucketsMs) :
    bound ≠ bucketOverflow := by
  have bounded := latencyBucketsMs_bounded bound member
  unfold bucketOverflow
  omega

theorem bucketFor_cases (latency : ℕ) :
    (bucketFor latency ∈ latencyBucketsMs ∧ asMillis latency ≤ bucketFor latency ∧
      ∀ other ∈ latencyBucketsMs, other < bucketFor latency → other < asMillis latency) ∨
    (bucketFor latency = bucketOverflow ∧
      ∀ bound ∈ latencyBucketsMs, bound < asMillis latency) := by
  cases found : Ladder.firstAtLeast latencyBucketsMs (asMillis latency) with
  | none =>
      right
      refine ⟨?_, Ladder.firstAtLeast_eq_none_iff.mp found⟩
      unfold Ladder.firstAtLeast at found
      rw [bucketFor, found]
      rfl
  | some bound =>
      left
      have same : bucketFor latency = bound := by
        unfold Ladder.firstAtLeast at found
        rw [bucketFor, found]
        rfl
      rw [same]
      exact (Ladder.firstAtLeast_eq_some_iff latencyBucketsMs_sorted).mp found

/-! ## When a bucket bounds its latencies -/

/-- What a bucket says about a latency it counts. -/
structure BucketBounds (latency : ℕ) : Prop where
  covers : bucketFor latency ≠ bucketOverflow →
    (latency : ℤ) ≤ bucketFor latency * nanosPerMilli
  tight : bucketFor latency ≠ bucketOverflow →
    latencyBucketsMs.head? = some (bucketFor latency) ∨
      precedingBound (bucketFor latency) * nanosPerMilli < latency
  overflows : bucketFor latency = bucketOverflow ↔ (1000 : ℤ) * nanosPerMilli < latency

/-- The latency is less than a millisecond above a bound, or its count of
milliseconds is small again once cut to 64 bits. -/
def Misplaced (latency : ℕ) : Prop :=
  (∃ bound ∈ latencyBucketsMs,
    bound * nanosPerMilli < latency ∧ (latency : ℤ) < (bound + 1) * nanosPerMilli) ∨
  (2 ^ 63 ≤ latency / nanosPerMilli ∧ asI64 (latency / nanosPerMilli) ≤ 1000)

theorem asMillis_of_lt {latency : ℕ} (fits : latency / nanosPerMilli < 2 ^ 63) :
    asMillis latency = (latency / nanosPerMilli : ℕ) := by
  unfold nanosPerMilli at fits
  rw [asMillis, asI64, Int64.toInt_ofNat', Int.bmod_eq_of_le] <;>
    simp [Int64.size, nanosPerMilli] <;> omega

theorem asMillis_le (latency : ℕ) : asMillis latency ≤ (latency / nanosPerMilli : ℕ) := by
  by_cases fits : latency / nanosPerMilli < 2 ^ 63
  · exact le_of_eq (asMillis_of_lt fits)
  · have small : asMillis latency < 2 ^ 63 := Int64.toInt_lt _
    omega

/-- Less than a millisecond above a bound, a latency counts as many milliseconds
as the bound. -/
theorem asMillis_of_between {latency : ℕ} {bound : ℤ} (member : bound ∈ latencyBucketsMs)
    (above : bound * nanosPerMilli < latency)
    (below : (latency : ℤ) < (bound + 1) * nanosPerMilli) : asMillis latency = bound := by
  have bounded := latencyBucketsMs_bounded bound member
  have whole : (latency / nanosPerMilli : ℕ) = bound := by
    unfold nanosPerMilli at above below ⊢
    omega
  rw [asMillis_of_lt (by omega), whole]

/-- A latency outgrows its bucket exactly when it is misplaced. -/
theorem misplaced_iff (latency : ℕ) :
    Misplaced latency ↔ bucketFor latency ≠ bucketOverflow ∧
      bucketFor latency * nanosPerMilli < latency := by
  constructor
  · intro misplaced
    rcases bucketFor_cases latency with ⟨member, _, least⟩ | ⟨_, past⟩
    · refine ⟨ne_bucketOverflow member, ?_⟩
      have bounded := latencyBucketsMs_bounded _ member
      rcases misplaced with ⟨bound, among, above, below⟩ | ⟨wraps, _⟩
      · have millis := asMillis_of_between among above below
        have reached : bucketFor latency ≤ bound := by
          by_contra larger
          have less := least bound among (not_le.mp larger)
          omega
        unfold nanosPerMilli at above ⊢
        omega
      · unfold nanosPerMilli at wraps ⊢
        omega
    · have passed := past 1000 thousand_mem_latencyBucketsMs
      rcases misplaced with ⟨bound, among, above, below⟩ | ⟨_, small⟩
      · have millis := asMillis_of_between among above below
        have bounded := latencyBucketsMs_bounded bound among
        omega
      · exact absurd passed (not_lt.mpr small)
  · intro outgrown
    obtain ⟨finite, above⟩ := outgrown
    rcases bucketFor_cases latency with ⟨member, covers, _⟩ | ⟨overflow, _⟩
    · have bounded := latencyBucketsMs_bounded _ member
      by_cases fits : latency / nanosPerMilli < 2 ^ 63
      · left
        rw [asMillis_of_lt fits] at covers
        refine ⟨_, member, above, ?_⟩
        unfold nanosPerMilli at covers above ⊢
        omega
      · exact Or.inr ⟨not_lt.mp fits, covers.trans bounded.2⟩
    · exact absurd overflow finite

/-- The bound before a bucket is always exceeded. -/
theorem bucketFor_tight (latency : ℕ) (finite : bucketFor latency ≠ bucketOverflow) :
    latencyBucketsMs.head? = some (bucketFor latency) ∨
      precedingBound (bucketFor latency) * nanosPerMilli < latency := by
  rcases bucketFor_cases latency with ⟨member, _, least⟩ | ⟨overflow, _⟩
  · rcases Ladder.preceding_cases 0 latencyBucketsMs (bucketFor latency) with zero | ⟨among, less⟩
    · left
      have first : ¬(1 < bucketFor latency) := by
        intro larger
        have reached : (1 : ℤ) ≤ Ladder.preceding 0 latencyBucketsMs (bucketFor latency) :=
          Ladder.le_preceding latencyBucketsMs_sorted (by decide) larger
        omega
      have bounded := latencyBucketsMs_bounded _ member
      have one : bucketFor latency = 1 := by omega
      rw [one]
      rfl
    · right
      have passed : precedingBound (bucketFor latency) < asMillis latency := least _ among less
      have whole := asMillis_le latency
      unfold nanosPerMilli at whole ⊢
      omega
  · exact absurd overflow finite

theorem bucketBounds_iff (latency : ℕ) : BucketBounds latency ↔ ¬Misplaced latency := by
  rw [misplaced_iff, not_and, not_lt]
  constructor
  · intro bounds
    exact bounds.covers
  · intro covers
    refine ⟨covers, bucketFor_tight latency, ?_⟩
    constructor
    · intro overflow
      rcases bucketFor_cases latency with ⟨member, _, _⟩ | ⟨_, past⟩
      · exact absurd overflow (ne_bucketOverflow member)
      · have passed := past 1000 thousand_mem_latencyBucketsMs
        have whole := asMillis_le latency
        unfold nanosPerMilli at whole ⊢
        omega
    · intro long
      by_contra finite
      have covered := covers finite
      rcases bucketFor_cases latency with ⟨member, _, _⟩ | ⟨overflow, _⟩
      · have bounded := latencyBucketsMs_bounded _ member
        unfold nanosPerMilli at covered long
        omega
      · exact finite overflow

/-! ## What the buckets up to a bound hold -/

namespace UsageRecorder

def recordAll (recorder : UsageRecorder) (entries : List UsageRecord) : UsageRecorder :=
  entries.foldl record recorder

/-- The requests stored in the buckets up to a bound. -/
def storedUpTo (recorder : UsageRecorder) (bound : ℤ) : ℤ :=
  recorder.latency.total fun key count =>
    if key.bucketLeMs ≠ bucketOverflow ∧ key.bucketLeMs ≤ bound then count else 0

theorem storedUpTo_record (recorder : UsageRecorder) (entry : UsageRecord) (bound : ℤ) :
    (recorder.record entry).storedUpTo bound = recorder.storedUpTo bound +
      if bucketFor entry.latency ≠ bucketOverflow ∧ bucketFor entry.latency ≤ bound then 1
      else 0 := by
  unfold storedUpTo
  rw [record_latency]
  apply Dict.total_alter
  · simp
  · intro count
    by_cases counted :
        bucketFor entry.latency ≠ bucketOverflow ∧ bucketFor entry.latency ≤ bound
    · simp [UsageRecord.latencyKey, counted]
    · have uncounted : ¬(entry.latencyKey.bucketLeMs ≠ bucketOverflow ∧
          entry.latencyKey.bucketLeMs ≤ bound) := counted
      rw [if_neg uncounted, if_neg uncounted, if_neg counted, add_zero]

theorem storedUpTo_recordAll (recorder : UsageRecorder) (entries : List UsageRecord) (bound : ℤ) :
    (recorder.recordAll entries).storedUpTo bound = recorder.storedUpTo bound +
      entries.countP fun entry =>
        bucketFor entry.latency ≠ bucketOverflow ∧ bucketFor entry.latency ≤ bound := by
  induction entries generalizing recorder with
  | nil => simp [recordAll]
  | cons entry entries induction =>
      have rest := induction (recorder.record entry)
      rw [storedUpTo_record] at rest
      refine rest.trans ?_
      by_cases counted :
          bucketFor entry.latency ≠ bucketOverflow ∧ bucketFor entry.latency ≤ bound
      · rw [if_pos counted, List.countP_cons_of_pos (by simpa using counted)]
        push_cast
        ring
      · rw [if_neg counted, List.countP_cons_of_neg (by simpa using counted), add_zero]

end UsageRecorder

/-- Predicates that count the same agree where one implies the other. -/
private theorem imp_of_countP_eq {α : Type*} {narrow wide : α → Bool} {items : List α}
    (implies : ∀ item ∈ items, narrow item = true → wide item = true)
    (same : items.countP wide = items.countP narrow) :
    ∀ item ∈ items, wide item = true → narrow item = true := by
  induction items with
  | nil => exact fun _ absent => absurd absent List.not_mem_nil
  | cons first rest induction =>
      have restImplies := fun item member => implies item (List.mem_cons_of_mem first member)
      have fewer := List.countP_mono_left restImplies
      rw [List.countP_cons, List.countP_cons] at same
      have firstImplies := implies first List.mem_cons_self
      by_cases narrowFirst : narrow first = true
      · rw [if_pos narrowFirst, if_pos (firstImplies narrowFirst)] at same
        have later := induction restImplies (Nat.add_right_cancel same)
        intro item member
        rcases List.mem_cons.mp member with rfl | among
        · exact fun _ => narrowFirst
        · exact later item among
      · rw [if_neg narrowFirst] at same
        have notWide : ¬(wide first = true) := by
          intro wideFirst
          rw [if_pos wideFirst] at same
          omega
        rw [if_neg notWide] at same
        have later := induction restImplies (by omega)
        intro item member wideItem
        rcases List.mem_cons.mp member with rfl | among
        · exact absurd wideItem notWide
        · exact later item among wideItem

/-- A latency of at most a bound is counted in a bucket up to it. -/
theorem bucketFor_le {latency : ℕ} {bound : ℤ} (member : bound ∈ latencyBucketsMs)
    (covered : (latency : ℤ) ≤ bound * nanosPerMilli) :
    bucketFor latency ≠ bucketOverflow ∧ bucketFor latency ≤ bound := by
  have whole := asMillis_le latency
  have reached : asMillis latency ≤ bound := by
    unfold nanosPerMilli at whole covered
    omega
  rcases bucketFor_cases latency with ⟨among, _, least⟩ | ⟨_, past⟩
  · refine ⟨ne_bucketOverflow among, ?_⟩
    by_contra larger
    exact absurd (least bound member (not_le.mp larger)) (not_lt.mpr reached)
  · exact absurd (past bound member) (not_lt.mpr reached)

theorem storedUpTo_iff (entries : List UsageRecord) :
    (∀ bound ∈ latencyBucketsMs, (UsageRecorder.new.recordAll entries).storedUpTo bound =
        entries.countP fun entry => (entry.latency : ℤ) ≤ bound * nanosPerMilli) ↔
      ∀ entry ∈ entries, ¬Misplaced entry.latency := by
  have nothing : ∀ bound, UsageRecorder.new.storedUpTo bound = 0 := fun _ => rfl
  constructor
  · intro same entry member misplaced
    obtain ⟨finite, outgrown⟩ := (misplaced_iff entry.latency).mp misplaced
    have among : bucketFor entry.latency ∈ latencyBucketsMs := by
      rcases bucketFor_cases entry.latency with ⟨among, _⟩ | ⟨overflow, _⟩
      · exact among
      · exact absurd overflow finite
    have counts := same _ among
    rw [UsageRecorder.storedUpTo_recordAll, nothing, zero_add, Int.natCast_inj] at counts
    have covered := imp_of_countP_eq
      (fun other _ covered => decide_eq_true (bucketFor_le among (of_decide_eq_true covered)))
      counts entry member (decide_eq_true ⟨finite, le_refl _⟩)
    exact absurd (of_decide_eq_true covered) (not_le.mpr outgrown)
  · intro placed bound member
    rw [UsageRecorder.storedUpTo_recordAll, nothing, zero_add, Int.natCast_inj]
    apply List.countP_congr
    intro entry among
    rw [decide_eq_true_iff, decide_eq_true_iff]
    constructor
    · intro counted
      have covers := ((bucketBounds_iff entry.latency).mpr (placed entry among)).covers counted.1
      have below := counted.2
      unfold nanosPerMilli at covers ⊢
      omega
    · exact bucketFor_le member

theorem latency_buckets_bound_iff (latency : ℕ) (entries : List UsageRecord) :
    (BucketBounds latency ↔ ¬Misplaced latency) ∧
      ((∀ bound ∈ latencyBucketsMs, (UsageRecorder.new.recordAll entries).storedUpTo bound =
          entries.countP fun entry => (entry.latency : ℤ) ≤ bound * nanosPerMilli) ↔
        ∀ entry ∈ entries, ¬Misplaced entry.latency) :=
  ⟨bucketBounds_iff latency, storedUpTo_iff entries⟩

/-- One and a half milliseconds go into the bucket of one. -/
theorem truncated_latency_outgrows_bucket : ¬∀ latency, BucketBounds latency := by
  intro claim
  have covers := (claim 1500000).covers (by decide)
  revert covers
  decide

end SpellServer
