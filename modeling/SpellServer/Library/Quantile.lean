import Mathlib.Algebra.BigOperators.Group.List.Basic
import Mathlib.Algebra.Order.BigOperators.Group.List
import Mathlib.Algebra.Order.Field.Basic
import Mathlib.Data.List.Sort
import Mathlib.Tactic.Linarith

/-!
# Quantiles of a counted histogram

A histogram is a list of rows, each an upper bound and a count.  The walk to a
rank adds up the counts and interpolates in the row that reaches the rank, from
the bound of the row before it.  Where several rows have the same bound, only the
first of them has a width.
-/

namespace Library

section Interpolate

variable {K : Type*} [Field K] [LinearOrder K] [IsStrictOrderedRing K]

/-- The point a fraction of the way from one bound to another. -/
def between (lower upper fraction : K) : K :=
  lower + (upper - lower) * max 0 (min fraction 1)

/-- The value at a rank, or `none` where the rows do not reach it. -/
def interpolate (rank : K) : List (K × K) → K → K → Option K
  | [], _, _ => none
  | (upper, count) :: rest, cumulative, lower =>
      if count ≤ 0 then interpolate rank rest cumulative upper
      else if rank ≤ cumulative + count then
        some (between lower upper ((rank - cumulative) / count))
      else interpolate rank rest (cumulative + count) upper

theorem le_between {lower upper : K} (order : lower ≤ upper) (fraction : K) :
    lower ≤ between lower upper fraction := by
  unfold between
  have width := sub_nonneg.mpr order
  have part := mul_nonneg width (le_max_left 0 (min fraction 1))
  linarith

theorem between_le {lower upper : K} (order : lower ≤ upper) (fraction : K) :
    between lower upper fraction ≤ upper := by
  unfold between
  have width := sub_nonneg.mpr order
  have whole : max 0 (min fraction 1) ≤ 1 := max_le zero_le_one (min_le_right _ _)
  have part := mul_le_mul_of_nonneg_left whole width
  linarith

theorem between_mono {lower upper first second : K} (order : lower ≤ upper)
    (fractions : first ≤ second) : between lower upper first ≤ between lower upper second := by
  unfold between
  have width := sub_nonneg.mpr order
  have clamped : max 0 (min first 1) ≤ max 0 (min second 1) :=
    max_le_max_left 0 (min_le_min_right 1 fractions)
  have part := mul_le_mul_of_nonneg_left clamped width
  linarith

theorem between_of_one_le {lower upper fraction : K} (whole : 1 ≤ fraction) :
    between lower upper fraction = upper := by
  rw [between, min_eq_right whole, max_eq_right zero_le_one, mul_one, add_sub_cancel]

omit [IsStrictOrderedRing K] in
theorem between_of_unit {lower upper fraction : K} (least : 0 ≤ fraction) (most : fraction ≤ 1) :
    between lower upper fraction = lower + (upper - lower) * fraction := by
  rw [between, min_eq_left most, max_eq_right least]

variable {rank cumulative lower value : K} {rows front rest : List (K × K)}

/-- The value lies between the bound the walk starts from and some bound of the rows. -/
theorem interpolate_bounds (ascending : rows.Pairwise fun one two => one.1 ≤ two.1)
    (below : ∀ row ∈ rows, lower ≤ row.1)
    (found : interpolate rank rows cumulative lower = some value) :
    lower ≤ value ∧ ∃ row ∈ rows, value ≤ row.1 := by
  induction rows generalizing cumulative lower with
  | nil => cases found
  | cons row rest induction =>
      obtain ⟨upper, count⟩ := row
      obtain ⟨above, restAscending⟩ := List.pairwise_cons.mp ascending
      have order : lower ≤ upper := below _ List.mem_cons_self
      have later : ∀ {cumulative}, interpolate rank rest cumulative upper = some value →
          lower ≤ value ∧ ∃ row ∈ (upper, count) :: rest, value ≤ row.1 := by
        intro cumulative found
        obtain ⟨least, row, member, most⟩ := induction restAscending above found
        exact ⟨order.trans least, row, List.mem_cons_of_mem _ member, most⟩
      unfold interpolate at found
      split at found
      · exact later found
      · split at found
        · cases found
          exact ⟨le_between order _, _, List.mem_cons_self, between_le order _⟩
        · exact later found

/-- A higher rank has a higher value. -/
theorem interpolate_mono (ascending : rows.Pairwise fun one two => one.1 ≤ two.1)
    (below : ∀ row ∈ rows, lower ≤ row.1) {higher least most : K} (order : rank ≤ higher)
    (first : interpolate rank rows cumulative lower = some least)
    (second : interpolate higher rows cumulative lower = some most) : least ≤ most := by
  induction rows generalizing cumulative lower with
  | nil => cases first
  | cons row rest induction =>
      obtain ⟨upper, count⟩ := row
      obtain ⟨above, restAscending⟩ := List.pairwise_cons.mp ascending
      have edge : lower ≤ upper := below _ List.mem_cons_self
      unfold interpolate at first second
      split at first
      · rename_i empty
        rw [if_pos empty] at second
        exact induction restAscending above first second
      · rename_i counted
        rw [if_neg counted] at second
        have positive := not_le.mp counted
        by_cases reached : higher ≤ cumulative + count
        · rw [if_pos reached] at second
          rw [if_pos (order.trans reached)] at first
          cases first
          cases second
          apply between_mono edge
          exact div_le_div_of_nonneg_right (sub_le_sub_right order _) (le_of_lt positive)
        · rw [if_neg reached] at second
          split at first
          · cases first
            exact (between_le edge _).trans
              (interpolate_bounds restAscending above second).1
          · exact induction restAscending above first second

omit [IsStrictOrderedRing K] in
/-- Rows that reach a rank reach every lower one. -/
theorem interpolate_earlier {higher : K} (order : rank ≤ higher)
    (found : interpolate higher rows cumulative lower = some value) :
    ∃ earlier, interpolate rank rows cumulative lower = some earlier := by
  induction rows generalizing cumulative lower with
  | nil => cases found
  | cons row rest induction =>
      unfold interpolate at found ⊢
      split at found
      · rename_i empty
        rw [if_pos empty]
        exact induction found
      · rename_i counted
        rw [if_neg counted]
        split
        · exact ⟨_, rfl⟩
        · rename_i missed
          rw [if_neg fun reached => missed (order.trans reached)] at found
          exact induction found

omit [IsStrictOrderedRing K] in
theorem sum_counts_eq_zero (counts : ∀ row ∈ rows, 0 ≤ row.2)
    (none : ¬∃ row ∈ rows, 0 < row.2) : (rows.map Prod.snd).sum = 0 := by
  apply List.sum_eq_zero
  intro count member
  obtain ⟨row, among, rfl⟩ := List.mem_map.mp member
  by_contra nonzero
  exact none ⟨row, among, lt_of_le_of_ne (counts row among) (Ne.symm nonzero)⟩

theorem counts_eq_zero_of_sum (counts : ∀ row ∈ rows, 0 ≤ row.2)
    (nothing : (rows.map Prod.snd).sum = 0) : ∀ row ∈ rows, row.2 = 0 := by
  intro row member
  refine List.all_zero_of_le_zero_le_of_sum_eq_zero ?_ nothing (List.mem_map_of_mem member)
  intro count listed
  obtain ⟨other, among, rfl⟩ := List.mem_map.mp listed
  exact counts other among

omit [IsStrictOrderedRing K] in
/-- Rows that count enough reach the rank. -/
theorem interpolate_reaches (counts : ∀ row ∈ rows, 0 ≤ row.2) (some_count : ∃ row ∈ rows, 0 < row.2)
    (reached : rank ≤ cumulative + (rows.map Prod.snd).sum) :
    ∃ value, interpolate rank rows cumulative lower = some value := by
  induction rows generalizing cumulative lower with
  | nil =>
      obtain ⟨_, absent, _⟩ := some_count
      cases absent
  | cons row rest induction =>
      obtain ⟨upper, count⟩ := row
      have restCounts : ∀ row ∈ rest, 0 ≤ row.2 :=
        fun row member => counts row (List.mem_cons_of_mem _ member)
      rw [List.map_cons, List.sum_cons, ← add_assoc] at reached
      unfold interpolate
      split
      · rename_i empty
        have zero : count = 0 := le_antisymm empty (counts _ List.mem_cons_self)
        apply induction restCounts
        · obtain ⟨row, member, positive⟩ := some_count
          rcases List.mem_cons.mp member with same | among
          · rw [same] at positive
            exact absurd positive (not_lt.mpr empty)
          · exact ⟨row, among, positive⟩
        · rw [zero, add_zero] at reached
          exact reached
      · split
        · exact ⟨_, rfl⟩
        · rename_i missed
          apply induction restCounts
          · by_contra none
            rw [sum_counts_eq_zero restCounts none, add_zero] at reached
            exact missed reached
          · exact reached

omit [IsStrictOrderedRing K] in
theorem interpolate_append_left (found : interpolate rank front cumulative lower = some value) :
    interpolate rank (front ++ rest) cumulative lower = some value := by
  induction front generalizing cumulative lower with
  | nil => cases found
  | cons row front induction =>
      rw [List.cons_append]
      unfold interpolate at found ⊢
      split at found
      · rename_i empty
        rw [if_pos empty]
        exact induction found
      · rename_i counted
        rw [if_neg counted]
        split at found
        · rename_i reached
          rw [if_pos reached]
          exact found
        · rename_i missed
          rw [if_neg missed]
          exact induction found

/-- The walk passes rows that do not reach the rank. -/
theorem interpolate_append (counts : ∀ row ∈ front, 0 ≤ row.2)
    (missed : (∀ row ∈ front, row.2 = 0) ∨ cumulative + (front.map Prod.snd).sum < rank) :
    interpolate rank (front ++ rest) cumulative lower =
      interpolate rank rest (cumulative + (front.map Prod.snd).sum)
        ((front.map Prod.fst).getLastD lower) := by
  induction front generalizing cumulative lower with
  | nil => simp
  | cons row front induction =>
      obtain ⟨upper, count⟩ := row
      have restCounts : ∀ row ∈ front, 0 ≤ row.2 :=
        fun row member => counts row (List.mem_cons_of_mem _ member)
      have rest_nonneg : 0 ≤ (front.map Prod.snd).sum := by
        apply List.sum_nonneg
        intro count member
        obtain ⟨row, among, rfl⟩ := List.mem_map.mp member
        exact restCounts row among
      rw [List.cons_append, interpolate, List.map_cons, List.map_cons, List.sum_cons,
        List.getLastD_cons, ← add_assoc]
      rw [List.map_cons, List.sum_cons, ← add_assoc] at missed
      split
      · rename_i empty
        have zero : count = 0 := le_antisymm empty (counts _ List.mem_cons_self)
        rw [zero, add_zero] at missed ⊢
        apply induction restCounts
        exact missed.imp_left fun nothing row member => nothing row (List.mem_cons_of_mem _ member)
      · rename_i counted
        rcases missed with nothing | short
        · exact absurd (le_of_eq (nothing _ List.mem_cons_self)) counted
        · rw [if_neg (not_le.mpr (by linarith))]
          exact induction restCounts (Or.inr short)

/-- Behind the first row of a bound there is no width left. -/
theorem interpolate_same_bound {bound : K} (same : ∀ row ∈ rows, row.1 = bound)
    (counts : ∀ row ∈ rows, 0 ≤ row.2) (some_count : ∃ row ∈ rows, 0 < row.2)
    (reached : rank ≤ cumulative + (rows.map Prod.snd).sum) :
    interpolate rank (rows ++ rest) cumulative bound = some bound := by
  have found : ∃ value, interpolate rank rows cumulative bound = some value :=
    interpolate_reaches counts some_count reached
  obtain ⟨value, found⟩ := found
  have ascending : rows.Pairwise fun one two => one.1 ≤ two.1 :=
    List.pairwise_of_forall_mem_list fun one first two second =>
      le_of_eq ((same one first).trans (same two second).symm)
  obtain ⟨least, row, member, most⟩ :=
    interpolate_bounds ascending (fun row member => ge_of_eq (same row member)) found
  rw [same row member] at most
  rw [interpolate_append_left found, le_antisymm most least]

/-- The value within the rows of one bound depends on the first of them alone. -/
theorem interpolate_first {bound first distance : K} (same : ∀ row ∈ rows, row.1 = bound)
    (counts : ∀ row ∈ rows, 0 ≤ row.2) (first_nonneg : 0 ≤ first)
    (positive : 0 < first + (rows.map Prod.snd).sum)
    (reached : distance ≤ first + (rows.map Prod.snd).sum) :
    interpolate (cumulative + distance) ((bound, first) :: rows ++ rest) cumulative lower =
      some (if first = 0 then bound else between lower bound (distance / first)) := by
  have later : first = 0 ∨ first < distance → ∃ row ∈ rows, 0 < row.2 := by
    intro short
    by_contra none
    rw [sum_counts_eq_zero counts none, add_zero] at positive reached
    rcases short with zero | less
    · exact absurd positive (not_lt.mpr (le_of_eq zero))
    · exact absurd reached (not_le.mpr less)
  rw [List.cons_append, interpolate]
  by_cases zero : first = 0
  · rw [zero, zero_add] at reached
    rw [if_pos (le_of_eq zero), if_pos zero]
    exact interpolate_same_bound same counts (later (Or.inl zero)) (add_le_add_right reached _)
  · have counted : 0 < first := lt_of_le_of_ne first_nonneg (Ne.symm zero)
    rw [if_neg (not_le.mpr counted), if_neg zero]
    by_cases inside : distance ≤ first
    · rw [if_pos (add_le_add_right inside _), add_sub_cancel_left]
    · have past := not_le.mp inside
      rw [if_neg (not_le.mpr (add_lt_add_right past _)),
        between_of_one_le ((one_le_div counted).mpr (le_of_lt past))]
      apply interpolate_same_bound same counts (later (Or.inr past))
      rw [add_assoc]
      exact add_le_add_right reached _

end Interpolate

/-- A rank that is reached lies within some row that counts. -/
theorem rank_inside {K α : Type*} [Field K] [LinearOrder K] [IsStrictOrderedRing K] {count : α → K}
    {bounds : List α} {rank : K} (counts : ∀ bound ∈ bounds, 0 ≤ count bound) (rank_nonneg : 0 ≤ rank)
    (positive : 0 < (bounds.map count).sum) (reached : rank ≤ (bounds.map count).sum) :
    ∃ before bound after distance, bounds = before ++ bound :: after ∧
      0 < count bound ∧ distance ≤ count bound ∧ rank = (before.map count).sum + distance ∧
      (0 < distance ∨ (before.map count).sum = 0) := by
  induction bounds generalizing rank with
  | nil => exact absurd positive (lt_irrefl 0)
  | cons first rest induction =>
      have first_nonneg := counts first List.mem_cons_self
      have restCounts : ∀ bound ∈ rest, 0 ≤ count bound :=
        fun bound member => counts bound (List.mem_cons_of_mem _ member)
      rw [List.map_cons, List.sum_cons] at positive reached
      by_cases inside : 0 < count first ∧ rank ≤ count first
      · exact ⟨[], first, rest, rank, rfl, inside.1, inside.2, by simp, Or.inr rfl⟩
      · have left : 0 ≤ rank - count first ∧ (0 < rank - count first ∨ count first = 0) := by
          rcases first_nonneg.lt_or_eq with counted | zero
          · have past := not_le.mp fun covers => inside ⟨counted, covers⟩
            exact ⟨by linarith, Or.inl (by linarith)⟩
          · exact ⟨by linarith, Or.inr zero.symm⟩
        have restPositive : 0 < (rest.map count).sum := by
          rcases left.2 with past | zero <;> linarith
        obtain ⟨before, bound, after, distance, parts, counted, covers, same, started⟩ :=
          induction restCounts left.1 restPositive (by linarith)
        refine ⟨first :: before, bound, after, distance, by rw [parts, List.cons_append], counted,
          covers, ?_, ?_⟩
        · rw [List.map_cons, List.sum_cons]
          linarith
        · rw [List.map_cons, List.sum_cons]
          rcases started with past | nothing
          · exact Or.inl past
          · rw [nothing, zero_add] at same
            rw [nothing, add_zero, ← same]
            exact left.2

end Library
