import Mathlib.Data.List.Sort

/-!
# Sorting by a comparator

A stable sort keeps the order of what the comparator does not tell apart.  Where
it tells all items apart, the result depends on nothing but the items.
-/

namespace Library

open Std

section

variable {α : Type*} (cmp : α → α → Ordering) [TransCmp cmp]

theorem isLE_total (one two : α) : ((cmp one two).isLE || (cmp two one).isLE) = true := by
  rw [Bool.or_eq_true]
  by_cases order : (cmp one two).isLE = true
  · exact Or.inl order
  · right
    have greater := OrientedCmp.lt_of_not_isLE order
    rw [greater]
    rfl

theorem pairwise_sort (items : List α) :
    (items.mergeSort fun one two => (cmp one two).isLE).Pairwise
      fun one two => (cmp one two).isLE = true :=
  List.pairwise_mergeSort (fun _ _ _ => TransCmp.isLE_trans) (isLE_total cmp) items

omit [TransCmp cmp] in
/-- Items that are all told apart have one order. -/
theorem eq_of_sorted [OrientedCmp cmp] {items listed : List α} (same : items.Perm listed)
    (sorted : items.Pairwise fun one two => (cmp one two).isLE = true)
    (listedSorted : listed.Pairwise fun one two => (cmp one two).isLE = true)
    (decides : ∀ one ∈ items, ∀ two ∈ items, cmp one two = .eq → one = two) :
    items = listed := by
  refine List.Perm.eq_of_pairwise ?_ sorted listedSorted same
  intro one two oneMember twoMember before after
  have tied : cmp one two = .eq := OrientedCmp.isLE_antisymm before after
  exact decides one oneMember two (same.mem_iff.mpr twoMember) tied

omit [TransCmp cmp] in
/-- Sorted entries of the same keys, when the comparator tells the entries apart. -/
theorem eq_of_sorted_map [OrientedCmp cmp] {κ : Type*} {keys others : List κ} {entry : κ → α}
    {items listed : List α} (same : keys.Perm others) (perm : items.Perm (keys.map entry))
    (listedPerm : listed.Perm (others.map entry))
    (sorted : items.Pairwise fun one two => (cmp one two).isLE = true)
    (listedSorted : listed.Pairwise fun one two => (cmp one two).isLE = true)
    (decides : ∀ one ∈ keys, ∀ two ∈ keys,
      cmp (entry one) (entry two) = .eq → entry one = entry two) : items = listed := by
  refine eq_of_sorted cmp (perm.trans ((same.map entry).trans listedPerm.symm)) sorted
    listedSorted ?_
  intro one oneMember two twoMember tied
  obtain ⟨oneKey, oneInside, rfl⟩ := List.mem_map.mp (perm.mem_iff.mp oneMember)
  obtain ⟨twoKey, twoInside, rfl⟩ := List.mem_map.mp (perm.mem_iff.mp twoMember)
  exact decides oneKey oneInside twoKey twoInside tied

/-- Items that are not told apart stay in their order. -/
theorem filter_sort {wanted : α → Bool}
    (tied : ∀ one two, wanted one = true → wanted two = true → (cmp one two).isLE = true)
    (items : List α) :
    (items.mergeSort fun one two => (cmp one two).isLE).filter wanted = items.filter wanted := by
  have ordered : (items.filter wanted).Pairwise fun one two => (cmp one two).isLE = true := by
    apply List.pairwise_of_forall_mem_list
    intro one oneMember two twoMember
    exact tied one two (List.mem_filter.mp oneMember).2 (List.mem_filter.mp twoMember).2
  have within := (List.sublist_mergeSort (fun _ _ _ => TransCmp.isLE_trans) (isLE_total cmp) ordered
    List.filter_sublist).filter wanted
  rw [List.filter_filter] at within
  simp only [Bool.and_self] at within
  exact (within.eq_of_length ((List.mergeSort_perm _ _).filter wanted).length_eq.symm).symm

end

end Library
