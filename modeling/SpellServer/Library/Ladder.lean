import Mathlib.Data.List.Induction
import Mathlib.Data.List.Sort
import Mathlib.Order.Lattice

/-!
# Ladders of bounds

A ladder is a list of bounds in increasing order.  A value belongs to the first
bound it does not exceed; the bound before that one is where its rung begins.
-/

namespace Library

namespace Ladder

variable {α : Type*} [LinearOrder α] {bounds : List α}

/-- The first bound that a value does not exceed. -/
def firstAtLeast (bounds : List α) (value : α) : Option α := bounds.find? (value ≤ ·)

/-- The bound before a given one; `start` lies before the first. -/
def preceding (start : α) (bounds : List α) (bound : α) : α :=
  (bounds.filter (· < bound)).getLastD start

theorem firstAtLeast_eq_some_iff (sorted : bounds.Pairwise (· < ·)) {value bound : α} :
    firstAtLeast bounds value = some bound ↔
      bound ∈ bounds ∧ value ≤ bound ∧ ∀ other ∈ bounds, other < bound → other < value := by
  unfold firstAtLeast
  induction bounds with
  | nil => simp
  | cons first rest induction =>
      obtain ⟨below, restSorted⟩ := List.pairwise_cons.mp sorted
      by_cases reaches : value ≤ first
      · rw [List.find?_cons_of_pos (by simpa using reaches), Option.some.injEq]
        constructor
        · intro same
          subst bound
          refine ⟨List.mem_cons_self, reaches, ?_⟩
          intro other member less
          rcases List.mem_cons.mp member with rfl | later
          · exact absurd less (lt_irrefl _)
          · exact absurd (less.trans (below other later)) (lt_irrefl _)
        · intro least
          obtain ⟨member, _, smaller⟩ := least
          rcases List.mem_cons.mp member with same | later
          · exact same.symm
          · exact absurd reaches (not_le.mpr (smaller first List.mem_cons_self (below _ later)))
      · rw [List.find?_cons_of_neg (by simpa using reaches), induction restSorted]
        have passed := not_le.mp reaches
        constructor
        · intro least
          obtain ⟨member, covers, smaller⟩ := least
          refine ⟨List.mem_cons_of_mem _ member, covers, ?_⟩
          intro other among less
          rcases List.mem_cons.mp among with rfl | later
          · exact passed
          · exact smaller other later less
        · intro least
          obtain ⟨member, covers, smaller⟩ := least
          rcases List.mem_cons.mp member with rfl | later
          · exact absurd covers reaches
          · exact ⟨later, covers, fun other among => smaller other (List.mem_cons_of_mem _ among)⟩

theorem firstAtLeast_eq_none_iff {value : α} :
    firstAtLeast bounds value = none ↔ ∀ bound ∈ bounds, bound < value := by
  simp [firstAtLeast]

theorem preceding_cases (start : α) (bounds : List α) (bound : α) :
    preceding start bounds bound = start ∨
      (preceding start bounds bound ∈ bounds ∧ preceding start bounds bound < bound) := by
  unfold preceding
  rcases List.eq_nil_or_concat' (bounds.filter (· < bound)) with none | ⟨front, last, ends⟩
  · left
    rw [none]
    rfl
  · right
    have member : last ∈ bounds.filter (· < bound) := by
      rw [ends]
      simp
    rw [ends, List.getLastD_concat]
    simpa using member

/-- Nothing on the ladder lies between a bound and the one before it. -/
theorem le_preceding (sorted : bounds.Pairwise (· < ·)) {start bound other : α}
    (member : other ∈ bounds) (less : other < bound) : other ≤ preceding start bounds bound := by
  have among : other ∈ bounds.filter (· < bound) := by simp [member, less]
  have ordered := sorted.filter (· < bound)
  unfold preceding
  rcases List.eq_nil_or_concat' (bounds.filter (· < bound)) with none | ⟨front, last, ends⟩
  · rw [none] at among
    cases among
  · rw [ends] at among ordered ⊢
    rw [List.getLastD_concat]
    rcases List.mem_append.mp among with before | same
    · exact le_of_lt ((List.pairwise_append.mp ordered).2.2 other before last
        (List.mem_singleton.mpr rfl))
    · exact le_of_eq (List.mem_singleton.mp same)

/-- What stands before a bound is what is less. -/
theorem filter_lt_of_split {before after : List α} {bound : α}
    (sorted : (before ++ bound :: after).Pairwise (· < ·)) :
    (before ++ bound :: after).filter (· < bound) = before := by
  obtain ⟨_, afterSorted, order⟩ := List.pairwise_append.mp sorted
  have above := (List.pairwise_cons.mp afterSorted).1
  have kept : before.filter (· < bound) = before :=
    List.filter_eq_self.mpr fun other member =>
      decide_eq_true (order other member bound List.mem_cons_self)
  have dropped : after.filter (· < bound) = [] :=
    List.filter_eq_nil_iff.mpr fun other member =>
      mt of_decide_eq_true (not_lt.mpr (le_of_lt (above other member)))
  simp [List.filter_append, kept, dropped]

/-! ## Items by bound -/

section Items

variable {β : Type*} {key : β → α} {items : List β}

/-- Items in the order of their keys come bound by bound. -/
theorem eq_flatMap_filter (sorted : bounds.Pairwise (· < ·))
    (ascending : items.Pairwise fun one two => key one ≤ key two)
    (keys : ∀ item ∈ items, key item ∈ bounds) :
    items = bounds.flatMap fun bound => items.filter fun item => key item = bound := by
  induction items with
  | nil => simp
  | cons item items induction =>
      obtain ⟨above, restAscending⟩ := List.pairwise_cons.mp ascending
      have rest := induction restAscending fun other member =>
        keys other (List.mem_cons_of_mem _ member)
      obtain ⟨before, after, parts⟩ := List.append_of_mem (keys item List.mem_cons_self)
      rw [parts] at sorted rest ⊢
      obtain ⟨_, afterSorted, order⟩ := List.pairwise_append.mp sorted
      -- No item lies below the first one.
      have nothing : ∀ list : List β, (∀ other ∈ list, key item ≤ key other) →
          (before.flatMap fun bound => list.filter fun item => key item = bound) = [] := by
        intro list from_item
        apply List.flatMap_eq_nil_iff.mpr
        intro bound member
        apply List.filter_eq_nil_iff.mpr
        intro other among
        have less := order bound member (key item) List.mem_cons_self
        have same : key other ≠ bound := ne_of_gt (less.trans_le (from_item other among))
        simpa using same
      have later : (after.flatMap fun bound => (item :: items).filter fun item => key item = bound) =
          after.flatMap fun bound => items.filter fun item => key item = bound := by
        apply List.flatMap_congr
        intro bound member
        have less := (List.pairwise_cons.mp afterSorted).1 bound member
        exact List.filter_cons_of_neg (by simpa using ne_of_lt less)
      have from_item : ∀ other ∈ item :: items, key item ≤ key other := by
        intro other member
        rcases List.mem_cons.mp member with rfl | among
        · exact le_refl _
        · exact above other among
      rw [List.flatMap_append, List.flatMap_cons, nothing items above, List.nil_append] at rest
      rw [List.flatMap_append, List.flatMap_cons, nothing _ from_item, List.nil_append, later,
        List.filter_cons_of_pos (by simp), List.cons_append]
      exact congrArg (item :: ·) rest

/-- Sorting keeps the order of the items that share a bound. -/
theorem mergeSort_eq_flatMap (sorted : bounds.Pairwise (· < ·))
    (keys : ∀ item ∈ items, key item ∈ bounds) :
    (items.mergeSort fun one two => key one ≤ key two) =
      bounds.flatMap fun bound => items.filter fun item => key item = bound := by
  have trans : ∀ one two three : β, decide (key one ≤ key two) = true →
      decide (key two ≤ key three) = true → decide (key one ≤ key three) = true := by
    intro one two three first second
    exact decide_eq_true ((of_decide_eq_true first).trans (of_decide_eq_true second))
  have total : ∀ one two : β, (decide (key one ≤ key two) || decide (key two ≤ key one)) = true := by
    intro one two
    simpa using le_total (key one) (key two)
  have perm := List.mergeSort_perm items fun one two => key one ≤ key two
  have ascending := List.pairwise_mergeSort trans total items
  rw [eq_flatMap_filter sorted (ascending.imp of_decide_eq_true)
    fun item member => keys item (perm.mem_iff.mp member)]
  apply List.flatMap_congr
  intro bound _
  -- The items of one bound are in order already, so sorting leaves them so.
  have stable : (items.filter fun item => key item = bound).Sublist
      (items.mergeSort fun one two => key one ≤ key two) := by
    apply List.sublist_mergeSort trans total _ List.filter_sublist
    apply List.pairwise_of_forall_mem_list
    intro one first two second
    have same := of_decide_eq_true (List.mem_filter.mp first).2
    have other := of_decide_eq_true (List.mem_filter.mp second).2
    exact decide_eq_true (le_of_eq (same.trans other.symm))
  have kept := stable.filter fun item => key item = bound
  rw [List.filter_filter] at kept
  refine (List.Sublist.eq_of_length ?_ ((perm.filter _).length_eq).symm).symm
  simpa using kept

omit [LinearOrder α] in
/-- The last item listed bound by bound has the last bound that has items. -/
theorem getLastD_flatMap (bounds : List α) (items : α → List β)
    (keys : ∀ bound, ∀ item ∈ items bound, key item = bound) (start : α) :
    ((bounds.flatMap items).map key).getLastD start =
      (bounds.filter fun bound => items bound ≠ []).getLastD start := by
  induction bounds using List.reverseRecOn with
  | nil => rfl
  | append_singleton bounds bound induction =>
      rw [List.flatMap_append, List.flatMap_singleton, List.map_append, List.filter_append]
      rcases List.eq_nil_or_concat' (items bound) with none | ⟨front, last, ends⟩
      · have dropped : [bound].filter (fun bound => items bound ≠ []) = [] := by simp [none]
        rw [none, dropped, List.map_nil, List.append_nil, List.append_nil]
        exact induction
      · have same : key last = bound := keys bound last (by rw [ends]; simp)
        have some_items : items bound ≠ [] := by simp [ends]
        have single : [bound].filter (fun bound => items bound ≠ []) = [bound] := by
          simp [some_items]
        rw [single, List.getLastD_concat, ends, List.map_append, ← List.append_assoc]
        simp [same]

end Items

end Ladder

end Library
