import SpellServer.Library.Tally

/-!
# Grouped sums

`groupSum` selects the entries of a tally by their keys and adds them up by
group, as `WHERE`, `GROUP BY` and `SUM` do.  What a group holds is decided by
the selected entries alone, and selections that split a table by a label add up
to the whole.  An `Arrangement` is an order in which unordered contents come
out; it depends on nothing but the contents.
-/

namespace Library

/-- An order in which items come out, as a function of what they are. -/
structure Arrangement where
  arrange : ∀ {α : Type}, Multiset α → List α
  arrange_coe : ∀ {α : Type} (items : Multiset α), (arrange items : Multiset α) = items

namespace Arrangement

variable {α : Type} (order : Arrangement)

theorem arrange_perm (items : List α) : (order.arrange (items : Multiset α)).Perm items :=
  Multiset.coe_eq_coe.mp (order.arrange_coe _)

theorem arrange_congr {items listed : List α} (same : items.Perm listed) :
    order.arrange (items : Multiset α) = order.arrange (listed : Multiset α) :=
  congrArg order.arrange (Multiset.coe_eq_coe.mpr same)

/-- The entries of a dictionary in the order they come out. -/
def iterate {κ ν : Type} (dict : Dict κ ν) : List (κ × ν) :=
  order.arrange (dict.pairs : Multiset (κ × ν))

theorem iterate_perm {κ ν : Type} (dict : Dict κ ν) : (order.iterate dict).Perm dict.pairs :=
  order.arrange_perm dict.pairs

open Classical in
/-- An order in which these items come out as they are listed. -/
noncomputable def listing {β : Type} (listed : List β) : Arrangement where
  arrange {α} items :=
    if given : ∃ same : β = α, items = (same ▸ listed : List α) then
      given.choose ▸ listed
    else items.toList
  arrange_coe {α} items := by
    split
    · next given => exact given.choose_spec.symm
    · exact Multiset.coe_toList items

theorem listing_perm {β : Type} {listed items : List β} (same : items.Perm listed) :
    (listing listed).arrange (items : Multiset β) = listed := by
  have given : ∃ same : β = β, (items : Multiset β) = (same ▸ listed : List β) :=
    ⟨rfl, Multiset.coe_eq_coe.mpr same⟩
  exact dif_pos given

/-- Two entries may come out first, in either order. -/
theorem exists_swapped {κ ν : Type} {dict : Dict κ ν} {one two : κ × ν}
    (oneMember : one ∈ dict.pairs) (twoMember : two ∈ dict.pairs) (differ : one ≠ two) :
    ∃ (order swapped : Arrangement) (rest : List (κ × ν)),
      order.iterate dict = one :: two :: rest ∧ swapped.iterate dict = two :: one :: rest := by
  classical
  have second : two ∈ dict.pairs.erase one := (List.mem_erase_of_ne differ.symm).mpr twoMember
  have listed : dict.pairs.Perm (one :: two :: (dict.pairs.erase one).erase two) :=
    (List.perm_cons_erase oneMember).trans ((List.perm_cons_erase second).cons one)
  exact ⟨listing _, listing _, _, listing_perm listed,
    listing_perm (listed.trans (List.Perm.swap two one _))⟩

end Arrangement

namespace Dict

section

variable {κ ν : Type*} [DecidableEq κ] {first second : Dict κ ν}

theorem mem_pairs_iff {dict : Dict κ ν} {item : κ × ν} :
    item ∈ dict.pairs ↔ dict.lookup item.1 = some item.2 := by
  constructor
  · intro member
    obtain ⟨entry, stored, rfl⟩ := List.mem_map.mp member
    exact mem_entries_iff.mp stored
  · intro found
    exact List.mem_map.mpr ⟨⟨item.1, item.2⟩, mem_entries_iff.mpr found, rfl⟩

omit [DecidableEq κ] in
theorem nodup_pairs (dict : Dict κ ν) : dict.pairs.Nodup := by
  have keys : dict.pairs.map Prod.fst = dict.keys := by
    rw [pairs, List.map_map]
    rfl
  apply List.Nodup.of_map Prod.fst
  rw [keys]
  exact AList.keys_nodup dict

theorem pairs_perm (same : ∀ key, first.lookup key = second.lookup key) :
    first.pairs.Perm second.pairs :=
  (perm_of_lookup same).map _

/-- Tables that agree on the selected keys have the same selection. -/
theorem filter_pairs_perm {keep : κ → Bool}
    (same : ∀ key, keep key = true → first.lookup key = second.lookup key) :
    (first.pairs.filter fun item => keep item.1).Perm
      (second.pairs.filter fun item => keep item.1) := by
  apply (List.perm_ext_iff_of_nodup (first.nodup_pairs.filter _)
    (second.nodup_pairs.filter _)).mpr
  intro item
  simp only [List.mem_filter, mem_pairs_iff]
  constructor
  · intro member
    exact ⟨(same _ member.2).symm.trans member.1, member.2⟩
  · intro member
    exact ⟨(same _ member.2).trans member.1, member.2⟩

end

variable {κ γ τ M N : Type*} [AddCommMonoid M] [AddCommMonoid N]

/-- A label splits a list of amounts into parts. -/
theorem sum_weighAll_filter [DecidableEq τ] (weight : κ → M →+ N) {label : κ → τ}
    {labels : Finset τ} {items : List (κ × M)}
    (labelled : ∀ item ∈ items, label item.1 ∈ labels) :
    ∑ one ∈ labels, weighAll weight (items.filter fun item => label item.1 = one) =
      weighAll weight items := by
  induction items with
  | nil => simp
  | cons item items induction =>
      have rest := induction fun other member => labelled other (List.mem_cons_of_mem _ member)
      have split : ∀ one, weighAll weight ((item :: items).filter fun item => label item.1 = one) =
          (if label item.1 = one then weight item.1 item.2 else 0) +
            weighAll weight (items.filter fun item => label item.1 = one) := by
        intro one
        rw [List.filter_cons]
        by_cases same : label item.1 = one
        · simp [same, weighAll_cons]
        · simp [same]
      rw [Finset.sum_congr rfl fun one _ => split one, Finset.sum_add_distrib, rest,
        Finset.sum_ite_eq, if_pos (labelled item List.mem_cons_self), weighAll_cons]

theorem amountAt_of_pairs_nil {κ M : Type*} [DecidableEq κ] [AddCommMonoid M] {tally : Dict κ M}
    (nothing : tally.pairs = []) (key : κ) : tally.amountAt key = 0 := by
  cases found : tally.lookup key with
  | none => simp [amountAt, found]
  | some amount =>
      have listed : (key, amount) ∈ tally.pairs := mem_pairs_iff.mpr found
      rw [nothing] at listed
      cases listed

/-- What the amounts listed under a key measure is what the key holds. -/
theorem sum_filter_iterate {κ M N : Type} [DecidableEq κ] [AddCommMonoid M] [AddCommMonoid N]
    (order : Arrangement) (measure : M → N) (zero : measure 0 = 0) (tally : Dict κ M) (key : κ) :
    (((order.iterate tally).filter fun item => item.1 = key).map fun item => measure item.2).sum =
      measure (tally.amountAt key) := by
  let held : List (κ × M) := ((tally.lookup key).map fun amount => (key, amount)).toList
  have single : held.Nodup := by
    unfold held
    cases tally.lookup key <;> simp
  have listed : ((order.iterate tally).filter fun item => item.1 = key).Perm held := by
    refine ((order.iterate_perm tally).filter _).trans ?_
    apply (List.perm_ext_iff_of_nodup (tally.nodup_pairs.filter _) single).mpr
    rintro ⟨one, amount⟩
    simp only [List.mem_filter, mem_pairs_iff, decide_eq_true_eq, held, Option.mem_toList,
      Option.map_eq_some_iff, Prod.mk.injEq]
    constructor
    · rintro ⟨stored, rfl⟩
      exact ⟨amount, stored, rfl, rfl⟩
    · rintro ⟨_, stored, rfl, rfl⟩
      exact ⟨stored, rfl⟩
  rw [(listed.map _).sum_eq, amountAt]
  unfold held
  cases tally.lookup key with
  | none => exact zero.symm
  | some amount => simp

variable [DecidableEq γ]

theorem amountAt_addAll_empty (items : List (γ × M)) (key : γ) :
    (addAll (∅ : Dict γ M) items).amountAt key = weighAll (atKey key) items := by
  rw [← weigh_atKey, weigh_addAll, weigh_empty, zero_add]

theorem isSome_lookup_addAll_empty (items : List (γ × M)) (key : γ) :
    ((addAll (∅ : Dict γ M) items).lookup key).isSome = true ↔ ∃ item ∈ items, item.1 = key := by
  unfold addAll
  rw [isSome_lookup_accumulate]
  simp

/-- An amount, and whether there is one, say what is found. -/
theorem lookup_eq_of_amountAt {first second : Dict γ M} {key : γ}
    (amounts : first.amountAt key = second.amountAt key)
    (present : (first.lookup key).isSome = true ↔ (second.lookup key).isSome = true) :
    first.lookup key = second.lookup key := by
  unfold amountAt at amounts
  cases left : first.lookup key <;> cases right : second.lookup key <;> simp_all

/-- What a list of amounts adds up to does not depend on its order. -/
theorem lookup_addAll_perm {items listed : List (γ × M)} (same : items.Perm listed) (key : γ) :
    (addAll (∅ : Dict γ M) items).lookup key = (addAll (∅ : Dict γ M) listed).lookup key := by
  have amounts : (addAll (∅ : Dict γ M) items).amountAt key =
      (addAll (∅ : Dict γ M) listed).amountAt key := by
    rw [amountAt_addAll_empty, amountAt_addAll_empty, weighAll_perm _ same]
  have present : ((addAll (∅ : Dict γ M) items).lookup key).isSome = true ↔
      ((addAll (∅ : Dict γ M) listed).lookup key).isSome = true := by
    rw [isSome_lookup_addAll_empty, isSome_lookup_addAll_empty]
    simp only [same.mem_iff]
  exact lookup_eq_of_amountAt amounts present

/-- `SELECT group, SUM(amount) FROM table WHERE keep GROUP BY group`. -/
def groupSum (keep : κ → Bool) (group : κ → γ) (table : Dict κ M) : Dict γ M :=
  addAll ∅ ((table.pairs.filter fun item => keep item.1).map fun item => (group item.1, item.2))

variable {keep : κ → Bool} {group : κ → γ} {table : Dict κ M}

theorem pairs_groupSum_perm [DecidableEq κ] {first second : Dict κ M}
    (same : ∀ key, keep key = true → first.lookup key = second.lookup key) :
    (groupSum keep group first).pairs.Perm (groupSum keep group second).pairs :=
  pairs_perm (lookup_addAll_perm ((filter_pairs_perm same).map _))

theorem amountAt_groupSum (key : γ) :
    (groupSum keep group table).amountAt key =
      weighAll (fun own => atKey key (group own))
        (table.pairs.filter fun item => keep item.1) := by
  rw [groupSum, amountAt_addAll_empty, weighAll, weighAll, List.map_map]
  rfl

theorem mem_pairs_addAll_fst [DecidableEq κ] {items : List (κ × M)} {key : κ} :
    (∃ item ∈ (addAll (∅ : Dict κ M) items).pairs, item.1 = key) ↔ ∃ item ∈ items, item.1 = key := by
  apply Iff.trans _ (isSome_lookup_addAll_empty items key)
  constructor
  · rintro ⟨item, member, rfl⟩
    rw [mem_pairs_iff.mp member]
    rfl
  · intro present
    obtain ⟨amount, found⟩ := Option.isSome_iff_exists.mp present
    exact ⟨(key, amount), mem_pairs_iff.mpr found, rfl⟩

/-- A weight of the selected keys, over a tally that a list was added to. -/
theorem weighAll_filter_addAll [DecidableEq κ] (weight : κ → M →+ N) (items : List (κ × M)) :
    weighAll weight ((addAll (∅ : Dict κ M) items).pairs.filter fun item => keep item.1) =
      weighAll weight (items.filter fun item => keep item.1) := by
  have masked : ∀ listed : List (κ × M),
      weighAll weight (listed.filter fun item => keep item.1) =
        weighAll (fun key => if keep key = true then weight key else 0) listed := by
    intro listed
    induction listed with
    | nil => rfl
    | cons item listed induction =>
        rw [List.filter_cons, weighAll_cons, ← induction]
        by_cases kept : keep item.1 = true
        · rw [if_pos kept, if_pos kept, weighAll_cons]
        · rw [if_neg kept, if_neg kept, AddMonoidHom.zero_apply, zero_add]
  rw [masked, masked, weighAll_pairs, weigh_addAll, weigh_empty, zero_add]

/-- Grouping a tally that a list was added to is adding the list up by group. -/
theorem pairs_groupSum_addAll [DecidableEq κ] (items : List (κ × M)) :
    (groupSum keep group (addAll (∅ : Dict κ M) items)).pairs.Perm
      (addAll (∅ : Dict γ M)
        ((items.filter fun item => keep item.1).map fun item => (group item.1, item.2))).pairs := by
  apply pairs_perm
  intro key
  have amounts : (groupSum keep group (addAll (∅ : Dict κ M) items)).amountAt key =
      (addAll (∅ : Dict γ M)
        ((items.filter fun item => keep item.1).map fun item =>
          (group item.1, item.2))).amountAt key := by
    rw [amountAt_groupSum, weighAll_filter_addAll, amountAt_addAll_empty, weighAll, weighAll,
      List.map_map]
    rfl
  have present : ((groupSum keep group (addAll (∅ : Dict κ M) items)).lookup key).isSome = true ↔
      ((addAll (∅ : Dict γ M) ((items.filter fun item => keep item.1).map fun item =>
        (group item.1, item.2))).lookup key).isSome = true := by
    rw [groupSum, isSome_lookup_addAll_empty, isSome_lookup_addAll_empty]
    constructor
    · rintro ⟨_, member, rfl⟩
      obtain ⟨item, kept, rfl⟩ := List.mem_map.mp member
      obtain ⟨stored, keeps⟩ := List.mem_filter.mp kept
      obtain ⟨source, listed, same⟩ := mem_pairs_addAll_fst.mp ⟨item, stored, rfl⟩
      exact ⟨_, List.mem_map_of_mem (List.mem_filter.mpr ⟨listed, by rwa [same]⟩),
        congrArg group same⟩
    · rintro ⟨_, member, rfl⟩
      obtain ⟨item, kept, rfl⟩ := List.mem_map.mp member
      obtain ⟨listed, keeps⟩ := List.mem_filter.mp kept
      obtain ⟨source, stored, same⟩ := mem_pairs_addAll_fst.mpr ⟨item, listed, rfl⟩
      exact ⟨_, List.mem_map_of_mem (List.mem_filter.mpr ⟨stored, by rwa [same]⟩),
        congrArg group same⟩
  exact lookup_eq_of_amountAt amounts present

/-- The selections by label add up to the selection without it. -/
theorem sum_amountAt_groupSum [DecidableEq κ] [DecidableEq τ] {label : κ → τ} {labels : Finset τ}
    (labelled : ∀ key amount, table.lookup key = some amount → label key ∈ labels) (key : γ) :
    ∑ one ∈ labels, (groupSum (fun own => keep own && decide (label own = one)) group
        table).amountAt key =
      (groupSum keep group table).amountAt key := by
  have parts : ∀ item ∈ table.pairs.filter fun item => keep item.1, label item.1 ∈ labels :=
    fun item member =>
      labelled item.1 item.2 (mem_pairs_iff.mp (List.mem_of_mem_filter member))
  rw [amountAt_groupSum, ← sum_weighAll_filter _ parts]
  apply Finset.sum_congr rfl
  intro one _
  rw [amountAt_groupSum, List.filter_filter]
  congr 2
  funext item
  rw [Bool.and_comm]

/-- A selection of nothing has no groups. -/
theorem pairs_groupSum_eq_nil [DecidableEq κ]
    (unkept : ∀ key amount, table.lookup key = some amount → keep key = false) :
    (groupSum keep group table).pairs = [] := by
  have nothing : (table.pairs.filter fun item => keep item.1) = [] := by
    apply List.filter_eq_nil_iff.mpr
    intro item member
    rw [unkept item.1 item.2 (mem_pairs_iff.mp member)]
    exact Bool.false_ne_true
  rw [groupSum, nothing]
  rfl

/-! ## Groups -/

section

variable {α ν : Type*} [DecidableEq κ] {key : α → κ} {default : ν} {feed : ν → α → ν}

/-- A dictionary that items were accumulated into has one entry for each of their keys,
fed the items of that key. -/
theorem pairs_accumulate_perm (items : List α) :
    (accumulate key default feed ∅ items).pairs.Perm
      ((items.map key).dedup.map fun one =>
        (one, (items.filter fun item => key item = one).foldl feed default)) := by
  have listed : ((items.map key).dedup.map fun one =>
      (one, (items.filter fun item => key item = one).foldl feed default)).Nodup := by
    apply List.Nodup.of_map Prod.fst
    rw [List.map_map]
    exact (List.map_id _).symm ▸ List.nodup_dedup _
  apply (List.perm_ext_iff_of_nodup (nodup_pairs _) listed).mpr
  intro item
  have present := isSome_lookup_accumulate key default feed ∅ items item.1
  have held := getD_lookup_accumulate key default feed ∅ items item.1
  rw [AList.lookup_empty, Option.isSome_none] at present
  rw [AList.lookup_empty, Option.getD_none] at held
  rw [mem_pairs_iff]
  constructor
  · intro found
    rw [found, Option.getD_some] at held
    rw [found] at present
    obtain ⟨own, member, same⟩ := (present.mp rfl).resolve_left Bool.false_ne_true
    exact List.mem_map.mpr ⟨item.1, List.mem_dedup.mpr (List.mem_map.mpr ⟨own, member, same⟩),
      Prod.ext rfl held.symm⟩
  · intro member
    obtain ⟨one, keyed, rfl⟩ := List.mem_map.mp member
    obtain ⟨own, inside, same⟩ := List.mem_map.mp (List.mem_dedup.mp keyed)
    obtain ⟨value, found⟩ := Option.isSome_iff_exists.mp (present.mpr (Or.inr ⟨own, inside, same⟩))
    rw [found, Option.getD_some] at held
    rw [found, held]

/-- The amounts of the groups that are asked for add up to those of their items. -/
theorem sum_groups (amount : α → M) (wanted : κ → Bool) (items : List α) :
    (((items.map key).dedup.filter wanted).map fun one =>
        ((items.filter fun item => key item = one).map amount).sum).sum =
      ((items.filter fun item => wanted (key item)).map amount).sum := by
  have distinct : ((items.map key).dedup.filter wanted).Nodup := (List.nodup_dedup _).filter _
  have own : ∀ one ∈ ((items.map key).dedup.filter wanted).toFinset,
      ((items.filter fun item => key item = one).map amount).sum =
        weighAll (fun _ => AddMonoidHom.id M)
          (((items.filter fun item => wanted (key item)).map fun item =>
            (key item, amount item)).filter fun item => id item.1 = one) := by
    intro one member
    have asked := (List.mem_filter.mp (List.mem_toFinset.mp member)).2
    rw [weighAll, List.filter_map, List.map_map, List.filter_filter]
    congr 2
    apply List.filter_congr
    intro item _
    by_cases same : key item = one
    · simp [same, asked]
    · simp [same]
  rw [← List.sum_toFinset _ distinct, Finset.sum_congr rfl own, sum_weighAll_filter, weighAll,
    List.map_map]
  · rfl
  · intro item member
    obtain ⟨source, inside, rfl⟩ := List.mem_map.mp member
    obtain ⟨stored, asked⟩ := List.mem_filter.mp inside
    exact List.mem_toFinset.mpr (List.mem_filter.mpr
      ⟨List.mem_dedup.mpr (List.mem_map_of_mem stored), asked⟩)

end

end Dict

/-- Of items listed key by key, those of one key are its own list. -/
theorem filter_flatMap_of_nodup {κ α : Type*} [DecidableEq κ] {keys : List κ}
    (distinct : keys.Nodup) {items : κ → List α} {key : α → κ}
    (own : ∀ one ∈ keys, ∀ item ∈ items one, key item = one) (wanted : κ) :
    ((keys.flatMap items).filter fun item => key item = wanted) =
      if wanted ∈ keys then items wanted else [] := by
  induction keys with
  | nil => rfl
  | cons first rest induction =>
      obtain ⟨fresh, restDistinct⟩ := List.nodup_cons.mp distinct
      rw [List.flatMap_cons, List.filter_append,
        induction restDistinct fun one member => own one (List.mem_cons_of_mem _ member)]
      have firstOwn := own first List.mem_cons_self
      by_cases same : first = wanted
      · subst same
        rw [List.filter_eq_self.mpr fun item member => decide_eq_true (firstOwn item member),
          if_neg fresh, List.append_nil, if_pos List.mem_cons_self]
      · have none : ((items first).filter fun item => key item = wanted) = [] := by
          apply List.filter_eq_nil_iff.mpr
          intro item member
          simpa [firstOwn item member] using same
        rw [none, List.nil_append]
        simp [List.mem_cons, Ne.symm same]

end Library
