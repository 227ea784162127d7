import Mathlib
import SpellServer.Library.Accumulate

/-!
# Tallies

A tally is a dictionary of amounts in a commutative monoid; a missing key holds
nothing.  What a tally holds is measured by a weight, which is additive in the
amounts of each key.  Feeding a list of amounts to a tally, listing a tally and
emptying it neither lose nor double any weight, and the weight `atKey` gives
back the amount under one key.
-/

namespace Library

namespace Dict

variable {κ M N : Type*} [AddCommMonoid M] [AddCommMonoid N]

/-- The amounts of a tally as a list. -/
def pairs (tally : Dict κ M) : List (κ × M) :=
  tally.entries.map fun entry => (entry.1, entry.2)

/-- The weight of a list of amounts. -/
def weighAll (weight : κ → M →+ N) (items : List (κ × M)) : N :=
  (items.map fun item => weight item.1 item.2).sum

theorem weighAll_append (weight : κ → M →+ N) (items later : List (κ × M)) :
    weighAll weight (items ++ later) = weighAll weight items + weighAll weight later := by
  rw [weighAll, List.map_append, List.sum_append]
  rfl

@[simp] theorem weighAll_nil (weight : κ → M →+ N) : weighAll weight [] = 0 := rfl

theorem weighAll_cons (weight : κ → M →+ N) (item : κ × M) (items : List (κ × M)) :
    weighAll weight (item :: items) = weight item.1 item.2 + weighAll weight items := rfl

theorem weighAll_perm (weight : κ → M →+ N) {items listed : List (κ × M)}
    (same : listed.Perm items) : weighAll weight listed = weighAll weight items :=
  (same.map _).sum_eq

/-- Taking one part out of a list of parts takes its weight. -/
theorem weighAll_flatMap_eraseIdx {α : Type*} (weight : κ → M →+ N) (amounts : α → List (κ × M))
    {parts : List α} {position : ℕ} {part : α} (found : parts[position]? = some part) :
    weighAll weight (parts.flatMap amounts) =
      weighAll weight (amounts part) +
        weighAll weight ((parts.eraseIdx position).flatMap amounts) := by
  obtain ⟨inside, rfl⟩ := List.getElem?_eq_some_iff.mp found
  rw [← weighAll_append, ← List.flatMap_cons]
  exact (weighAll_perm weight ((List.getElem_cons_eraseIdx_perm inside).flatMap_right _)).symm

/-- The weight of a tally. -/
def weigh (weight : κ → M →+ N) (tally : Dict κ M) : N :=
  tally.total fun key amount => weight key amount

@[simp] theorem weigh_empty (weight : κ → M →+ N) : weigh weight (∅ : Dict κ M) = 0 := rfl

theorem weighAll_pairs (weight : κ → M →+ N) (tally : Dict κ M) :
    weighAll weight tally.pairs = weigh weight tally := by
  unfold weighAll pairs weigh total
  rw [List.map_map]
  rfl

@[simp] theorem weighAll_zero (items : List (κ × M)) :
    weighAll (0 : κ → M →+ N) items = 0 := by
  apply List.sum_eq_zero
  intro amount member
  obtain ⟨item, _, rfl⟩ := List.mem_map.mp member
  rfl

@[simp] theorem weigh_zero (tally : Dict κ M) : weigh (0 : κ → M →+ N) tally = 0 := by
  rw [← weighAll_pairs, weighAll_zero]

/-- A selection of keys splits a tally in two. -/
theorem weigh_retain_add (weight : κ → M →+ N) (removed : κ → Bool) (tally : Dict κ M) :
    weigh weight (tally.retain fun key _ => !removed key) +
        weighAll weight (tally.pairs.filter fun item => removed item.1) =
      weigh weight tally := by
  have kept : (tally.retain fun key _ => !removed key).pairs =
      tally.pairs.filter fun item => !removed item.1 := by
    unfold pairs retain
    rw [List.filter_map]
    rfl
  rw [← weighAll_pairs, ← weighAll_pairs, kept, ← weighAll_append]
  apply weighAll_perm
  exact List.perm_append_comm.trans (List.filter_append_perm (fun item => removed item.1) tally.pairs)

variable [DecidableEq κ]

/-- Add an amount under a key. -/
def add (key : κ) (amount : M) (tally : Dict κ M) : Dict κ M :=
  tally.alter key 0 fun held => held + amount

def addAll (tally : Dict κ M) (items : List (κ × M)) : Dict κ M :=
  tally.accumulate Prod.fst 0 (fun held item => held + item.2) items

theorem weigh_add (weight : κ → M →+ N) (key : κ) (amount : M) (tally : Dict κ M) :
    weigh weight (tally.add key amount) = weigh weight tally + weight key amount :=
  total_alter (by rw [map_zero]) (by intro held; rw [map_add]) tally

theorem weigh_addAll (weight : κ → M →+ N) (tally : Dict κ M) (items : List (κ × M)) :
    weigh weight (tally.addAll items) = weigh weight tally + weighAll weight items :=
  total_accumulate (by intro key; rw [map_zero]) (by intro held item; rw [map_add]) tally items

def amountAt (key : κ) (tally : Dict κ M) : M := (tally.lookup key).getD 0

/-- The weight that counts one key only. -/
def atKey (key : κ) (other : κ) : M →+ M :=
  if other = key then AddMonoidHom.id M else 0

@[simp] theorem atKey_self (key : κ) (amount : M) : atKey key key amount = amount := by
  simp [atKey]

theorem atKey_of_ne {key other : κ} (differs : other ≠ key) (amount : M) :
    atKey key other amount = 0 := by
  simp [atKey, differs]

theorem weigh_atKey (key : κ) (tally : Dict κ M) :
    weigh (atKey key) tally = tally.amountAt key := by
  have others : weigh (atKey key) (tally.erase key) = 0 := by
    apply List.sum_eq_zero
    intro amount member
    obtain ⟨entry, stored, rfl⟩ := List.mem_map.mp member
    have found := mem_entries_iff.mp stored
    apply atKey_of_ne
    intro same
    rw [lookup_erase_ite, if_pos same] at found
    cases found
  unfold amountAt
  cases found : tally.lookup key with
  | none =>
      rw [← others]
      exact (total_of_lookup_none found).symm
  | some amount =>
      have parts : weigh (atKey key) tally =
          atKey key key amount + weigh (atKey key) (tally.erase key) := total_of_lookup found
      rw [parts, others, atKey_self, add_zero, Option.getD_some]

/-! ## Amounts of one kind -/

/-- Every amount lies in the submonoid. -/
def Within (kind : AddSubmonoid M) (tally : Dict κ M) : Prop :=
  ∀ key amount, tally.lookup key = some amount → amount ∈ kind

variable {kind : AddSubmonoid M} {tally : Dict κ M}

theorem within_empty : Within kind (∅ : Dict κ M) := by
  intro key amount found
  cases found

theorem Within.amountAt_mem (within : tally.Within kind) (key : κ) :
    tally.amountAt key ∈ kind := by
  unfold amountAt
  cases found : tally.lookup key with
  | none => exact kind.zero_mem
  | some amount => exact within key amount found

theorem Within.add (within : tally.Within kind) {key : κ} {amount : M} (member : amount ∈ kind) :
    (tally.add key amount).Within kind := by
  intro other held found
  rw [Dict.add, lookup_alter] at found
  by_cases same : other = key
  · rw [if_pos same, Option.some.injEq] at found
    subst held
    exact kind.add_mem (within.amountAt_mem key) member
  · rw [if_neg same] at found
    exact within other held found

theorem Within.addAll (within : tally.Within kind) {items : List (κ × M)}
    (members : ∀ item ∈ items, item.2 ∈ kind) : (tally.addAll items).Within kind := by
  induction items generalizing tally with
  | nil => exact within
  | cons item items induction =>
      apply induction (within.add (members item List.mem_cons_self))
      intro other member
      exact members other (List.mem_cons_of_mem _ member)

theorem Within.pairs (within : tally.Within kind) : ∀ item ∈ tally.pairs, item.2 ∈ kind := by
  intro item member
  obtain ⟨entry, stored, rfl⟩ := List.mem_map.mp member
  exact within entry.1 entry.2 (mem_entries_iff.mp stored)

theorem weighAll_atKey_mem {items : List (κ × M)} (members : ∀ item ∈ items, item.2 ∈ kind)
    (key : κ) : weighAll (atKey key) items ∈ kind := by
  apply kind.list_sum_mem
  intro amount member
  obtain ⟨item, listed, rfl⟩ := List.mem_map.mp member
  by_cases same : item.1 = key
  · rw [same, atKey_self]
    exact members item listed
  · rw [atKey_of_ne same]
    exact kind.zero_mem

/-! ## Amounts that are never zero -/

/-- Every amount lies in the semigroup; one without zero tells a key that holds
nothing from a missing one. -/
def Counted (kind : AddSubsemigroup M) (tally : Dict κ M) : Prop :=
  ∀ key amount, tally.lookup key = some amount → amount ∈ kind

section

variable {kind : AddSubsemigroup M} {tally other : Dict κ M}

theorem counted_empty : Counted kind (∅ : Dict κ M) := by
  intro key amount found
  cases found

theorem counted_iff_pairs : tally.Counted kind ↔ ∀ item ∈ tally.pairs, item.2 ∈ kind := by
  constructor
  · intro counted item member
    obtain ⟨entry, stored, rfl⟩ := List.mem_map.mp member
    exact counted entry.1 entry.2 (mem_entries_iff.mp stored)
  · intro counted key amount found
    exact counted (key, amount) (List.mem_map.mpr ⟨⟨key, amount⟩, mem_entries_iff.mpr found, rfl⟩)

theorem Counted.add (counted : tally.Counted kind) {key : κ} {amount : M} (member : amount ∈ kind) :
    (tally.add key amount).Counted kind := by
  intro wanted held found
  rw [Dict.add, lookup_alter] at found
  by_cases same : wanted = key
  · rw [if_pos same, Option.some.injEq] at found
    subst held
    cases before : tally.lookup key with
    | none => rwa [Option.getD_none, zero_add]
    | some old => exact kind.add_mem (counted key old before) member
  · rw [if_neg same] at found
    exact counted wanted held found

theorem Counted.addAll (counted : tally.Counted kind) {items : List (κ × M)}
    (members : ∀ item ∈ items, item.2 ∈ kind) : (tally.addAll items).Counted kind := by
  induction items generalizing tally with
  | nil => exact counted
  | cons item items induction =>
      apply induction (counted.add (members item List.mem_cons_self))
      intro other member
      exact members other (List.mem_cons_of_mem _ member)

theorem Counted.retain (counted : tally.Counted kind) (kept : κ → M → Bool) :
    (tally.retain kept).Counted kind := by
  apply counted_iff_pairs.mpr
  intro item member
  obtain ⟨entry, stored, rfl⟩ := List.mem_map.mp member
  exact counted_iff_pairs.mp counted _ (List.mem_map_of_mem (List.mem_of_mem_filter stored))

theorem Counted.lookup_eq (counted : tally.Counted kind) (otherCounted : other.Counted kind)
    (nonzero : 0 ∉ kind) {key : κ} (same : tally.amountAt key = other.amountAt key) :
    tally.lookup key = other.lookup key := by
  unfold amountAt at same
  cases found : tally.lookup key with
  | none =>
      cases otherFound : other.lookup key with
      | none => rfl
      | some amount =>
          rw [found, otherFound, Option.getD_none, Option.getD_some] at same
          exact absurd (same ▸ otherCounted key amount otherFound) nonzero
  | some amount =>
      cases otherFound : other.lookup key with
      | none =>
          rw [found, otherFound, Option.getD_none, Option.getD_some] at same
          exact absurd (same ▸ counted key amount found) nonzero
      | some otherAmount =>
          rw [found, otherFound, Option.getD_some, Option.getD_some] at same
          rw [same]

end

end Dict

end Library
