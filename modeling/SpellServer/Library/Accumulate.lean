import Mathlib.Algebra.BigOperators.Group.List.Basic
import SpellServer.Library.Dict

/-!
# Accumulating into a dictionary

`alter` changes the value under a key, starting from a default where there is
none.  `accumulate` feeds a list of items to the values of their keys; what is
found under a key afterwards depends on the items of that key alone.  `total`
adds up a weight of the entries, so that an accumulation adds the weights of
its items.
-/

namespace Library

namespace Dict

variable {κ ν α M : Type*} [DecidableEq κ]

/-- Change the value of a key, or the default. -/
def alter (key : κ) (default : ν) (change : ν → ν) (dict : Dict κ ν) : Dict κ ν :=
  dict.insert key (change ((dict.lookup key).getD default))

theorem lookup_alter (key other : κ) (default : ν) (change : ν → ν) (dict : Dict κ ν) :
    (dict.alter key default change).lookup other =
      if other = key then some (change ((dict.lookup key).getD default))
      else dict.lookup other :=
  lookup_insert_ite ..

theorem getD_lookup_alter (key other : κ) (default : ν) (change : ν → ν) (dict : Dict κ ν) :
    ((dict.alter key default change).lookup other).getD default =
      if other = key then change ((dict.lookup other).getD default)
      else (dict.lookup other).getD default := by
  rw [lookup_alter]
  by_cases same : other = key
  · rw [if_pos same, if_pos same, Option.getD_some, same]
  · rw [if_neg same, if_neg same]

/-- Dictionaries with the same lookups hold the same entries. -/
theorem perm_of_lookup {first second : Dict κ ν}
    (same : ∀ key, first.lookup key = second.lookup key) :
    first.entries.Perm second.entries := by
  apply List.lookup_ext first.nodupKeys second.nodupKeys
  intro key value
  exact iff_of_eq (congrArg (value ∈ ·) (same key))

section Accumulate

variable (key : α → κ) (default : ν) (feed : ν → α → ν)

def accumulate (dict : Dict κ ν) (items : List α) : Dict κ ν :=
  items.foldl (fun dict item => dict.alter (key item) default fun value => feed value item) dict

@[simp] theorem accumulate_nil (dict : Dict κ ν) :
    dict.accumulate key default feed [] = dict := rfl

@[simp] theorem accumulate_cons (dict : Dict κ ν) (item : α) (items : List α) :
    dict.accumulate key default feed (item :: items) =
      (dict.alter (key item) default fun value => feed value item).accumulate key default feed
        items := rfl

theorem accumulate_append (dict : Dict κ ν) (items later : List α) :
    dict.accumulate key default feed (items ++ later) =
      (dict.accumulate key default feed items).accumulate key default feed later :=
  List.foldl_append ..

/-- The value of a key is fed the items of that key, in order. -/
theorem getD_lookup_accumulate (dict : Dict κ ν) (items : List α) (wanted : κ) :
    ((dict.accumulate key default feed items).lookup wanted).getD default =
      (items.filter fun item => key item = wanted).foldl feed
        ((dict.lookup wanted).getD default) := by
  induction items generalizing dict with
  | nil => rfl
  | cons item items induction =>
      rw [accumulate_cons, induction, getD_lookup_alter]
      by_cases same : key item = wanted
      · rw [List.filter_cons_of_pos (by simpa using same), if_pos same.symm, List.foldl_cons]
      · rw [List.filter_cons_of_neg (by simpa using same), if_neg (Ne.symm same)]

/-- What a key is given depends on what it had. -/
theorem lookup_accumulate_congr {first second : Dict κ ν} {wanted : κ}
    (same : first.lookup wanted = second.lookup wanted) (items : List α) :
    (first.accumulate key default feed items).lookup wanted =
      (second.accumulate key default feed items).lookup wanted := by
  induction items generalizing first second with
  | nil => exact same
  | cons item items induction =>
      apply induction
      rw [lookup_alter, lookup_alter]
      by_cases hit : wanted = key item
      · rw [if_pos hit, if_pos hit, ← hit, same]
      · rw [if_neg hit, if_neg hit, same]

/-- A key has a value when it had one or some item is of that key. -/
theorem isSome_lookup_accumulate (dict : Dict κ ν) (items : List α) (wanted : κ) :
    ((dict.accumulate key default feed items).lookup wanted).isSome = true ↔
      (dict.lookup wanted).isSome = true ∨ ∃ item ∈ items, key item = wanted := by
  induction items generalizing dict with
  | nil => simp
  | cons item items induction =>
      rw [accumulate_cons, induction, lookup_alter]
      by_cases same : wanted = key item
      · simp [same]
      · simp [same, Ne.symm same]

end Accumulate

/-! ## Adding up a weight -/

section Total

variable [AddCommMonoid M] {weight : κ → ν → M}

def total (weight : κ → ν → M) (dict : Dict κ ν) : M :=
  (dict.entries.map fun entry => weight entry.1 entry.2).sum

omit [DecidableEq κ] in
@[simp] theorem total_empty : total weight (∅ : Dict κ ν) = 0 := rfl

theorem total_congr {first second : Dict κ ν}
    (same : ∀ key, first.lookup key = second.lookup key) :
    total weight first = total weight second :=
  ((perm_of_lookup same).map _).sum_eq

theorem total_insert (key : κ) (value : ν) (dict : Dict κ ν) :
    total weight (dict.insert key value) = weight key value + total weight (dict.erase key) := by
  unfold total
  rw [AList.entries_insert, List.map_cons, List.sum_cons]
  rfl

theorem total_of_lookup {key : κ} {value : ν} {dict : Dict κ ν}
    (found : dict.lookup key = some value) :
    total weight dict = weight key value + total weight (dict.erase key) := by
  rw [← total_insert]
  apply total_congr
  intro other
  rw [lookup_insert_ite]
  by_cases same : other = key
  · rw [if_pos same, same, found]
  · rw [if_neg same]

theorem total_of_lookup_none {key : κ} {dict : Dict κ ν} (missing : dict.lookup key = none) :
    total weight (dict.erase key) = total weight dict := by
  apply total_congr
  intro other
  rw [lookup_erase_ite]
  by_cases same : other = key
  · rw [if_pos same, same, missing]
  · rw [if_neg same]

/-- A change that adds to the weight of its key adds to the total. -/
theorem total_alter {key : κ} {default : ν} {change : ν → ν} {added : M}
    (light : weight key default = 0)
    (adds : ∀ value, weight key (change value) = weight key value + added) (dict : Dict κ ν) :
    total weight (dict.alter key default change) = total weight dict + added := by
  unfold alter
  rw [total_insert, adds]
  cases found : dict.lookup key with
  | none =>
      rw [Option.getD_none, light, zero_add, total_of_lookup_none found, add_comm]
  | some value =>
      rw [Option.getD_some, total_of_lookup found, add_right_comm]

theorem total_accumulate {key : α → κ} {default : ν} {feed : ν → α → ν} {added : α → M}
    (light : ∀ key, weight key default = 0)
    (adds : ∀ value item, weight (key item) (feed value item) =
      weight (key item) value + added item)
    (dict : Dict κ ν) (items : List α) :
    total weight (dict.accumulate key default feed items) =
      total weight dict + (items.map added).sum := by
  induction items generalizing dict with
  | nil => simp
  | cons item items induction =>
      rw [accumulate_cons, induction, total_alter (light _) (fun value => adds value item),
        List.map_cons, List.sum_cons, add_assoc]

end Total

end Dict

end Library
