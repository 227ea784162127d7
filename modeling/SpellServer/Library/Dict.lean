import Mathlib.Data.List.AList
import Mathlib.Data.List.Nodup

/-!
# Dictionaries and keyed rows

A `Dict` is a finite map held as an association list without duplicate keys.
A keyed list of rows is a database table: `findBy` selects the row with a
given key, and the lemmas below say what an insertion, an update in place or a
deletion does to later selections.  `Dict.ofRows` connects the two: it is the
dictionary built by reading a table row by row.
-/

namespace Library

/-- A finite map with non-dependent values. -/
abbrev Dict (κ : Type*) (ν : Type*) := AList (fun _ : κ => ν)

namespace Dict

variable {κ ν : Type*} [DecidableEq κ]

theorem lookup_insert_ite (dict : Dict κ ν) (key other : κ) (value : ν) :
    AList.lookup other (dict.insert key value) =
      if other = key then some value else dict.lookup other := by
  by_cases same : other = key
  · subst other
    simp
  · simp [AList.lookup_insert_ne same, same]

theorem lookup_erase_ite (dict : Dict κ ν) (key other : κ) :
    AList.lookup other (dict.erase key) =
      if other = key then none else dict.lookup other := by
  by_cases same : other = key
  · subst other
    simp
  · simp [AList.lookup_erase_ne same, same]

/-- An insertion under a free key changes nothing for other values. -/
theorem lookup_insert_other {dict : Dict κ ν} {key : κ} {inserted value : ν}
    (free : dict.lookup key = none) (differs : value ≠ inserted) (other : κ) :
    AList.lookup other (dict.insert key inserted) = some value ↔
      dict.lookup other = some value := by
  rw [lookup_insert_ite]
  split
  · rename_i here
    rw [here, free]
    simp [Ne.symm differs]
  · rfl

/-- An erasure changes nothing for values other than the erased one. -/
theorem lookup_erase_other {dict : Dict κ ν} {key : κ} {erased value : ν}
    (stored : dict.lookup key = some erased) (differs : value ≠ erased) (other : κ) :
    AList.lookup other (dict.erase key) = some value ↔ dict.lookup other = some value := by
  rw [lookup_erase_ite]
  split
  · rename_i here
    rw [here, stored]
    simp [Ne.symm differs]
  · rfl

/-- What is found after an erasure was there before, under another key. -/
theorem lookup_of_erase {dict : Dict κ ν} {key other : κ} {value : ν}
    (found : (dict.erase key).lookup other = some value) :
    other ≠ key ∧ dict.lookup other = some value := by
  rw [lookup_erase_ite] at found
  split at found
  · cases found
  · rename_i different
    exact ⟨different, found⟩

/-- Every stored entry is found under its own key. -/
theorem mem_entries_iff {dict : Dict κ ν} {entry : Sigma fun _ : κ => ν} :
    entry ∈ dict.entries ↔ dict.lookup entry.1 = some entry.2 := by
  have membership : entry.2 ∈ dict.lookup entry.1 ↔ entry ∈ dict.entries :=
    AList.mem_lookup_iff
  rw [← membership, Option.mem_def]

/-- The stored values, in storage order. -/
def values (dict : Dict κ ν) : List ν :=
  dict.entries.map fun entry => entry.2

theorem mem_values_iff {dict : Dict κ ν} {value : ν} :
    value ∈ dict.values ↔ ∃ key, dict.lookup key = some value := by
  constructor
  · intro member
    obtain ⟨entry, stored, rfl⟩ := List.mem_map.mp member
    exact ⟨entry.1, mem_entries_iff.mp stored⟩
  · intro filed
    obtain ⟨key, found⟩ := filed
    exact List.mem_map.mpr ⟨⟨key, value⟩, mem_entries_iff.mpr found, rfl⟩

/-- Dictionaries with the same wanted entries list the same wanted values. -/
theorem values_filter_perm {first second : Dict κ ν} {wanted : ν → Bool}
    (same : ∀ key value, wanted value = true →
      (first.lookup key = some value ↔ second.lookup key = some value)) :
    (first.values.filter wanted).Perm (second.values.filter wanted) := by
  have entries : (first.entries.filter fun entry => wanted entry.2).Perm
      (second.entries.filter fun entry => wanted entry.2) := by
    refine (List.perm_ext_iff_of_nodup (first.nodupKeys.nodup.filter _)
      (second.nodupKeys.nodup.filter _)).mpr ?_
    intro entry
    rw [List.mem_filter, List.mem_filter, mem_entries_iff, mem_entries_iff]
    exact and_congr_left fun qualifies => same entry.1 entry.2 qualifies
  simpa [values, List.filter_map, Function.comp_def] using entries.map fun entry => entry.2

/-- One wanted entry is the only one of its kind. -/
theorem values_filter_eq_singleton {dict : Dict κ ν} {wanted : ν → Bool} {key : κ} {value : ν}
    (stored : dict.lookup key = some value) (qualifies : wanted value = true)
    (only : ∀ other found, dict.lookup other = some found → wanted found = true → other = key) :
    dict.values.filter wanted = [value] := by
  let single : Dict κ ν := AList.insert key value ∅
  have entries : ∀ other found, wanted found = true →
      (dict.lookup other = some found ↔ single.lookup other = some found) := by
    intro other found chosen
    rw [lookup_insert_ite]
    constructor
    · intro present
      have here := only other found present chosen
      subst other
      rw [if_pos rfl, ← stored, present]
    · intro present
      split at present
      · rename_i here
        subst other
        rw [stored, present]
      · cases present
  have listed : single.values = [value] := rfl
  have same := values_filter_perm entries
  rw [listed, List.filter_singleton, qualifies] at same
  exact List.perm_singleton.mp same

/-- Keep only the entries that satisfy the predicate. -/
def retain (keep : κ → ν → Bool) (dict : Dict κ ν) : Dict κ ν :=
  { entries := dict.entries.filter fun entry => keep entry.1 entry.2
    nodupKeys := dict.nodupKeys.sublist List.filter_sublist }

theorem lookup_retain (keep : κ → ν → Bool) (dict : Dict κ ν) (key : κ) :
    (dict.retain keep).lookup key = (dict.lookup key).filter (keep key) := by
  apply Option.ext
  intro value
  rw [Option.filter_eq_some_iff]
  have stored : ⟨key, value⟩ ∈ dict.entries ↔ dict.lookup key = some value :=
    mem_entries_iff
  have kept : ⟨key, value⟩ ∈ (dict.retain keep).entries ↔
      (dict.retain keep).lookup key = some value :=
    mem_entries_iff
  rw [← kept, ← stored]
  simp [retain]

/-- A selection of keys leaves the kept ones as they were. -/
theorem lookup_retain_of_kept (keep : κ → Bool) {key : κ} (kept : keep key = true)
    (dict : Dict κ ν) : (dict.retain fun key _ => keep key).lookup key = dict.lookup key := by
  rw [lookup_retain, kept]
  cases dict.lookup key <;> rfl

/-- What is found after a selection was there before, and is kept. -/
theorem lookup_of_retain {keep : κ → ν → Bool} {dict : Dict κ ν} {key : κ} {value : ν}
    (found : (dict.retain keep).lookup key = some value) :
    dict.lookup key = some value ∧ keep key value = true := by
  rw [lookup_retain] at found
  exact Option.filter_eq_some_iff.mp found

/-- Change the value stored under a key, if there is one. -/
def modify (key : κ) (change : ν → ν) (dict : Dict κ ν) : Dict κ ν :=
  match dict.lookup key with
  | some value => dict.insert key (change value)
  | none => dict

theorem lookup_modify (dict : Dict κ ν) (key other : κ) (change : ν → ν) :
    (dict.modify key change).lookup other =
      if other = key then (dict.lookup key).map change else dict.lookup other := by
  unfold modify
  cases found : dict.lookup key with
  | some value => simp [lookup_insert_ite]
  | none =>
      by_cases same : other = key
      · subst other
        simp [found]
      · simp [same]

/-- An entry whose value satisfies the predicate.  Iteration over a hash map
has no fixed order, so the entry under `hint` is preferred when it qualifies:
every qualifying entry is the answer for some hint. -/
def findEntry (wanted : ν → Bool) (hint : κ) (dict : Dict κ ν) : Option (κ × ν) :=
  match (dict.lookup hint).filter wanted with
  | some value => some (hint, value)
  | none =>
      (dict.entries.find? fun entry => wanted entry.2).map fun entry =>
        (entry.1, entry.2)

theorem findEntry_eq_some {wanted : ν → Bool} {hint key : κ} {value : ν}
    {dict : Dict κ ν} (found : dict.findEntry wanted hint = some (key, value)) :
    dict.lookup key = some value ∧ wanted value = true := by
  unfold findEntry at found
  cases hinted : (dict.lookup hint).filter wanted with
  | some preferred =>
      simp only [hinted, Option.some.injEq, Prod.mk.injEq] at found
      obtain ⟨rfl, rfl⟩ := found
      exact Option.filter_eq_some_iff.mp hinted
  | none =>
      simp only [hinted, Option.map_eq_some_iff, Prod.mk.injEq] at found
      obtain ⟨entry, first, rfl, rfl⟩ := found
      have qualifies := List.find?_some first
      exact ⟨mem_entries_iff.mp (List.mem_of_find?_eq_some first), qualifies⟩

theorem findEntry_eq_none {wanted : ν → Bool} {hint : κ} {dict : Dict κ ν}
    (missing : dict.findEntry wanted hint = none) {key : κ} {value : ν}
    (stored : dict.lookup key = some value) : wanted value = false := by
  unfold findEntry at missing
  cases hinted : (dict.lookup hint).filter wanted with
  | some preferred => simp [hinted] at missing
  | none =>
      simp only [hinted, Option.map_eq_none_iff, List.find?_eq_none] at missing
      simpa using missing ⟨key, value⟩ (mem_entries_iff.mpr stored)

/-- Every qualifying entry can be the one that is found. -/
theorem findEntry_hint {wanted : ν → Bool} {key : κ} {value : ν}
    {dict : Dict κ ν} (stored : dict.lookup key = some value)
    (qualifies : wanted value = true) :
    dict.findEntry wanted key = some (key, value) := by
  simp [findEntry, stored, Option.filter, qualifies]

end Dict

/-! ## Keyed rows -/

section KeyedRows

variable {ρ κ ν : Type*} [DecidableEq κ] {key : ρ → κ} {rows : List ρ}

/-- The first row with the wanted key. -/
def findBy (key : ρ → κ) (wanted : κ) (rows : List ρ) : Option ρ :=
  rows.find? fun row => key row = wanted

theorem findBy_mem {wanted : κ} {row : ρ}
    (found : findBy key wanted rows = some row) :
    row ∈ rows ∧ key row = wanted :=
  ⟨List.mem_of_find?_eq_some found, by simpa using List.find?_some found⟩

theorem findBy_eq_none_iff {wanted : κ} :
    findBy key wanted rows = none ↔ wanted ∉ rows.map key := by
  simp [findBy, List.find?_eq_none]

/-- Where keys are unique, selecting by key is membership. -/
theorem findBy_eq_some_iff (unique : (rows.map key).Nodup) {wanted : κ} {row : ρ} :
    findBy key wanted rows = some row ↔ row ∈ rows ∧ key row = wanted := by
  refine ⟨findBy_mem, ?_⟩
  intro selected
  obtain ⟨member, rfl⟩ := selected
  cases found : findBy key (key row) rows with
  | none =>
      exact absurd (List.mem_map_of_mem member) (findBy_eq_none_iff.mp found)
  | some other =>
      obtain ⟨otherMember, sameKey⟩ := findBy_mem found
      rw [List.inj_on_of_nodup_map unique otherMember member sameKey]

theorem findBy_append_singleton (row : ρ) (fresh : key row ∉ rows.map key)
    (wanted : κ) :
    findBy key wanted (rows ++ [row]) =
      if wanted = key row then some row else findBy key wanted rows := by
  unfold findBy
  rw [List.find?_append]
  by_cases same : wanted = key row
  · subst wanted
    have absent : rows.find? (fun other => decide (key other = key row)) = none :=
      findBy_eq_none_iff.mpr fresh
    simp [absent]
  · simp [same, Ne.symm same]

theorem findBy_filter_ne (dropped wanted : κ) (rows : List ρ) :
    findBy key wanted (rows.filter fun row => key row ≠ dropped) =
      if wanted = dropped then none else findBy key wanted rows := by
  unfold findBy
  rw [List.find?_filter]
  by_cases same : wanted = dropped
  · subst wanted
    rw [if_pos rfl, List.find?_eq_none]
    intro row _
    simp
  · rw [if_neg same]
    congr 1
    funext row
    by_cases found : key row = wanted
    · simp [found, same]
    · simp [found]

/-- An update that keeps every key commutes with selection. -/
theorem findBy_map {change : ρ → ρ} (keeps : ∀ row, key (change row) = key row)
    (wanted : κ) :
    findBy key wanted (rows.map change) = (findBy key wanted rows).map change := by
  unfold findBy
  rw [List.find?_map]
  congr 2
  funext row
  simp [keeps]

/-- An update of selected rows leaves the others where they are. -/
theorem mem_map_ite_iff {selected : ρ → Prop} [DecidablePred selected] {change : ρ → ρ} {row : ρ}
    (unselected : row ∈ rows → ¬selected row)
    (unmade : ∀ old ∈ rows, selected old → change old ≠ row) :
    row ∈ rows.map (fun old => if selected old then change old else old) ↔ row ∈ rows := by
  rw [List.mem_map]
  constructor
  · intro ⟨old, member, same⟩
    by_cases chosen : selected old
    · rw [if_pos chosen] at same
      exact absurd same (unmade old member chosen)
    · rw [if_neg chosen] at same
      rwa [← same]
  · intro member
    exact ⟨row, member, if_neg (unselected member)⟩

omit [DecidableEq κ] in
theorem nodup_map_append_singleton {row : ρ} (unique : (rows.map key).Nodup)
    (fresh : key row ∉ rows.map key) : ((rows ++ [row]).map key).Nodup := by
  rw [List.map_append, List.map_singleton]
  refine List.nodup_append.mpr ⟨unique, List.nodup_singleton _, ?_⟩
  intro first firstMember second secondMember same
  rw [List.mem_singleton] at secondMember
  exact fresh (secondMember ▸ same ▸ firstMember)

omit [DecidableEq κ] in
theorem map_key_map {change : ρ → ρ} (keeps : ∀ row, key (change row) = key row) :
    (rows.map change).map key = rows.map key := by
  simp [Function.comp_def, keeps]

/-- Read a table into a dictionary, one insertion a row. -/
def Dict.ofRows (key : ρ → κ) (value : ρ → ν) (rows : List ρ) : Dict κ ν :=
  rows.foldl (fun dict row => dict.insert (key row) (value row)) ∅

private theorem lookup_foldl_insert (value : ρ → ν)
    (unique : (rows.map key).Nodup) (start : Dict κ ν) (wanted : κ) :
    (rows.foldl (fun dict row => AList.insert (key row) (value row) dict) start).lookup
        wanted =
      ((findBy key wanted rows).map value).or (start.lookup wanted) := by
  induction rows generalizing start with
  | nil => simp [findBy]
  | cons row rows induction =>
      obtain ⟨fresh, uniqueTail⟩ := List.nodup_cons.mp unique
      rw [List.foldl_cons, induction uniqueTail, Dict.lookup_insert_ite]
      by_cases same : wanted = key row
      · subst wanted
        have absent := findBy_eq_none_iff.mpr fresh
        have first : findBy key (key row) (row :: rows) = some row := by
          simp [findBy]
        simp [absent, first]
      · simp [findBy, same, Ne.symm same]

theorem Dict.lookup_ofRows (value : ρ → ν) (unique : (rows.map key).Nodup)
    (wanted : κ) :
    (Dict.ofRows key value rows).lookup wanted = (findBy key wanted rows).map value := by
  rw [Dict.ofRows, lookup_foldl_insert value unique]
  simp

end KeyedRows

end Library
