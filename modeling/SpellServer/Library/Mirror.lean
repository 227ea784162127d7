import SpellServer.Library.Dict

/-!
# A dictionary that mirrors a table

Rows are told apart by a key column.  A dictionary mirrors them when it has an
entry under the key of each row, and each entry agrees with its row.  The lemmas
say which change of the dictionary goes with a change of the rows.
-/

namespace Library

variable {κ ν ρ μ : Type*} [DecidableEq κ]

structure Mirrors (key : ρ → κ) (agrees : ρ → ν → Prop) (rows : List ρ) (dict : Dict κ ν) :
    Prop where
  row_of : ∀ {wanted value}, dict.lookup wanted = some value →
    ∃ row ∈ rows, key row = wanted ∧ agrees row value
  entry_of : ∀ row ∈ rows, (dict.lookup (key row)).isSome = true

namespace Mirrors

variable {key : ρ → κ} {agrees : ρ → ν → Prop} {rows : List ρ} {dict other : Dict κ ν}

theorem ofRows {read : ρ → ν} (unique : (rows.map key).Nodup) (agree : ∀ row, agrees row (read row)) :
    Mirrors key agrees rows (Dict.ofRows key read rows) := by
  constructor
  · intro wanted value found
    rw [Dict.lookup_ofRows read unique] at found
    obtain ⟨row, selected, rfl⟩ := Option.map_eq_some_iff.mp found
    obtain ⟨member, same⟩ := findBy_mem selected
    exact ⟨row, member, same, agree row⟩
  · intro row member
    rw [Dict.lookup_ofRows read unique, (findBy_eq_some_iff unique).mpr ⟨member, rfl⟩]
    rfl

theorem congr (mirrors : Mirrors key agrees rows dict)
    (same : ∀ wanted, other.lookup wanted = dict.lookup wanted) :
    Mirrors key agrees rows other := by
  constructor
  · intro wanted value found
    rw [same] at found
    exact mirrors.row_of found
  · intro row member
    rw [same]
    exact mirrors.entry_of row member

/-- Up to what `project` forgets, the dictionary is the one read from the rows. -/
theorem lookup {read : ρ → ν} {project : ν → μ} (mirrors : Mirrors key agrees rows dict)
    (unique : (rows.map key).Nodup)
    (agree : ∀ row value, agrees row value → project value = project (read row)) (wanted : κ) :
    (dict.lookup wanted).map project = ((findBy key wanted rows).map read).map project := by
  cases found : dict.lookup wanted with
  | some value =>
      obtain ⟨row, member, same, agreed⟩ := mirrors.row_of found
      rw [(findBy_eq_some_iff unique).mpr ⟨member, same⟩]
      exact congrArg some (agree row value agreed)
  | none =>
      have absent : findBy key wanted rows = none := by
        apply findBy_eq_none_iff.mpr
        intro stored
        obtain ⟨row, member, same⟩ := List.mem_map.mp stored
        have present := mirrors.entry_of row member
        rw [same, found] at present
        cases present
      rw [absent]
      rfl

theorem insert {row : ρ} {value : ν} (mirrors : Mirrors key agrees rows dict)
    (agreed : agrees row value) :
    Mirrors key agrees (rows ++ [row]) (AList.insert (key row) value dict) := by
  constructor
  · intro wanted found stored
    rw [Dict.lookup_insert_ite] at stored
    split at stored
    · rename_i same
      cases stored
      exact ⟨row, List.mem_append_right _ (List.mem_singleton.mpr rfl), same.symm, agreed⟩
    · obtain ⟨old, member, same, oldAgreed⟩ := mirrors.row_of stored
      exact ⟨old, List.mem_append_left _ member, same, oldAgreed⟩
  · intro later member
    rw [List.mem_append, List.mem_singleton] at member
    rw [Dict.lookup_insert_ite]
    split
    · rfl
    · rename_i elsewhere
      rcases member with old | rfl
      · exact mirrors.entry_of later old
      · exact absurd rfl elsewhere

/-- A change of rows that the dictionary does not see. -/
theorem mapRows {onRow : ρ → ρ} (mirrors : Mirrors key agrees rows dict)
    (keeps : ∀ row, key (onRow row) = key row)
    (agree : ∀ row value, agrees row value → agrees (onRow row) value) :
    Mirrors key agrees (rows.map onRow) dict := by
  constructor
  · intro wanted value found
    obtain ⟨row, member, same, agreed⟩ := mirrors.row_of found
    exact ⟨_, List.mem_map_of_mem member, (keeps row).trans same, agree row value agreed⟩
  · intro later member
    obtain ⟨row, rowMember, rfl⟩ := List.mem_map.mp member
    rw [keeps]
    exact mirrors.entry_of row rowMember

section Changing

variable {chosen : ρ → Prop} [DecidablePred chosen] {onRow : ρ → ρ} {wanted : κ}

/-- The chosen row is changed and its entry with it. -/
theorem change {onValue : ν → ν} (mirrors : Mirrors key agrees rows dict)
    (selects : ∀ row ∈ rows, chosen row ↔ key row = wanted)
    (keeps : ∀ row, key (onRow row) = key row)
    (changes : ∀ row ∈ rows, key row = wanted → ∀ value, dict.lookup wanted = some value →
      agrees row value → agrees (onRow row) (onValue value)) :
    Mirrors key agrees (rows.map fun row => if chosen row then onRow row else row)
      (dict.modify wanted onValue) := by
  constructor
  · intro place value found
    rw [Dict.lookup_modify] at found
    split at found
    · rename_i same
      obtain ⟨old, stored, rfl⟩ := Option.map_eq_some_iff.mp found
      obtain ⟨row, member, filed, agreed⟩ := mirrors.row_of stored
      refine ⟨_, List.mem_map_of_mem member, ?_⟩
      rw [if_pos ((selects row member).mpr filed)]
      exact ⟨(keeps row).trans (filed.trans same.symm),
        changes row member filed old stored agreed⟩
    · rename_i elsewhere
      obtain ⟨row, member, filed, agreed⟩ := mirrors.row_of found
      refine ⟨_, List.mem_map_of_mem member, ?_⟩
      rw [if_neg]
      · exact ⟨filed, agreed⟩
      · intro same
        exact elsewhere (filed.symm.trans ((selects row member).mp same))
  · intro later member
    obtain ⟨row, rowMember, rfl⟩ := List.mem_map.mp member
    have sameKey : key (if chosen row then onRow row else row) = key row := by
      split
      · exact keeps row
      · rfl
    rw [sameKey, Dict.lookup_modify]
    have present := mirrors.entry_of row rowMember
    split
    · rename_i same
      rw [← same, Option.isSome_map]
      exact present
    · exact present

/-- The chosen row gets another key, and its entry moves there. -/
theorem move {moved : κ} {old value : ν} (mirrors : Mirrors key agrees rows dict)
    (selects : ∀ row ∈ rows, chosen row ↔ key row = wanted)
    (stored : dict.lookup wanted = some old)
    (keys : ∀ row, key (onRow row) = moved)
    (changes : ∀ row ∈ rows, key row = wanted → agrees row old → agrees (onRow row) value) :
    Mirrors key agrees (rows.map fun row => if chosen row then onRow row else row)
      (AList.insert moved value (dict.erase wanted)) := by
  constructor
  · intro place found entry
    rw [Dict.lookup_insert_ite] at entry
    split at entry
    · rename_i same
      cases entry
      obtain ⟨row, member, filed, agreed⟩ := mirrors.row_of stored
      refine ⟨_, List.mem_map_of_mem member, ?_⟩
      rw [if_pos ((selects row member).mpr filed)]
      exact ⟨(keys row).trans same.symm, changes row member filed agreed⟩
    · obtain ⟨elsewhere, kept⟩ := Dict.lookup_of_erase entry
      obtain ⟨row, member, filed, agreed⟩ := mirrors.row_of kept
      refine ⟨_, List.mem_map_of_mem member, ?_⟩
      rw [if_neg]
      · exact ⟨filed, agreed⟩
      · intro same
        exact elsewhere (filed.symm.trans ((selects row member).mp same))
  · intro later member
    obtain ⟨row, rowMember, rfl⟩ := List.mem_map.mp member
    rw [Dict.lookup_insert_ite]
    by_cases selected : chosen row
    · simp [selected, keys]
    · rw [if_neg selected]
      split
      · rfl
      · rw [Dict.lookup_erase_ite, if_neg fun same => selected ((selects row rowMember).mpr same)]
        exact mirrors.entry_of row rowMember

/-- The chosen row is changed and its entry replaced. -/
theorem put {old value : ν} (mirrors : Mirrors key agrees rows dict)
    (selects : ∀ row ∈ rows, chosen row ↔ key row = wanted)
    (stored : dict.lookup wanted = some old)
    (keeps : ∀ row, key (onRow row) = key row)
    (changes : ∀ row ∈ rows, key row = wanted → agrees row old → agrees (onRow row) value) :
    Mirrors key agrees (rows.map fun row => if chosen row then onRow row else row)
      (AList.insert wanted value dict) := by
  have modified : Mirrors key agrees (rows.map fun row => if chosen row then onRow row else row)
      (dict.modify wanted fun _ => value) := by
    apply mirrors.change selects keeps
    intro row member filed found same agreed
    rw [stored] at same
    cases same
    exact changes row member filed agreed
  refine modified.congr ?_
  intro place
  rw [Dict.lookup_insert_ite, Dict.lookup_modify, stored]
  rfl

end Changing

/-- What is read from a row replaces the entries of that row. -/
theorem refresh {row : ρ} {value : ν} {keep : ν → Bool} (mirrors : Mirrors key agrees rows dict)
    (member : row ∈ rows) (agreed : agrees row value)
    (dropped : ∀ source ∈ rows, ∀ held, agrees source held → keep held = false →
      key source = key row) :
    Mirrors key agrees rows
      (AList.insert (key row) value (dict.retain fun _ held => keep held)) := by
  constructor
  · intro wanted found entry
    rw [Dict.lookup_insert_ite] at entry
    split at entry
    · rename_i same
      cases entry
      exact ⟨row, member, same.symm, agreed⟩
    · exact mirrors.row_of (Dict.lookup_of_retain entry).1
  · intro source sourceMember
    rw [Dict.lookup_insert_ite]
    split
    · rfl
    · rename_i elsewhere
      obtain ⟨held, found⟩ := Option.isSome_iff_exists.mp (mirrors.entry_of source sourceMember)
      obtain ⟨filed, filedMember, same, heldAgreed⟩ := mirrors.row_of found
      rw [Dict.lookup_retain, found]
      cases kept : keep held with
      | true => simp [kept]
      | false =>
          exact absurd (same.symm.trans (dropped filed filedMember held heldAgreed kept)) elsewhere

end Mirrors

end Library
