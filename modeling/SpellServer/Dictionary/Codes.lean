import SpellServer.Dictionary.Files
import SpellServer.Http.Models
import Mathlib.Data.String.Basic

/-!
# Language codes and paths

A code that passes `is_valid_language_code` is a plain name, so that the cache
directory of its language lies in the dictionary directory and the two files lie
in the cache directory.
-/

namespace SpellServer

open Library

/-- A letter, a digit, an underscore or a hyphen. -/
def IsCodeChar (c : Char) : Prop :=
  ('A' ≤ c ∧ c ≤ 'Z') ∨ ('a' ≤ c ∧ c ≤ 'z') ∨ ('0' ≤ c ∧ c ≤ '9') ∨ c = '_' ∨ c = '-'

structure SafeCode (code : String) : Prop where
  shortest : 1 ≤ code.length
  longest : code.length ≤ 20
  chars : ∀ c ∈ code.toList, IsCodeChar c

theorem isCodeChar_iff (c : Char) :
    (c.isAlphanum || c = '_' || c = '-') = true ↔ IsCodeChar c := by
  unfold IsCodeChar Char.isAlphanum Char.isAlpha Char.isUpper Char.isLower Char.isDigit
  simp only [Bool.or_eq_true, Bool.and_eq_true, decide_eq_true_eq, or_assoc, Char.le_def, ge_iff_le]

/-- A byte for each character. -/
theorem utf8ByteSize_of_codeChars {code : String} (chars : ∀ c ∈ code.toList, IsCodeChar c) :
    code.utf8ByteSize = code.length := by
  have ascii : ∀ text : List Char, (∀ c ∈ text, IsCodeChar c) →
      String.utf8Len text = text.length := by
    intro text
    induction text with
    | nil => intro _; rfl
    | cons c text induction =>
        intro chars
        have rest := induction fun other member => chars other (List.mem_cons_of_mem c member)
        have size : c.utf8Size = 1 := by
          rw [Char.utf8Size_eq_one_iff]
          rcases chars c List.mem_cons_self with upper | lower | digit | rfl | rfl
          · exact UInt32.le_trans (show c.val ≤ 'Z'.val from upper.2) (by decide)
          · exact UInt32.le_trans (show c.val ≤ 'z'.val from lower.2) (by decide)
          · exact UInt32.le_trans (show c.val ≤ '9'.val from digit.2) (by decide)
          · decide
          · decide
        rw [String.utf8Len_cons, rest, size, List.length_cons]
  have bytes := String.utf8ByteSize_ofList code.toList
  rw [String.ofList_toList, ascii code.toList chars] at bytes
  rw [bytes, String.length_toList]

theorem isValidLanguageCode_iff (code : String) :
    isValidLanguageCode code = true ↔ SafeCode code := by
  have nonempty : (!code.isEmpty) = true ↔ 1 ≤ code.length := by
    rw [Bool.not_eq_true', ← Bool.not_eq_true, String.isEmpty_iff, Nat.one_le_iff_ne_zero,
      ne_eq, String.length_eq_zero_iff]
  have alphabet : (code.toList.all fun c => c.isAlphanum || c = '_' || c = '-') = true ↔
      ∀ c ∈ code.toList, IsCodeChar c := by
    rw [List.all_eq_true]
    exact forall₂_congr fun c _ => isCodeChar_iff c
  unfold isValidLanguageCode
  rw [Bool.and_eq_true, Bool.and_eq_true, nonempty, alphabet, decide_eq_true_iff]
  constructor
  · intro valid
    obtain ⟨⟨shortest, longest⟩, chars⟩ := valid
    rw [utf8ByteSize_of_codeChars chars] at longest
    exact ⟨shortest, longest, chars⟩
  · intro safe
    refine ⟨⟨safe.shortest, ?_⟩, safe.chars⟩
    rw [utf8ByteSize_of_codeChars safe.chars]
    exact safe.longest

/-! ## Paths -/

theorem IsCodeChar.not_slash {c : Char} (codeChar : IsCodeChar c) : c ≠ '/' ∧ c ≠ '.' := by
  constructor <;> intro same <;> subst c <;> revert codeChar <;> unfold IsCodeChar <;> decide

namespace SafeCode

variable {code other : String}

/-- A code, with or without the ending of a file. -/
theorem plain (safe : SafeCode code) {ending : String} (inner : '/' ∉ ending.toList) :
    PlainName (code ++ ending) := by
  have shortest := safe.shortest
  rw [← String.length_toList] at shortest
  obtain ⟨first, rest, chars⟩ := List.exists_cons_of_length_pos shortest
  have codeChar : IsCodeChar first := by
    apply safe.chars
    rw [chars]
    exact List.mem_cons_self
  have written : (code ++ ending).toList = first :: (rest ++ ending.toList) := by
    rw [String.toList_append, chars, List.cons_append]
  constructor
  · rw [written]
    exact List.cons_ne_nil _ _
  · rw [String.toList_append, List.mem_append]
    intro member
    rcases member with named | ended
    · exact (safe.chars _ named).not_slash.1 rfl
    · exact inner ended
  · rw [written]
    intro this
    exact codeChar.not_slash.2 (List.cons.inj this).1
  · rw [written]
    intro parent
    exact codeChar.not_slash.2 (List.cons.inj parent).1

variable (manager : DictionaryManager)

theorem cacheDir_child (safe : SafeCode code) :
    ChildOf manager.dictionaryDir (manager.cacheDir code) code := by
  have plain := safe.plain (show '/' ∉ "".toList from by decide)
  rw [String.append_empty] at plain
  exact plain.childOf manager.dictionaryDir

theorem affPath_child (safe : SafeCode code) :
    ChildOf (manager.cacheDir code) (manager.affPath code) (code ++ ".aff") :=
  (safe.plain (by decide)).childOf (manager.cacheDir code)

theorem dicPath_child (safe : SafeCode code) :
    ChildOf (manager.cacheDir code) (manager.dicPath code) (code ++ ".dic") :=
  (safe.plain (by decide)).childOf (manager.cacheDir code)

/-- No file of one language is a file of another. -/
theorem files_ne (safe : SafeCode code) (otherSafe : SafeCode other) (different : code ≠ other)
    {file otherFile name otherName : String} (child : ChildOf (manager.cacheDir code) file name)
    (otherChild : ChildOf (manager.cacheDir other) otherFile otherName) : file ≠ otherFile := by
  intro same
  have names := (child.names.symm.trans (congrArg pathNames same)).trans otherChild.names
  rw [(safe.cacheDir_child manager).names, (otherSafe.cacheDir_child manager).names,
    List.append_assoc, List.append_assoc] at names
  have both := List.append_cancel_left names
  exact different (List.cons.inj both).1

end SafeCode

end SpellServer
