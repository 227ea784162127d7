import Mathlib.Data.List.DropRight
import SpellServer.Library.Text

/-!
# Tokenization

`Engine::tokenize` cuts a text into maximal runs without whitespace and strips
the punctuation around each.  A slice that is out of range is a panic, which is
`none` here.
-/

namespace SpellServer

open Library

/-- One match of the regular expression, as the characters between `start` and `end`. -/
structure Match where
  raw : List Char
  start : ℕ
  stop : ℕ
  startChar : ℕ
deriving DecidableEq, Repr

structure Token where
  token : String
  startByte : ℕ
  endByte : ℕ
  startChar : ℕ
deriving DecidableEq, Repr

/-! ## Matches -/

/-- `\s`, the characters with the Unicode property `White_Space`. -/
def isWhiteSpace (c : Char) : Bool :=
  let code := c.toNat
  decide (9 ≤ code ∧ code ≤ 13) || decide (0x2000 ≤ code ∧ code ≤ 0x200A) ||
    [0x20, 0x85, 0xA0, 0x1680, 0x2028, 0x2029, 0x202F, 0x205F, 0x3000].contains code

/-- `find_iter` of `\S+` from an offset on; `current` is the match it is in. -/
def findIter (byte char : ℕ) (current : Option Match) : List Char → List Match
  | [] => current.toList
  | c :: text =>
      if isWhiteSpace c then
        current.toList ++ findIter (byte + c.utf8Size) (char + 1) none text
      else
        let begun := current.getD { raw := [], start := byte, stop := byte, startChar := char }
        findIter (byte + c.utf8Size) (char + 1)
          (some { begun with raw := begun.raw ++ [c], stop := byte + c.utf8Size }) text

theorem findIter_raw {byte char : ℕ} {current : Option Match} {text : List Char}
    (begun : ∀ mat ∈ current, mat.raw ≠ []) :
    ∀ mat ∈ findIter byte char current text, mat.raw ≠ [] := by
  induction text generalizing byte char current with
  | nil =>
      intro mat member
      exact begun mat (Option.mem_toList.mp member)
  | cons c text induction =>
      unfold findIter
      split
      · intro mat member
        rcases List.mem_append.mp member with ended | later
        · exact begun mat (Option.mem_toList.mp ended)
        · exact induction (fun _ absent => by cases absent) mat later
      · apply induction
        intro mat same
        cases same
        simp

/-- Matches start one after the other, and none before the scan or the match it is in. -/
theorem findIter_startChar {byte char : ℕ} {current : Option Match} {text : List Char}
    (begun : ∀ mat ∈ current, mat.startChar < char) :
    (findIter byte char current text).Pairwise (fun one two => one.startChar < two.startChar) ∧
      ∀ mat ∈ findIter byte char current text,
        (current.map Match.startChar).getD char ≤ mat.startChar := by
  induction text generalizing byte char current with
  | nil =>
      cases current with
      | none => exact ⟨List.Pairwise.nil, fun _ absent => by cases absent⟩
      | some current =>
          refine ⟨List.pairwise_singleton _ _, fun mat member => ?_⟩
          cases List.mem_singleton.mp member
          exact le_refl _
  | cons c text induction =>
      unfold findIter
      split
      · obtain ⟨ordered, after⟩ := @induction (byte + c.utf8Size) (char + 1) none
          (fun _ absent => by cases absent)
        cases current with
        | none => exact ⟨ordered, fun mat member => Nat.le_of_succ_le (after mat member)⟩
        | some current =>
            have before := begun current rfl
            refine ⟨List.Pairwise.cons ?_ ordered, ?_⟩
            · intro mat member
              exact Nat.lt_of_lt_of_le before (Nat.le_of_succ_le (after mat member))
            · intro mat member
              rcases List.mem_cons.mp member with same | later
              · cases same
                exact le_refl _
              · exact (Nat.le_of_lt before).trans (Nat.le_of_succ_le (after mat later))
      · cases current with
        | none =>
            apply induction
            intro mat same
            cases same
            exact Nat.lt_succ_self char
        | some current =>
            apply induction
            intro mat same
            cases same
            exact Nat.lt_succ_of_lt (begun current rfl)

/-! ## Punctuation -/

def punctuation : List Char :=
  ['.', ',', ';', ':', '!', '?', '"', '\'', '(', ')', '[', ']', '{', '}']

def isPunctuation (c : Char) : Bool := punctuation.contains c

/-- `end` falls back to `start` where `rest` has no character left to keep. -/
def stripSurroundingPunctuation (s : List Char) : Option (List Char) :=
  let start := byteLength (s.takeWhile isPunctuation)
  let rest := s.dropWhile isPunctuation
  let stop := if rest.all isPunctuation then start else byteLength (rest.rdropWhile isPunctuation)
  slice s start (start + stop)

/-- The slice is out of range for a run of nothing but punctuation. -/
theorem stripSurroundingPunctuation_eq (s : List Char) :
    stripSurroundingPunctuation s =
      if s ≠ [] ∧ s.all isPunctuation = true then none
      else some ((s.dropWhile isPunctuation).rdropWhile isPunctuation) := by
  cases rest : s.dropWhile isPunctuation with
  | nil =>
      have all : s.all isPunctuation = true := List.all_eq_true.mpr (List.dropWhile_eq_nil_iff.mp rest)
      have taken : s.takeWhile isPunctuation = s := by
        simpa [rest] using s.takeWhile_append_dropWhile (p := isPunctuation)
      simp only [stripSurroundingPunctuation, rest, taken, List.all_nil, if_true, all, and_true]
      by_cases empty : s = []
      · subst s
        rfl
      · have positive := mt byteLength_eq_zero_iff.mp empty
        have halves := splitAtByte_append s []
        rw [List.append_nil] at halves
        rw [if_pos empty, slice, if_neg (Nat.not_lt.mpr (Nat.le_add_right _ _)), halves,
          Nat.add_sub_cancel_left]
        simp [splitAtByte, positive]
  | cons c tail =>
      have kept : isPunctuation c = false := by
        have head := List.head_dropWhile_not isPunctuation (l := s) (by rw [rest]; simp)
        simpa [rest] using head
      have parts : s = s.takeWhile isPunctuation ++
          ((c :: tail).rdropWhile isPunctuation ++ (c :: tail).rtakeWhile isPunctuation) := by
        rw [List.rdropWhile_append_rtakeWhile, ← rest, List.takeWhile_append_dropWhile]
      have mixed : ¬(s.all isPunctuation = true) := by
        intro all
        rw [List.dropWhile_eq_nil_iff.mpr (List.all_eq_true.mp all)] at rest
        cases rest
      have stops : ¬((c :: tail).all isPunctuation = true) := by simp [kept]
      simp only [stripSurroundingPunctuation, rest, stops, Bool.false_eq_true, if_false, mixed,
        and_false]
      exact slice_eq parts

/-! ## Tokens -/

/-- The loop of `tokenize`; a panic in it ends the call. -/
def tokensOf : List Match → Option (List Token)
  | [] => some []
  | mat :: found => do
      let stripped ← stripSurroundingPunctuation mat.raw
      let tokens ← tokensOf found
      if stripped.isEmpty then some tokens
      else
        some
          ({ token := .ofList stripped
             startByte := mat.start
             endByte := mat.stop
             startChar := mat.startChar } :: tokens)

def tokenize (text : String) : Option (List Token) :=
  tokensOf (findIter 0 0 none text.toList)

/-- Some run of the text is nothing but punctuation. -/
def HasPunctuationRun (text : String) : Prop :=
  ∃ mat ∈ findIter 0 0 none text.toList, mat.raw.all isPunctuation = true

instance (text : String) : Decidable (HasPunctuationRun text) :=
  inferInstanceAs (Decidable (∃ mat ∈ _, _))

theorem tokensOf_eq_none_iff {found : List Match} (runs : ∀ mat ∈ found, mat.raw ≠ []) :
    tokensOf found = none ↔ ∃ mat ∈ found, mat.raw.all isPunctuation = true := by
  induction found with
  | nil => simp [tokensOf]
  | cons mat found induction =>
      have later := induction fun other member => runs other (List.mem_cons_of_mem _ member)
      have strips := stripSurroundingPunctuation_eq mat.raw
      by_cases all : mat.raw.all isPunctuation = true
      · rw [if_pos ⟨runs mat List.mem_cons_self, all⟩] at strips
        rw [tokensOf, strips]
        exact iff_of_true rfl ⟨mat, List.mem_cons_self, all⟩
      · rw [if_neg (fun both => all both.2)] at strips
        rw [List.exists_mem_cons_iff, or_iff_right all, ← later, tokensOf, strips]
        cases rest : tokensOf found with
        | none => simp
        | some tokens =>
            simp only [Option.bind_eq_bind, Option.bind_some]
            split <;> simp

/-- Tokenization panics exactly on a run of nothing but punctuation. -/
theorem tokenize_eq_none_iff (text : String) : tokenize text = none ↔ HasPunctuationRun text :=
  tokensOf_eq_none_iff (findIter_raw fun _ absent => by cases absent)

theorem tokensOf_startChar {found : List Match} {tokens : List Token}
    (returned : tokensOf found = some tokens) :
    (tokens.map Token.startChar).Sublist (found.map Match.startChar) := by
  induction found generalizing tokens with
  | nil =>
      cases returned
      exact List.Sublist.refl _
  | cons mat found induction =>
      simp only [tokensOf, Option.bind_eq_bind, Option.bind_eq_some_iff] at returned
      obtain ⟨stripped, _, rest, restReturned, ends⟩ := returned
      have sublist := induction restReturned
      split at ends
      · cases ends
        exact sublist.cons _
      · cases ends
        exact sublist.cons_cons _

theorem tokenize_startChar {text : String} {tokens : List Token}
    (returned : tokenize text = some tokens) :
    tokens.Pairwise fun one two => one.startChar < two.startChar := by
  have ordered : (findIter 0 0 none text.toList).Pairwise fun one two =>
      one.startChar < two.startChar :=
    (findIter_startChar fun _ absent => by cases absent).1
  have inMatches := List.pairwise_map.mpr ordered
  exact List.pairwise_map.mp (inMatches.sublist (tokensOf_startChar returned))

example : tokenize "café, (rien)" =
    some [⟨"café", 0, 6, 0⟩, ⟨"rien", 7, 13, 6⟩] := by decide +kernel

end SpellServer
