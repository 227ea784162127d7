import Mathlib.Data.Nat.Notation

/-!
# Byte offsets into a text

A text is a list of characters, each as long as its UTF-8 encoding.  A slice is
given by byte offsets, which have to be on character boundaries.
-/

namespace Library

def byteLength : List Char → ℕ
  | [] => 0
  | c :: text => c.utf8Size + byteLength text

@[simp] theorem byteLength_nil : byteLength [] = 0 := rfl

@[simp] theorem byteLength_cons (c : Char) (text : List Char) :
    byteLength (c :: text) = c.utf8Size + byteLength text := rfl

theorem byteLength_eq_zero_iff {text : List Char} : byteLength text = 0 ↔ text = [] := by
  cases text with
  | nil => simp
  | cons c text =>
      have positive := c.utf8Size_pos
      simp
      omega

theorem byteLength_append (text later : List Char) :
    byteLength (text ++ later) = byteLength text + byteLength later := by
  induction text with
  | nil => simp
  | cons c text induction =>
      rw [List.cons_append, byteLength_cons, byteLength_cons, induction, Nat.add_assoc]

/-- The offset is on a character boundary, the end included. -/
def OnBoundary (text : List Char) (offset : ℕ) : Prop :=
  ∃ before after, text = before ++ after ∧ offset = byteLength before

/-- `none` where the index is out of range or not on a character boundary. -/
def splitAtByte (index : ℕ) : List Char → Option (List Char × List Char)
  | [] => if index = 0 then some ([], []) else none
  | c :: text =>
      if index = 0 then some ([], c :: text)
      else if c.utf8Size ≤ index then
        (splitAtByte (index - c.utf8Size) text).map fun halves => (c :: halves.1, halves.2)
      else none

theorem splitAtByte_append (before after : List Char) :
    splitAtByte (byteLength before) (before ++ after) = some (before, after) := by
  induction before with
  | nil => cases after <;> simp [splitAtByte]
  | cons c before induction =>
      have positive := c.utf8Size_pos
      have nonzero : byteLength (c :: before) ≠ 0 := by
        rw [byteLength_cons]
        omega
      rw [List.cons_append, splitAtByte, if_neg nonzero, byteLength_cons,
        if_pos (Nat.le_add_right _ _), Nat.add_sub_cancel_left, induction]
      rfl

/-- `&s[from..to]`. -/
def slice (text : List Char) (first last : ℕ) : Option (List Char) :=
  if last < first then none
  else do
    let (_, tail) ← splitAtByte first text
    let (middle, _) ← splitAtByte (last - first) tail
    some middle

theorem slice_eq {text before middle after : List Char}
    (parts : text = before ++ (middle ++ after)) :
    slice text (byteLength before) (byteLength before + byteLength middle) = some middle := by
  subst text
  unfold slice
  rw [if_neg (Nat.not_lt.mpr (Nat.le_add_right _ _)), splitAtByte_append,
    Nat.add_sub_cancel_left]
  simp [splitAtByte_append]

theorem length_le_byteLength (text : List Char) : text.length ≤ byteLength text := by
  induction text with
  | nil => exact Nat.le_refl 0
  | cons c text induction =>
      have positive := c.utf8Size_pos
      rw [byteLength_cons, List.length_cons]
      omega

end Library
