import Mathlib.Data.List.Induction
import Mathlib.Data.List.TakeWhile

/-!
# Fields of a text

A text holds fields between separators.  The blanks around a field do not belong to
it, and a field of blanks only does not count.  `Written` says what it is for a field
to stand in a text; `fields` finds exactly these.
-/

namespace Library.Fields

variable {α : Type*} (blank : α → Bool)

/-- Without the blanks at both ends. -/
def strip (text : List α) : List α :=
  ((text.dropWhile blank).reverse.dropWhile blank).reverse

def fields [DecidableEq α] (sep : α) (text : List α) : List (List α) :=
  ((text.splitOn sep).map (strip blank)).filter (· ≠ [])

/-- A field neither begins nor ends with a blank. -/
structure Tight (field : List α) : Prop where
  nonempty : field ≠ []
  first : ∀ c ∈ field.head?, blank c = false
  last : ∀ c ∈ field.getLast?, blank c = false

variable {blank}

/-! ## Stripping -/

theorem strip_eq_nil_iff {text : List α} : strip blank text = [] ↔ ∀ c ∈ text, blank c = true := by
  constructor
  · intro stripped
    have rest : (text.dropWhile blank).reverse.dropWhile blank = [] := by
      simpa [strip] using stripped
    rw [List.dropWhile_eq_nil_iff] at rest
    intro c member
    rw [← List.takeWhile_append_dropWhile (p := blank) (l := text), List.mem_append] at member
    rcases member with front | back
    · exact List.all_eq_true.mp List.all_takeWhile c front
    · exact rest c (List.mem_reverse.mpr back)
  · intro blanks
    have none_left : text.dropWhile blank = [] := List.dropWhile_eq_nil_iff.mpr blanks
    simp [strip, none_left]

/-- Blanks around a field are taken off. -/
theorem strip_padded {front field back : List α} (before : ∀ c ∈ front, blank c = true)
    (tight : Tight blank field) (after : ∀ c ∈ back, blank c = true) :
    strip blank (front ++ field ++ back) = field := by
  have opens : (front ++ field ++ back).dropWhile blank = field ++ back := by
    rw [List.append_assoc, List.dropWhile_append_of_pos before]
    cases field with
    | nil => exact absurd rfl tight.nonempty
    | cons c rest => exact List.dropWhile_cons_of_neg (by simp [tight.first c rfl])
  have closes : (field ++ back).reverse.dropWhile blank = field.reverse := by
    rw [List.reverse_append, List.dropWhile_append_of_pos]
    · cases ends : field.reverse with
      | nil => exact absurd (List.reverse_eq_nil_iff.mp ends) tight.nonempty
      | cons c rest =>
          have final : field.getLast? = some c := by
            rw [← List.head?_reverse, ends]
            rfl
          exact List.dropWhile_cons_of_neg (by simp [tight.last c final])
    · intro c member
      exact after c (List.mem_reverse.mp member)
  rw [strip, opens, closes, List.reverse_reverse]

/-- What is left has blanks around it, and is a field if there is anything left. -/
theorem strip_spec (text : List α) :
    ∃ front back, text = front ++ strip blank text ++ back ∧ (∀ c ∈ front, blank c = true) ∧
      (∀ c ∈ back, blank c = true) ∧ (strip blank text ≠ [] → Tight blank (strip blank text)) := by
  let middle := text.dropWhile blank
  have opening : text.takeWhile blank ++ middle = text := List.takeWhile_append_dropWhile
  have closing : strip blank text ++ (middle.reverse.takeWhile blank).reverse = middle := by
    have halves : middle.reverse.takeWhile blank ++ middle.reverse.dropWhile blank =
        middle.reverse := List.takeWhile_append_dropWhile
    have turned := congrArg List.reverse halves
    rw [List.reverse_append, List.reverse_reverse] at turned
    exact turned
  refine ⟨text.takeWhile blank, (middle.reverse.takeWhile blank).reverse, ?_, ?_, ?_, ?_⟩
  · rw [List.append_assoc, closing, opening]
  · exact List.all_eq_true.mp List.all_takeWhile
  · intro c member
    exact List.all_eq_true.mp List.all_takeWhile c (List.mem_reverse.mp member)
  · intro some_left
    refine ⟨some_left, ?_, ?_⟩
    · intro c first
      have leading : middle.head? = some c := by
        rw [← closing, List.head?_append, first]
        rfl
      have kept := List.head?_dropWhile_not blank text
      rw [show text.dropWhile blank = middle from rfl, leading] at kept
      simpa using kept
    · intro c last
      have trailing : (middle.reverse.dropWhile blank).head? = some c := by
        rw [← List.getLast?_reverse]
        exact last
      have kept := List.head?_dropWhile_not blank middle.reverse
      rw [trailing] at kept
      simpa using kept

/-! ## Where a field stands -/

/-- The field stands between two separators, or a separator and an end, with blanks
around it. -/
structure Written (blank : α → Bool) (sep : α) (text field : List α) : Prop where
  tight : Tight blank field
  stands : ∃ before front back after, text = before ++ (front ++ field ++ back) ++ after ∧
    sep ∉ front ++ field ++ back ∧ (∀ c ∈ front, blank c = true) ∧ (∀ c ∈ back, blank c = true) ∧
    (before = [] ∨ before.getLast? = some sep) ∧ (after = [] ∨ after.head? = some sep)

variable {sep : α}

/-- A piece of a text between separators. -/
structure Piece (sep : α) (text piece : List α) : Prop where
  clean : sep ∉ piece
  stands : ∃ before after, text = before ++ piece ++ after ∧
    (before = [] ∨ before.getLast? = some sep) ∧ (after = [] ∨ after.head? = some sep)

/-- A piece behind a separator is a piece of the whole text. -/
theorem Piece.behind {rest piece : List α} (stands : Piece sep rest piece) (front : List α) :
    Piece sep (front ++ sep :: rest) piece := by
  refine ⟨stands.clean, ?_⟩
  obtain ⟨before, after, rfl, opens, closes⟩ := stands.stands
  refine ⟨front ++ sep :: before, after, by simp, Or.inr ?_, closes⟩
  rcases opens with rfl | ends
  · simp
  · rw [List.getLast?_append, List.getLast?_cons, ends]
    rfl

variable [DecidableEq α]

/-- The first piece ends at a separator or with the text. -/
theorem mem_splitOn_front {piece after : List α} (clean : sep ∉ piece)
    (closes : after = [] ∨ after.head? = some sep) : piece ∈ (piece ++ after).splitOn sep := by
  rcases closes with rfl | next
  · rw [List.append_nil, List.splitOn_eq_singleton clean]
    exact List.mem_singleton.mpr rfl
  · cases after with
    | nil => cases next
    | cons c rest =>
        cases next
        rw [List.splitOn_append_cons_self_of_not_mem clean]
        exact List.mem_cons_self

theorem mem_splitOn_iff {text piece : List α} :
    piece ∈ text.splitOn sep ↔ Piece sep text piece := by
  constructor
  · intro member
    -- on the number of separators, from the front
    induction length : text.length using Nat.strongRecOn generalizing text with
    | _ size induction =>
        by_cases present : sep ∈ text
        · obtain ⟨first, rest, rfl, clean⟩ := List.eq_append_cons_of_mem present
          rw [List.splitOn_append_cons_self_of_not_mem clean] at member
          rcases List.mem_cons.mp member with rfl | later
          · exact ⟨clean, [], sep :: rest, rfl, Or.inl rfl, Or.inr rfl⟩
          · apply Piece.behind
            apply induction rest.length _ later rfl
            simp only [List.length_append, List.length_cons] at length
            omega
        · rw [List.splitOn_eq_singleton present] at member
          cases List.mem_singleton.mp member
          exact ⟨present, [], [], by simp, Or.inl rfl, Or.inl rfl⟩
  · intro stands
    obtain ⟨before, after, rfl, opens, closes⟩ := stands.stands
    have front := mem_splitOn_front stands.clean closes
    rcases opens with rfl | ends
    · exact front
    · obtain ⟨earlier, rfl⟩ := List.getLast?_eq_some_iff.mp ends
      have behind : earlier ++ [sep] ++ piece ++ after = earlier ++ sep :: (piece ++ after) := by
        simp
      rw [behind, List.splitOn_append_cons_self]
      exact List.mem_append_right _ front

/-! ## Reading the fields -/

theorem mem_fields_iff {text field : List α} :
    field ∈ fields blank sep text ↔ Written blank sep text field := by
  simp only [fields, List.mem_filter, List.mem_map, mem_splitOn_iff, decide_eq_true_eq]
  constructor
  · intro read
    obtain ⟨⟨piece, stands, rfl⟩, kept⟩ := read
    obtain ⟨front, back, parts, before, after, tight⟩ := @strip_spec _ blank piece
    obtain ⟨earlier, later, text_eq, opens, closes⟩ := stands.stands
    refine ⟨tight kept, earlier, front, back, later, ?_, ?_, before, after, opens, closes⟩
    · rw [← parts]
      exact text_eq
    · rw [← parts]
      exact stands.clean
  · intro written
    obtain ⟨before, front, back, after, text_eq, clean, opening, closing, opens, closes⟩ :=
      written.stands
    refine ⟨⟨front ++ field ++ back, ⟨clean, before, after, text_eq, opens, closes⟩, ?_⟩,
      written.tight.nonempty⟩
    exact strip_padded opening written.tight closing

/-- The pieces hold everything but the separators. -/
theorem forall_mem_splitOn_iff {holds : α → Prop} {text : List α} :
    (∀ piece ∈ text.splitOn sep, ∀ c ∈ piece, holds c) ↔ ∀ c ∈ text, holds c ∨ c = sep := by
  induction text with
  | nil => simp
  | cons first text induction =>
      rw [List.splitOn_cons_eq_if_modifyHead]
      by_cases here : first = sep
      · subst first
        simp [induction]
      · obtain ⟨piece, pieces, split⟩ := List.exists_cons_of_ne_nil (List.splitOn_ne_nil sep text)
        rw [split] at induction ⊢
        simp only [beq_iff_eq, here, if_false, List.modifyHead_cons, List.forall_mem_cons, or_false,
          ← induction, and_assoc]

/-- A text has no field exactly if it holds nothing but blanks and separators. -/
theorem fields_eq_nil_iff {text : List α} :
    fields blank sep text = [] ↔ ∀ c ∈ text, blank c = true ∨ c = sep := by
  rw [← forall_mem_splitOn_iff]
  simp [fields, List.filter_eq_nil_iff, strip_eq_nil_iff]

end Library.Fields
