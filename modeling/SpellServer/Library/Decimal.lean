import Mathlib.Algebra.Group.Nat.Defs
import Mathlib.Data.List.Induction
import Mathlib.Data.String.Basic

/-!
# Decimal texts

Numbers of the same number of digits are in the order of their texts.  A longer
text continues that of its leading digits.
-/

namespace Library

/-- Texts of one length are compared before what follows them. -/
theorem append_lt_append_iff {α : Type*} [LT α] {one two later other : List α}
    (same : one.length = two.length) :
    one ++ later < two ++ other ↔ one < two ∨ (one = two ∧ later < other) := by
  induction one generalizing two with
  | nil =>
      cases two with
      | nil => simp
      | cons head rest => cases same
  | cons first one induction =>
      cases two with
      | nil => cases same
      | cons second two =>
          have lengths : one.length = two.length := by simpa using same
          rw [List.cons_append, List.cons_append, List.cons_lt_cons_iff, List.cons_lt_cons_iff,
            induction lengths]
          constructor
          · intro less
            rcases less with less | ⟨rfl, less | ⟨rfl, less⟩⟩
            · exact Or.inl (Or.inl less)
            · exact Or.inl (Or.inr ⟨rfl, less⟩)
            · exact Or.inr ⟨rfl, less⟩
          · intro less
            rcases less with (less | ⟨rfl, less⟩) | ⟨equal, less⟩
            · exact Or.inl less
            · exact Or.inr ⟨rfl, Or.inl less⟩
            · cases equal
              exact Or.inr ⟨rfl, Or.inr ⟨rfl, less⟩⟩

namespace Decimal

/-- The last digits of a number. -/
def digits : ℕ → ℕ → List Char
  | 0, _ => []
  | width + 1, value => digits width (value / 10) ++ [Nat.digitChar (value % 10)]

@[simp] theorem length_digits (width value : ℕ) : (digits width value).length = width := by
  induction width generalizing value with
  | zero => rfl
  | succ width induction => simp [digits, induction]

theorem isDigit_of_mem_digits {width value : ℕ} {c : Char} (member : c ∈ digits width value) :
    c.isDigit = true := by
  induction width generalizing value with
  | zero => cases member
  | succ width induction =>
      rcases List.mem_append.mp member with before | last
      · exact induction before
      · have table : ∀ digit < 10, (Nat.digitChar digit).isDigit = true := by decide
        rw [List.mem_singleton.mp last]
        exact table _ (Nat.mod_lt _ (by decide))

theorem digits_zero (width : ℕ) : digits width 0 = List.replicate width '0' := by
  induction width with
  | zero => rfl
  | succ width induction =>
      rw [digits, Nat.zero_div, induction, List.replicate_succ']
      rfl

/-- `{:0width}` of a number that fits. -/
theorem leftpad_toDigits {width value : ℕ} (fits : value < 10 ^ (width + 1)) :
    (Nat.toDigits 10 value).leftpad (width + 1) '0' = digits (width + 1) value := by
  induction width generalizing value with
  | zero =>
      have small : value < 10 := fits
      rw [Nat.toDigits_of_lt_base small, digits, Nat.mod_eq_of_lt small]
      rfl
  | succ width induction =>
      rw [digits]
      by_cases small : value < 10
      · rw [Nat.toDigits_of_lt_base small, Nat.div_eq_of_lt small, digits_zero,
          Nat.mod_eq_of_lt small]
        rfl
      · have shorter : value / 10 < 10 ^ (width + 1) := by
          rw [Nat.div_lt_iff_lt_mul (by decide)]
          rw [pow_succ] at fits
          exact fits
        rw [Nat.toDigits_of_base_le (by decide) (not_lt.mp small), ← induction shorter]
        simp [List.leftpad]

theorem digitChar_lt {one two : ℕ} (less : one < two) (digit : two < 10) :
    Nat.digitChar one < Nat.digitChar two := by
  have table : ∀ two < 10, ∀ one < two, Nat.digitChar one < Nat.digitChar two := by decide
  exact table two digit one less

theorem digits_lt {width one two : ℕ} (less : one < two) (fits : two < 10 ^ width) :
    digits width one < digits width two := by
  induction width generalizing one two with
  | zero =>
      rw [pow_zero] at fits
      omega
  | succ width induction =>
      have shorter : two / 10 < 10 ^ width := by
        rw [Nat.div_lt_iff_lt_mul (by decide)]
        rw [pow_succ] at fits
        exact fits
      rw [digits, digits, append_lt_append_iff (by simp)]
      rcases Nat.lt_or_ge (one / 10) (two / 10) with earlier | later
      · exact Or.inl (induction earlier shorter)
      · have same : one / 10 = two / 10 := by omega
        have last : Nat.digitChar (one % 10) < Nat.digitChar (two % 10) :=
          digitChar_lt (by omega) (by omega)
        refine Or.inr ⟨by rw [same], ?_⟩
        exact List.cons_lt_cons_iff.mpr (Or.inl last)

theorem digits_lt_iff {width one two : ℕ} (fitsOne : one < 10 ^ width) (fitsTwo : two < 10 ^ width) :
    digits width one < digits width two ↔ one < two := by
  constructor
  · intro less
    by_contra order
    rcases Nat.lt_or_eq_of_le (not_lt.mp order) with greater | same
    · exact lt_asymm less (digits_lt greater fitsOne)
    · rw [same] at less
      exact lt_irrefl _ less
  · intro less
    exact digits_lt less fitsTwo

theorem digits_eq_iff {width one two : ℕ} (fitsOne : one < 10 ^ width) (fitsTwo : two < 10 ^ width) :
    digits width one = digits width two ↔ one = two := by
  constructor
  · intro same
    rcases lt_trichotomy one two with less | equal | greater
    · have order := digits_lt less fitsTwo
      rw [same] at order
      exact absurd order (lt_irrefl _)
    · exact equal
    · have order := digits_lt greater fitsOne
      rw [same] at order
      exact absurd order (lt_irrefl _)
  · intro equal
    rw [equal]

theorem toDigits_injective {one two : ℕ} (same : Nat.toDigits 10 one = Nat.toDigits 10 two) :
    one = two := by
  have wide : ∀ value ≤ max one two, value < 10 ^ (max one two + 1) := by
    intro value most
    exact Nat.lt_of_le_of_lt (most.trans (Nat.le_succ _)) (Nat.lt_pow_self (by decide))
  have fitsOne := wide one (Nat.le_max_left _ _)
  have fitsTwo := wide two (Nat.le_max_right _ _)
  rw [← digits_eq_iff fitsOne fitsTwo, ← leftpad_toDigits fitsOne, same, leftpad_toDigits fitsTwo]

/-! ## The number of a text -/

def value (text : List Char) : ℕ :=
  text.foldl (fun value c => 10 * value + (c.toNat - '0'.toNat)) 0

theorem value_append_singleton (text : List Char) (c : Char) :
    value (text ++ [c]) = 10 * value text + (c.toNat - '0'.toNat) := by
  unfold value
  rw [List.foldl_append]
  rfl

theorem value_digits {width number : ℕ} (fits : number < 10 ^ width) :
    value (digits width number) = number := by
  induction width generalizing number with
  | zero =>
      rw [pow_zero] at fits
      exact (Nat.lt_one_iff.mp fits).symm
  | succ width induction =>
      have shorter : number / 10 < 10 ^ width := by
        rw [Nat.div_lt_iff_lt_mul (by decide)]
        rw [pow_succ] at fits
        exact fits
      have table : ∀ digit < 10, (Nat.digitChar digit).toNat - '0'.toNat = digit := by decide
      rw [digits, value_append_singleton, induction shorter, table _ (Nat.mod_lt _ (by decide))]
      omega

theorem value_toDigits (number : ℕ) : value (Nat.toDigits 10 number) = number := by
  induction number using Nat.strongRecOn with
  | _ number induction =>
      have table : ∀ digit < 10, (Nat.digitChar digit).toNat - '0'.toNat = digit := by decide
      by_cases small : number < 10
      · rw [Nat.toDigits_of_lt_base small]
        change 10 * 0 + ((Nat.digitChar number).toNat - '0'.toNat) = number
        rw [table number small]
        omega
      · have large : 10 ≤ number := not_lt.mp small
        rw [Nat.toDigits_of_base_le (by decide) large, value_append_singleton,
          induction (number / 10) (by omega), table _ (Nat.mod_lt _ (by decide))]
        omega

/-- A text of digits writes its number. -/
theorem digits_value {text : List Char} (all : text.all Char.isDigit = true) :
    digits text.length (value text) = text ∧ value text < 10 ^ text.length := by
  induction text using List.reverseRecOn with
  | nil => exact ⟨rfl, Nat.one_pos⟩
  | append_singleton text c induction =>
      rw [List.all_append, Bool.and_eq_true] at all
      obtain ⟨same, fits⟩ := induction all.1
      have digit : c.isDigit = true := by simpa using all.2
      have bounds : 48 ≤ c.toNat ∧ c.toNat ≤ 57 := by
        have ranges : 48 ≤ c.val ∧ c.val ≤ 57 := by simpa [Char.isDigit] using digit
        exact ⟨ranges.1, ranges.2⟩
      have zero : '0'.toNat = 48 := rfl
      have last : Nat.digitChar (c.toNat - '0'.toNat) = c := by
        have table : ∀ digit < 10, Nat.digitChar digit = Char.ofNat (digit + 48) := by decide
        rw [table _ (by omega), zero, Nat.sub_add_cancel bounds.1, Char.ofNat_toNat]
      have quotient : value (text ++ [c]) / 10 = value text := by
        rw [value_append_singleton]
        omega
      have remainder : value (text ++ [c]) % 10 = c.toNat - '0'.toNat := by
        rw [value_append_singleton]
        omega
      rw [List.length_append, List.length_singleton, digits, quotient, remainder, same, last,
        value_append_singleton, pow_succ]
      exact ⟨rfl, by omega⟩

/-! ## Longer numbers -/

/-- A number of exactly as many digits. -/
theorem toDigits_eq_digits {width value : ℕ} (least : 10 ^ width ≤ value)
    (fits : value < 10 ^ (width + 1)) : Nat.toDigits 10 value = digits (width + 1) value := by
  have length : width + 1 ≤ (Nat.toDigits 10 value).length := by
    by_contra short
    rcases Nat.eq_zero_or_pos width with zero | positive
    · have some_digit := Nat.length_toDigits_pos (b := 10) (n := value)
      omega
    · have fewer : (Nat.toDigits 10 value).length ≤ width := by omega
      have small := (Nat.length_toDigits_le_iff (by decide) positive).mp fewer
      omega
  have padded := leftpad_toDigits fits
  rw [List.leftpad, Nat.sub_eq_zero_of_le length, List.replicate_zero, List.nil_append] at padded
  exact padded

/-- The number that the first digits write. -/
def leading (width value : ℕ) : ℕ :=
  if value < 10 ^ width then value else leading width (value / 10)
termination_by value
decreasing_by
  have positive : 0 < 10 ^ width := Nat.pow_pos (by decide)
  omega

theorem leading_lt (width value : ℕ) : leading width value < 10 ^ width := by
  induction value using leading.induct width with
  | case1 value small =>
      rw [leading, if_pos small]
      exact small
  | case2 value long induction =>
      rw [leading, if_neg long]
      exact induction

/-- A longer text goes on with a digit after its leading ones. -/
theorem toDigits_leading {width value : ℕ} (long : 10 ^ (width + 1) ≤ value) :
    ∃ first rest, first.isDigit = true ∧
      Nat.toDigits 10 value = digits (width + 1) (leading (width + 1) value) ++ first :: rest := by
  induction value using leading.induct (width + 1) with
  | case1 value small => omega
  | case2 value _ induction =>
      have ten : 10 ≤ value := by
        have positive : 0 < 10 ^ width := Nat.pow_pos (by decide)
        rw [Nat.pow_succ] at long
        omega
      have last : (Nat.digitChar (value % 10)).isDigit = true := by
        have table : ∀ digit < 10, (Nat.digitChar digit).isDigit = true := by decide
        exact table _ (Nat.mod_lt _ (by decide))
      rw [leading, if_neg (not_lt.mpr long), Nat.toDigits_of_base_le (by decide) ten]
      by_cases exact_width : value / 10 < 10 ^ (width + 1)
      · have least : 10 ^ width ≤ value / 10 := by
          rw [Nat.pow_succ] at long
          omega
        rw [leading, if_pos exact_width, toDigits_eq_digits least exact_width]
        exact ⟨_, [], last, rfl⟩
      · obtain ⟨first, rest, digit, text⟩ := induction (not_lt.mp exact_width)
        refine ⟨first, rest ++ [Nat.digitChar (value % 10)], digit, ?_⟩
        rw [text, List.append_assoc]
        rfl

end Decimal

end Library
