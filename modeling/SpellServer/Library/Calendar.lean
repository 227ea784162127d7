import Mathlib.Order.Monotone.Basic
import Mathlib.Algebra.Order.Ring.Int
import Mathlib.Tactic.IntervalCases

/-!
# The Gregorian calendar

Months are counted from March of the year 0, so that the leap day is the last
day of its year.  A date carries the proof that its month has its day; its number
counts the days from the first of March of the year 0.
-/

namespace Library

namespace Gregorian

def LeapYear (year : ℤ) : Prop := (year % 4 = 0 ∧ year % 100 ≠ 0) ∨ year % 400 = 0

instance (year : ℤ) : Decidable (LeapYear year) := inferInstanceAs (Decidable (_ ∨ _))

def monthLength (year month : ℤ) : ℤ :=
  if month = 2 then if LeapYear year then 29 else 28
  else if month = 4 ∨ month = 6 ∨ month = 9 ∨ month = 11 then 30
  else 31

/-- The number of the first of March. -/
def yearStart (year : ℤ) : ℤ := 365 * year + year / 4 - year / 100 + year / 400

def monthIndex (year month : ℤ) : ℤ := 12 * year + month - 3

/-- The number of the first of a month. -/
def monthStart (index : ℤ) : ℤ := yearStart (index / 12) + (153 * (index % 12) + 2) / 5

theorem yearStart_succ (year : ℤ) :
    yearStart (year + 1) = yearStart year + if LeapYear (year + 1) then 366 else 365 := by
  by_cases leap : LeapYear (year + 1)
  · rw [if_pos leap]
    unfold LeapYear at leap
    unfold yearStart
    omega
  · rw [if_neg leap]
    unfold LeapYear at leap
    unfold yearStart
    omega

/-- A month is as long as the calendar says. -/
theorem monthStart_succ (year : ℤ) {month : ℤ} (least : 1 ≤ month) (most : month ≤ 12) :
    monthStart (monthIndex year month + 1) =
      monthStart (monthIndex year month) + monthLength year month := by
  unfold monthStart monthIndex monthLength
  by_cases early : month ≤ 2
  · have years : (12 * year + month - 3) / 12 = year - 1 := by omega
    rw [years]
    rcases Int.lt_or_eq_of_le early with january | february
    · have one : month = 1 := by omega
      have next : (12 * year + month - 3 + 1) / 12 = year - 1 := by omega
      rw [next, one]
      norm_num
      omega
    · -- The end of February is the end of the year.
      have next : (12 * year + month - 3 + 1) / 12 = year - 1 + 1 := by omega
      rw [next, yearStart_succ, sub_add_cancel, february, if_pos rfl]
      split <;> omega
  · have years : (12 * year + month - 3) / 12 = year := by omega
    have next : (12 * year + month - 3 + 1) / 12 = year := by omega
    have index : (12 * year + month - 3) % 12 = month - 3 := by omega
    have nextIndex : (12 * year + month - 3 + 1) % 12 = month - 2 := by omega
    rw [years, next, index, nextIndex]
    have from_march : 3 ≤ month := by omega
    interval_cases month <;> norm_num <;> omega

theorem monthLength_pos (year month : ℤ) : 0 < monthLength year month := by
  unfold monthLength
  split_ifs <;> omega

theorem monthStart_lt_succ (index : ℤ) : monthStart index < monthStart (index + 1) := by
  have same : monthIndex ((index + 2) / 12) ((index + 2) % 12 + 1) = index := by
    unfold monthIndex
    omega
  have length := monthLength_pos ((index + 2) / 12) ((index + 2) % 12 + 1)
  have next : monthStart (index + 1) =
      monthStart index + monthLength ((index + 2) / 12) ((index + 2) % 12 + 1) := by
    have first : 1 ≤ (index + 2) % 12 + 1 := by omega
    have step := monthStart_succ ((index + 2) / 12) first (by omega)
    rw [same] at step
    exact step
  omega

theorem monthStart_le {earlier later : ℤ} (ordered : earlier ≤ later) :
    monthStart earlier ≤ monthStart later :=
  (strictMono_int_of_lt_succ monthStart_lt_succ).monotone ordered

/-! ## Dates -/

structure Date where
  year : ℤ
  month : ℤ
  day : ℤ
  month_bounds : 1 ≤ month ∧ month ≤ 12
  day_bounds : 1 ≤ day ∧ day ≤ monthLength year month

namespace Date

def number (date : Date) : ℤ := monthStart (monthIndex date.year date.month) + date.day - 1

/-- The order of the calendar. -/
def Before (one two : Date) : Prop :=
  one.year < two.year ∨ (one.year = two.year ∧
    (one.month < two.month ∨ (one.month = two.month ∧ one.day < two.day)))

theorem number_bounds (date : Date) :
    monthStart (monthIndex date.year date.month) ≤ date.number ∧
      date.number < monthStart (monthIndex date.year date.month + 1) := by
  have next := monthStart_succ date.year date.month_bounds.1 date.month_bounds.2
  have bounds := date.day_bounds
  unfold number
  omega

/-- The months of dates are in the order of their numbers. -/
theorem monthIndex_le {one two : Date} (order : one.number ≤ two.number) :
    monthIndex one.year one.month ≤ monthIndex two.year two.month := by
  by_contra later
  have months : monthStart (monthIndex two.year two.month + 1) ≤
      monthStart (monthIndex one.year one.month) :=
    monthStart_le (by omega)
  have below := two.number_bounds.2
  have above := one.number_bounds.1
  omega

theorem before_of_number_lt {one two : Date} (less : one.number < two.number) :
    one.Before two := by
  have months := monthIndex_le (le_of_lt less)
  have boundsOne := one.month_bounds
  have boundsTwo := two.month_bounds
  rcases lt_or_eq_of_le months with earlier | same
  · unfold monthIndex at earlier
    unfold Before
    omega
  · have days : one.day < two.day := by
      unfold number at less
      rw [same] at less
      omega
    unfold monthIndex at same
    unfold Before
    omega

/-- Different dates have different numbers. -/
theorem number_injective : Function.Injective number := by
  intro one two same
  have months : monthIndex one.year one.month = monthIndex two.year two.month :=
    le_antisymm (monthIndex_le (le_of_eq same)) (monthIndex_le (ge_of_eq same))
  have boundsOne := one.month_bounds
  have boundsTwo := two.month_bounds
  have days : one.day = two.day := by
    unfold number at same
    rw [months] at same
    omega
  unfold monthIndex at months
  have years : one.year = two.year := by omega
  have month : one.month = two.month := by omega
  cases one
  cases two
  cases years
  cases month
  cases days
  rfl

/-- The next day: of the same month, of the next one, or of the next year. -/
def succ (date : Date) : Date :=
  if short : date.day < monthLength date.year date.month then
    { date with
      day := date.day + 1
      day_bounds := by
        have bounds := date.day_bounds
        omega }
  else if early : date.month < 12 then
    { year := date.year
      month := date.month + 1
      day := 1
      month_bounds := by
        have bounds := date.month_bounds
        omega
      day_bounds := ⟨le_refl 1, monthLength_pos _ _⟩ }
  else
    { year := date.year + 1
      month := 1
      day := 1
      month_bounds := by decide
      day_bounds := ⟨le_refl 1, monthLength_pos _ _⟩ }

theorem succ_number (date : Date) : date.succ.number = date.number + 1 := by
  have bounds := date.day_bounds
  have months := date.month_bounds
  have next := monthStart_succ date.year months.1 months.2
  by_cases short : date.day < monthLength date.year date.month
  · unfold succ number
    rw [dif_pos short]
    dsimp only
    omega
  · have last : date.day = monthLength date.year date.month := by omega
    by_cases early : date.month < 12
    · have index : monthIndex date.year (date.month + 1) =
          monthIndex date.year date.month + 1 := by
        unfold monthIndex
        omega
      unfold succ number
      rw [dif_neg short, dif_pos early]
      dsimp only
      rw [index, next, last]
      omega
    · have december : date.month = 12 := by omega
      have index : monthIndex (date.year + 1) 1 = monthIndex date.year date.month + 1 := by
        unfold monthIndex
        omega
      unfold succ number
      rw [dif_neg short, dif_neg early]
      dsimp only
      rw [index, next, last]
      omega

/-- A date lies in a year or earlier when its number is below the next year's. -/
theorem year_le_iff (date : Date) (year : ℤ) :
    date.year ≤ year ↔ date.number < monthStart (monthIndex (year + 1) 1) := by
  have bounds := date.number_bounds
  have month := date.month_bounds
  constructor
  · intro within
    have months : monthStart (monthIndex date.year date.month + 1) ≤
        monthStart (monthIndex (year + 1) 1) := by
      apply monthStart_le
      unfold monthIndex
      omega
    omega
  · intro below
    by_contra later
    have months : monthStart (monthIndex (year + 1) 1) ≤
        monthStart (monthIndex date.year date.month) := by
      apply monthStart_le
      unfold monthIndex
      omega
    omega

end Date

end Gregorian

end Library
