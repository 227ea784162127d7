import SpellServer.Library.Calendar
import SpellServer.Library.Decimal
import SpellServer.Usage.Days

/-!
# Days as dates

`format_day` writes the Gregorian date of its day, and texts of four-digit years
are in the order of their days.
-/

namespace SpellServer

open Library Gregorian

/-! ## The date of a day -/

/-- The first of March of the year 0, in days before the epoch. -/
def epochOffset : ℤ := 719468

/-- The division that `format_day` and `parse_day` spell out. -/
theorem tdiv_era {length : ℤ} (positive : 0 < length) (z : ℤ) :
    (if 0 ≤ z then z else z - (length - 1)).tdiv length = z / length := by
  split
  · rename_i nonneg
    exact Int.tdiv_eq_ediv_of_nonneg nonneg
  · rename_i negative
    have flipped : z - (length - 1) = -(length - 1 - z) := by omega
    have division := Int.mul_ediv_add_emod (length - 1 - z) length
    have least := Int.emod_nonneg (length - 1 - z) (ne_of_gt positive)
    have most := Int.emod_lt_of_pos (length - 1 - z) positive
    rw [flipped, Int.neg_tdiv, Int.tdiv_eq_ediv_of_nonneg (by omega)]
    apply Eq.symm
    rw [Int.ediv_eq_iff_of_pos positive, Int.neg_mul, Int.mul_comm]
    omega

/-- The year of an era that a day lies in. -/
theorem year_of_era {doe : ℤ} (least : 0 ≤ doe) (most : doe < 146097) :
    ∀ yoe, yoe = (doe - doe / 1460 + doe / 36524 - doe / 146096) / 365 →
      0 ≤ yoe ∧ yoe < 400 ∧ yearStart yoe ≤ doe ∧ doe < yearStart (yoe + 1) := by
  intro yoe formula
  obtain ⟨century, centuryEq⟩ : ∃ century, century = doe / 36524 := ⟨_, rfl⟩
  obtain ⟨cycle, cycleEq⟩ : ∃ cycle, cycle = doe / 1460 := ⟨_, rfl⟩
  rw [← centuryEq, ← cycleEq] at formula
  obtain ⟨rest, restEq⟩ : ∃ rest, yoe = 4 * cycle + rest := ⟨yoe - 4 * cycle, by omega⟩
  have centuryBounds : 0 ≤ century ∧ century ≤ 4 := by omega
  have restBounds : -1 ≤ rest ∧ rest ≤ 4 := by omega
  obtain ⟨_, _⟩ := centuryBounds
  obtain ⟨_, _⟩ := restBounds
  unfold yearStart
  interval_cases century <;> interval_cases rest <;> omega

/-- The day of a year in days of months, all counted from March. -/
theorem month_of_year {year doy mp : ℤ} (least : 0 ≤ doy)
    (most : yearStart year + doy < yearStart (year + 1)) (formula : mp = (5 * doy + 2) / 153) :
    0 ≤ mp ∧ mp ≤ 11 ∧ monthStart (12 * year + mp) ≤ yearStart year + doy ∧
      yearStart year + doy < monthStart (12 * year + mp + 1) ∧
      monthStart (12 * year + mp) = yearStart year + (153 * mp + 2) / 5 := by
  have length := yearStart_succ year
  have short : doy ≤ 365 := by
    split at length <;> omega
  have bounds : 0 ≤ mp ∧ mp ≤ 11 := by omega
  have years : (12 * year + mp) / 12 = year := by omega
  have index : (12 * year + mp) % 12 = mp := by omega
  have start : monthStart (12 * year + mp) = yearStart year + (153 * mp + 2) / 5 := by
    rw [monthStart, years, index]
  refine ⟨bounds.1, bounds.2, by omega, ?_, start⟩
  rcases Int.lt_or_eq_of_le bounds.2 with before | last
  · have nextYears : (12 * year + mp + 1) / 12 = year := by omega
    have nextIndex : (12 * year + mp + 1) % 12 = mp + 1 := by omega
    rw [monthStart, nextYears, nextIndex]
    omega
  · have nextYears : (12 * year + mp + 1) / 12 = year + 1 := by omega
    have nextIndex : (12 * year + mp + 1) % 12 = 0 := by omega
    rw [monthStart, nextYears, nextIndex]
    omega

/-- The numbers that `format_day` writes. -/
def civilFields (epochDay : ℤ) : ℤ × ℤ × ℤ :=
  let z := epochDay + 719468
  let era := (if 0 ≤ z then z else z - 146096).tdiv 146097
  let doe := z - era * 146097
  let yoe := (doe - doe.tdiv 1460 + doe.tdiv 36524 - doe.tdiv 146096).tdiv 365
  let y := yoe + era * 400
  let doy := doe - (365 * yoe + yoe.tdiv 4 - yoe.tdiv 100)
  let mp := (5 * doy + 2).tdiv 153
  let d := doy - (153 * mp + 2).tdiv 5 + 1
  let m := if mp < 10 then mp + 3 else mp - 9
  (y + if m ≤ 2 then 1 else 0, m, d)

theorem formatDay_eq (epochDay : ℤ) :
    formatDay epochDay = zeroPadded 4 (civilFields epochDay).1 ++ "-" ++
      zeroPadded 2 (civilFields epochDay).2.1 ++ "-" ++ zeroPadded 2 (civilFields epochDay).2.2 := rfl

theorem yearStart_add_eras (yoe era : ℤ) :
    yearStart (yoe + era * 400) = yearStart yoe + era * 146097 := by
  unfold yearStart
  omega

theorem civilFields_spec (epochDay : ℤ) :
    ∃ year month day, civilFields epochDay = (year, month, day) ∧ 1 ≤ month ∧ month ≤ 12 ∧
      1 ≤ day ∧ day ≤ monthLength year month ∧
      monthStart (monthIndex year month) + day - 1 = epochDay + epochOffset := by
  have eras := @tdiv_era 146097 (by decide)
  norm_num at eras
  unfold civilFields epochOffset
  simp only [eras]
  generalize zEq : epochDay + 719468 = z
  generalize doeEq : z - z / 146097 * 146097 = doe
  have least : 0 ≤ doe := by omega
  have most : doe < 146097 := by omega
  rw [Int.tdiv_eq_ediv_of_nonneg least, Int.tdiv_eq_ediv_of_nonneg least,
    Int.tdiv_eq_ediv_of_nonneg least, Int.tdiv_eq_ediv_of_nonneg (by omega)]
  generalize yoeEq : (doe - doe / 1460 + doe / 36524 - doe / 146096) / 365 = yoe
  obtain ⟨yoeNonneg, yoeLess, began, ends⟩ := year_of_era least most yoe yoeEq.symm
  rw [Int.tdiv_eq_ediv_of_nonneg yoeNonneg, Int.tdiv_eq_ediv_of_nonneg yoeNonneg]
  generalize doyEq : doe - (365 * yoe + yoe / 4 - yoe / 100) = doy
  have start : yearStart yoe = 365 * yoe + yoe / 4 - yoe / 100 := by
    unfold yearStart
    omega
  have doyNonneg : 0 ≤ doy := by omega
  rw [Int.tdiv_eq_ediv_of_nonneg (by omega)]
  generalize mpEq : (5 * doy + 2) / 153 = mp
  rw [Int.tdiv_eq_ediv_of_nonneg (by omega)]
  have eras := yearStart_add_eras yoe (z / 146097)
  have nextEras := yearStart_add_eras (yoe + 1) (z / 146097)
  rw [add_right_comm] at nextEras
  generalize yEq : yoe + z / 146097 * 400 = y at eras nextEras ⊢
  have ofZ : yearStart y + doy = z := by omega
  have within : yearStart y + doy < yearStart (y + 1) := by omega
  obtain ⟨mpNonneg, mpMost, monthBegan, monthEnds, monthEq⟩ :=
    month_of_year doyNonneg within mpEq.symm
  generalize monthForm : (if mp < 10 then mp + 3 else mp - 9) = month
  have month_bounds : 1 ≤ month ∧ month ≤ 12 := by
    split at monthForm <;> omega
  have index : monthIndex (y + if month ≤ 2 then 1 else 0) month = 12 * y + mp := by
    unfold monthIndex
    split at monthForm <;> split <;> omega
  have length := monthStart_succ (y + if month ≤ 2 then 1 else 0) month_bounds.1 month_bounds.2
  rw [index] at length
  refine ⟨_, _, _, rfl, month_bounds.1, month_bounds.2, by omega, by omega, ?_⟩
  rw [index]
  omega

/-- The Gregorian date of a day since the epoch. -/
def civilDate (epochDay : ℤ) : Date :=
  { year := (civilFields epochDay).1
    month := (civilFields epochDay).2.1
    day := (civilFields epochDay).2.2
    month_bounds := by
      obtain ⟨year, month, day, fields, least, most, _⟩ := civilFields_spec epochDay
      rw [fields]
      exact ⟨least, most⟩
    day_bounds := by
      obtain ⟨year, month, day, fields, _, _, least, most, _⟩ := civilFields_spec epochDay
      rw [fields]
      exact ⟨least, most⟩ }

theorem civilDate_number (epochDay : ℤ) : (civilDate epochDay).number = epochDay + epochOffset := by
  obtain ⟨year, month, day, fields, _, _, _, _, number⟩ := civilFields_spec epochDay
  have written : (civilDate epochDay).number =
      monthStart (monthIndex (civilFields epochDay).1 (civilFields epochDay).2.1) +
        (civilFields epochDay).2.2 - 1 := rfl
  rw [written, fields]
  exact number

/-- Days are in the order of the calendar. -/
theorem civilDate_before {earlier later : ℤ} (less : earlier < later) :
    (civilDate earlier).Before (civilDate later) := by
  apply Date.before_of_number_lt
  rw [civilDate_number, civilDate_number]
  omega

/-- The last day of a year. -/
def lastDayOf (year : ℤ) : ℤ := monthStart (monthIndex (year + 1) 1) - epochOffset - 1

theorem civilDate_year_le_iff (epochDay year : ℤ) :
    (civilDate epochDay).year ≤ year ↔ epochDay ≤ lastDayOf year := by
  rw [Date.year_le_iff, civilDate_number, lastDayOf]
  omega

theorem lastDayOf_le {earlier later : ℤ} (ordered : earlier ≤ later) :
    lastDayOf earlier ≤ lastDayOf later := by
  have indices : monthIndex (earlier + 1) 1 ≤ monthIndex (later + 1) 1 := by
    unfold monthIndex
    omega
  have months := monthStart_le indices
  unfold lastDayOf
  omega

/-! ## Texts of days -/

theorem toList_zeroPadded {width : ℕ} {value : ℤ} (nonneg : 0 ≤ value)
    (fits : value < 10 ^ (width + 1)) :
    (zeroPadded (width + 1) value).toList = Decimal.digits (width + 1) value.toNat := by
  have small : value.toNat < 10 ^ (width + 1) := by
    have cast : ((10 ^ (width + 1) : ℕ) : ℤ) = 10 ^ (width + 1) := by push_cast; rfl
    omega
  have absolute : value.natAbs = value.toNat := by omega
  unfold zeroPadded
  rw [if_neg (not_lt.mpr nonneg), absolute, ← Decimal.leftpad_toDigits small]
  simp

theorem formatDay_toList (epochDay : ℤ) :
    (formatDay epochDay).toList = (zeroPadded 4 (civilDate epochDay).year).toList ++
      '-' :: ((zeroPadded 2 (civilDate epochDay).month).toList ++
        '-' :: (zeroPadded 2 (civilDate epochDay).day).toList) := by
  rw [formatDay_eq]
  simp only [String.toList_append, List.append_assoc]
  rfl

theorem dash_lt_digit {c : Char} (digit : c.isDigit = true) : '-' < c := by
  have bounds : 48 ≤ c.val ∧ c.val ≤ 57 := by simpa [Char.isDigit] using digit
  have least : '0' ≤ c := bounds.1
  exact lt_of_lt_of_le (by decide) least

/-- A day whose year has four digits. -/
def FourDigitYear (epochDay : ℤ) : Prop :=
  0 ≤ (civilDate epochDay).year ∧ (civilDate epochDay).year ≤ 9999

theorem FourDigitYear.year_text {epochDay : ℤ} (four : FourDigitYear epochDay) :
    (zeroPadded 4 (civilDate epochDay).year).toList =
        Decimal.digits 4 (civilDate epochDay).year.toNat ∧
      (civilDate epochDay).year.toNat < 10 ^ 4 := by
  have small : (civilDate epochDay).year < 10 ^ (3 + 1) := by
    have most := four.2
    norm_num
    omega
  refine ⟨toList_zeroPadded four.1 small, ?_⟩
  have most := four.2
  omega

/-- A month and a day have two digits. -/
theorem two_digits (date : Date) : ((zeroPadded 2 date.month).toList =
    Decimal.digits 2 date.month.toNat ∧ date.month.toNat < 10 ^ 2) ∧
    (zeroPadded 2 date.day).toList = Decimal.digits 2 date.day.toNat ∧
      date.day.toNat < 10 ^ 2 := by
  have month := date.month_bounds
  have day := date.day_bounds
  have short : monthLength date.year date.month ≤ 31 := by
    unfold monthLength
    split_ifs <;> omega
  have monthFits : date.month < 10 ^ (1 + 1) := by
    norm_num
    omega
  have dayFits : date.day < 10 ^ (1 + 1) := by
    norm_num
    omega
  exact ⟨⟨toList_zeroPadded (by omega) monthFits, by omega⟩,
    toList_zeroPadded (by omega) dayFits, by omega⟩

theorem formatDay_lt {earlier later : ℤ} (first : FourDigitYear earlier)
    (last : FourDigitYear later) (less : earlier < later) : formatDay earlier < formatDay later := by
  have before := civilDate_before less
  obtain ⟨firstYear, firstFits⟩ := first.year_text
  obtain ⟨lastYear, lastFits⟩ := last.year_text
  obtain ⟨⟨firstMonth, _⟩, firstDay, _⟩ := two_digits (civilDate earlier)
  obtain ⟨⟨lastMonth, lastMonthFits⟩, lastDay, lastDayFits⟩ := two_digits (civilDate later)
  have monthsFirst := (civilDate earlier).month_bounds
  have daysFirst := (civilDate earlier).day_bounds
  rw [String.lt_iff, formatDay_toList, formatDay_toList, firstYear, lastYear, firstMonth, lastMonth,
    firstDay, lastDay, append_lt_append_iff (by simp)]
  rcases before with years | ⟨sameYear, later⟩
  · have yearFirst := first.1
    exact Or.inl (Decimal.digits_lt (by omega) lastFits)
  · refine Or.inr ⟨by rw [sameYear], List.cons_lt_cons_iff.mpr (Or.inr ⟨rfl, ?_⟩)⟩
    rw [append_lt_append_iff (by simp)]
    rcases later with months | ⟨sameMonth, days⟩
    · exact Or.inl (Decimal.digits_lt (by omega) lastMonthFits)
    · refine Or.inr ⟨by rw [sameMonth], List.cons_lt_cons_iff.mpr (Or.inr ⟨rfl, ?_⟩)⟩
      exact Decimal.digits_lt (by omega) lastDayFits

theorem formatDay_le_iff {one two : ℤ} (first : FourDigitYear one) (second : FourDigitYear two) :
    formatDay one ≤ formatDay two ↔ one ≤ two := by
  constructor
  · intro order
    by_contra greater
    exact absurd (formatDay_lt second first (not_le.mp greater)) (not_lt.mpr order)
  · intro order
    rcases Int.lt_or_eq_of_le order with less | same
    · exact le_of_lt (formatDay_lt first second less)
    · rw [same]

/-- A day before the year 0 comes before all others. -/
theorem formatDay_negative {epochDay other : ℤ} (negative : (civilDate epochDay).year < 0)
    (four : FourDigitYear other) : formatDay epochDay < formatDay other := by
  obtain ⟨otherYear, _⟩ := four.year_text
  have signed : ∃ rest, (zeroPadded 4 (civilDate epochDay).year).toList = '-' :: rest := by
    unfold zeroPadded
    rw [if_pos negative]
    exact ⟨_, String.toList_ofList⟩
  obtain ⟨rest, text⟩ := signed
  cases digits : Decimal.digits 4 (civilDate other).year.toNat with
  | nil =>
      have length := Decimal.length_digits 4 (civilDate other).year.toNat
      rw [digits] at length
      cases length
  | cons c later =>
      have digit : c.isDigit = true :=
        Decimal.isDigit_of_mem_digits (digits ▸ List.mem_cons_self)
      rw [String.lt_iff, formatDay_toList, formatDay_toList, text, otherYear, digits]
      exact List.cons_lt_cons_iff.mpr (Or.inl (dash_lt_digit digit))

/-- The text of a year of more digits. -/
theorem year_text_long {epochDay : ℤ} (long : 9999 < (civilDate epochDay).year) :
    ∃ first rest, first.isDigit = true ∧ (zeroPadded 4 (civilDate epochDay).year).toList =
      Decimal.digits 4 (Decimal.leading 4 (civilDate epochDay).year.toNat) ++ first :: rest := by
  have least : 10 ^ (3 + 1) ≤ (civilDate epochDay).year.toNat := by
    norm_num
    omega
  obtain ⟨first, rest, digit, digits⟩ := Decimal.toDigits_leading least
  refine ⟨first, rest, digit, ?_⟩
  have absolute : (civilDate epochDay).year.natAbs = (civilDate epochDay).year.toNat := by omega
  have enough : 4 ≤ (Nat.toDigits 10 (civilDate epochDay).year.toNat).length := by
    rw [digits, List.length_append, Decimal.length_digits]
    omega
  unfold zeroPadded
  rw [if_neg (by omega), absolute, String.toList_ofList, List.leftpad]
  have unfolded : (toString (civilDate epochDay).year.toNat).toList =
      Nat.toDigits 10 (civilDate epochDay).year.toNat := by simp
  rw [unfolded, Nat.sub_eq_zero_of_le enough, List.replicate_zero, List.nil_append, digits]

/-- A day after the year 9999 is compared by the first four digits of its year. -/
theorem formatDay_long {epochDay other : ℤ} (long : 9999 < (civilDate epochDay).year)
    (four : FourDigitYear other) :
    (formatDay other < formatDay epochDay ↔
        (civilDate other).year ≤ Decimal.leading 4 (civilDate epochDay).year.toNat) ∧
      (formatDay epochDay < formatDay other ↔
        (Decimal.leading 4 (civilDate epochDay).year.toNat : ℤ) < (civilDate other).year) := by
  obtain ⟨otherYear, otherFits⟩ := four.year_text
  obtain ⟨first, rest, digit, text⟩ := year_text_long long
  have leadingFits := Decimal.leading_lt 4 (civilDate epochDay).year.toNat
  have dash := dash_lt_digit digit
  have nonneg := four.1
  rw [String.lt_iff, String.lt_iff, formatDay_toList, formatDay_toList, otherYear, text,
    List.append_assoc, append_lt_append_iff (by simp), append_lt_append_iff (by simp),
    List.cons_append, List.cons_lt_cons_iff, List.cons_lt_cons_iff,
    Decimal.digits_lt_iff otherFits leadingFits, Decimal.digits_lt_iff leadingFits otherFits,
    Decimal.digits_eq_iff otherFits leadingFits, Decimal.digits_eq_iff leadingFits otherFits]
  constructor
  · constructor
    · intro less
      omega
    · intro order
      rcases Int.lt_or_eq_of_le order with less | same
      · exact Or.inl (by omega)
      · exact Or.inr ⟨by omega, Or.inl dash⟩
  · constructor
    · intro less
      rcases less with less | ⟨_, less | ⟨same, _⟩⟩
      · omega
      · exact absurd less (lt_asymm dash)
      · rw [same] at dash
        exact absurd dash (lt_irrefl _)
    · intro less
      exact Or.inl (by omega)

end SpellServer
