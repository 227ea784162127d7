import SpellServer.Library.Utf8
import SpellServer.Usage.Civil

/-!
# Days, dates and texts

`format_day` and `parse_day` go through the same calendar in both directions.
-/

namespace SpellServer

open Library Gregorian

/-! ## From a date to its day -/

/-- The arithmetic of `parse_day`. -/
def daysFromCivil (year month day : ℤ) : ℤ :=
  let y := year - if month ≤ 2 then 1 else 0
  let era := (if 0 ≤ y then y else y - 399).tdiv 400
  let yoe := y - era * 400
  let mp := if 2 < month then month - 3 else month + 9
  let doy := (153 * mp + 2).tdiv 5 + day - 1
  let doe := yoe * 365 + yoe.tdiv 4 - yoe.tdiv 100 + doy
  era * 146097 + doe - 719468

theorem isLeap_iff (year : ℤ) : isLeap year = true ↔ LeapYear year := by
  have remainder : ∀ divisor, year.tmod divisor = 0 ↔ year % divisor = 0 := by
    intro divisor
    rw [← Int.dvd_iff_tmod_eq_zero, ← Int.dvd_iff_emod_eq_zero]
  unfold isLeap LeapYear
  simp only [Bool.or_eq_true, Bool.and_eq_true, decide_eq_true_eq, ne_eq, remainder]

theorem daysInMonth_eq (year : ℤ) {month : ℤ} (least : 1 ≤ month) (most : month ≤ 12) :
    daysInMonth year month = monthLength year month := by
  unfold daysInMonth monthLength
  simp only [isLeap_iff]
  interval_cases month <;> rfl

theorem daysFromCivil_eq (year day : ℤ) {month : ℤ} (least : 1 ≤ month) (most : month ≤ 12) :
    daysFromCivil year month day =
      monthStart (monthIndex year month) + day - 1 - epochOffset := by
  have eras := @tdiv_era 400 (by decide)
  norm_num at eras
  unfold daysFromCivil epochOffset
  simp only [eras]
  generalize marchEq : (year - if month ≤ 2 then 1 else 0) = march
  generalize indexEq : (if 2 < month then month - 3 else month + 9) = index
  have indexBounds : 0 ≤ index ∧ index ≤ 11 := by
    split at indexEq <;> omega
  have months : monthIndex year month = 12 * march + index := by
    unfold monthIndex
    split at indexEq <;> split at marchEq <;> omega
  have years : (12 * march + index) / 12 = march := by omega
  have rest : (12 * march + index) % 12 = index := by omega
  have yoeNonneg : 0 ≤ march - march / 400 * 400 := by omega
  rw [Int.tdiv_eq_ediv_of_nonneg yoeNonneg, Int.tdiv_eq_ediv_of_nonneg yoeNonneg,
    Int.tdiv_eq_ediv_of_nonneg (by omega), months, monthStart, years, rest, yearStart]
  omega

theorem daysFromCivil_number (date : Date) :
    daysFromCivil date.year date.month date.day = date.number - epochOffset := by
  rw [daysFromCivil_eq _ _ date.month_bounds.1 date.month_bounds.2]
  rfl

theorem civilDate_daysFromCivil (date : Date) :
    civilDate (daysFromCivil date.year date.month date.day) = date := by
  apply Date.number_injective
  rw [civilDate_number, daysFromCivil_number]
  omega

theorem daysFromCivil_civilDate (epochDay : ℤ) :
    daysFromCivil (civilDate epochDay).year (civilDate epochDay).month (civilDate epochDay).day =
      epochDay := by
  rw [daysFromCivil_number, civilDate_number]
  omega

theorem civilDate_succ (epochDay : ℤ) : civilDate (epochDay + 1) = (civilDate epochDay).succ := by
  apply Date.number_injective
  rw [Date.succ_number, civilDate_number, civilDate_number]
  omega

/-! ## Parsed numbers -/

/-- A number of digits alone. -/
def PlainNumber (text : List Char) (value : ℤ) : Prop :=
  text ≠ [] ∧ text.all Char.isDigit = true ∧ value = Decimal.value text

/-- Digits behind a sign. -/
def SignedNumber (text : List Char) (value : ℤ) : Prop :=
  ∃ digits number, PlainNumber digits number ∧
    ((text = '+' :: digits ∧ value = number) ∨ (text = '-' :: digits ∧ value = -number))

theorem PlainNumber.not_signed {text : List Char} {value other : ℤ} (plain : PlainNumber text value)
    (signed : SignedNumber text other) : False := by
  obtain ⟨_, all, _⟩ := plain
  obtain ⟨digits, number, _, ⟨rfl, _⟩ | ⟨rfl, _⟩⟩ := signed
  · cases all
  · cases all

/-- Parsing accepts a sign. -/
theorem parseInt_eq_some {text : List Char} {value : ℤ} :
    parseInt text = some value ↔ PlainNumber text value ∨ SignedNumber text value := by
  have digital : ∀ {digits : List Char} {number : ℤ}, (if digits ≠ [] ∧
      digits.all Char.isDigit = true then
        some ((digits.foldl (fun value c => 10 * value + (c.toNat - '0'.toNat)) 0 : ℕ) : ℤ)
      else none) = some number ↔ PlainNumber digits number := by
    intro digits number
    unfold PlainNumber
    constructor
    · intro parsed
      split at parsed
      · rename_i digital
        cases parsed
        exact ⟨digital.1, digital.2, rfl⟩
      · cases parsed
    · intro plain
      obtain ⟨nonempty, all, rfl⟩ := plain
      rw [if_pos ⟨nonempty, all⟩]
      rfl
  unfold parseInt
  dsimp only
  split
  · rename_i digits
    rw [Option.map_eq_some_iff]
    constructor
    · intro parsed
      obtain ⟨number, parsed, equal⟩ := parsed
      exact Or.inr ⟨digits, number, digital.mp parsed, Or.inr ⟨rfl, equal.symm⟩⟩
    · intro number
      rcases number with plain | ⟨_, number, plain, ⟨text, _⟩ | ⟨text, equal⟩⟩
      · cases plain.2.1
      · cases text
      · cases text
        exact ⟨number, digital.mpr plain, equal.symm⟩
  · rename_i digits
    rw [digital]
    constructor
    · intro plain
      exact Or.inr ⟨digits, value, plain, Or.inl ⟨rfl, rfl⟩⟩
    · intro number
      rcases number with plain | ⟨_, number, plain, ⟨text, equal⟩ | ⟨text, _⟩⟩
      · cases plain.2.1
      · cases text
        cases equal
        exact plain
      · cases text
  · rename_i not_minus not_plus
    rw [digital]
    constructor
    · intro plain
      exact Or.inl plain
    · intro number
      rcases number with plain | ⟨digits, number, _, ⟨text, _⟩ | ⟨text, _⟩⟩
      · exact plain
      · exact absurd text (not_plus digits)
      · exact absurd text (not_minus digits)

theorem PlainNumber.lt {text : List Char} {value : ℤ} (plain : PlainNumber text value) :
    0 ≤ value ∧ value < 10 ^ text.length := by
  obtain ⟨_, all, rfl⟩ := plain
  have less := (Decimal.digits_value all).2
  exact ⟨Int.natCast_nonneg _, by exact_mod_cast less⟩

/-- A parsed number has no more digits than its text has characters. -/
theorem parseInt_lt {text : List Char} {value : ℤ} (parsed : parseInt text = some value) :
    value < 10 ^ text.length := by
  rcases parseInt_eq_some.mp parsed with plain | ⟨digits, number, plain, signed⟩
  · exact plain.lt.2
  · have bounds := plain.lt
    have longer : (10 : ℤ) ^ digits.length ≤ 10 ^ (digits.length + 1) :=
      pow_le_pow_right₀ (by norm_num) (Nat.le_succ _)
    rcases signed with ⟨rfl, rfl⟩ | ⟨rfl, rfl⟩
    · rw [List.length_cons]
      omega
    · rw [List.length_cons]
      omega

/-! ## The fields of a text -/

/-- Three fields of four, two and two bytes behind `-`. -/
def DateFields (text year month day : List Char) : Prop :=
  text = year ++ '-' :: (month ++ '-' :: day) ∧
    byteLength year = 4 ∧ byteLength month = 2 ∧ byteLength day = 2

/-- A month and a day that the calendar has. -/
def RealDate (year month day : ℤ) : Prop :=
  1 ≤ month ∧ month ≤ 12 ∧ 1 ≤ day ∧ day ≤ daysInMonth year month

theorem DateFields.bytes {text year month day : List Char}
    (fields : DateFields text year month day) :
    byteLength text = 10 ∧ (encode text)[4]? = some '-'.toUInt8 ∧
      (encode text)[7]? = some '-'.toUInt8 := by
  obtain ⟨rfl, yearLength, monthLength, dayLength⟩ := fields
  have dash : '-'.utf8Size = 1 := rfl
  have dashAscii : '-'.toNat < 128 := by decide
  have first := getElem?_encode year (month ++ '-' :: day) dashAscii
  have second := getElem?_encode (year ++ '-' :: month) day dashAscii
  rw [List.append_assoc, List.cons_append, byteLength_append, byteLength_cons, yearLength,
    monthLength, dash] at second
  rw [yearLength] at first
  refine ⟨?_, first, second⟩
  rw [byteLength_append, byteLength_cons, byteLength_append, byteLength_cons, yearLength,
    monthLength, dayLength, dash]

theorem exists_dateFields {text : List Char} (size : byteLength text = 10)
    (first : (encode text)[4]? = some '-'.toUInt8)
    (second : (encode text)[7]? = some '-'.toUInt8) :
    ∃ year month day, DateFields text year month day := by
  have dash : '-'.utf8Size = 1 := rfl
  have named : ∀ {c : Char}, c.toNat = '-'.toUInt8.toNat → c = '-' := by
    intro c code
    exact Char.toNat_inj.mp code
  obtain ⟨year, c, rest, rfl, yearLength, code⟩ := exists_char_of_byte first (by decide)
  cases named code
  rw [encode_append, encode_cons, utf8EncodeChar_eq_of_ascii (by decide),
    List.getElem?_append_right (by rw [length_encode, yearLength]; decide), length_encode,
    yearLength] at second
  have later : (encode rest)[2]? = some '-'.toUInt8 := second
  obtain ⟨month, c, day, rfl, monthLength, code⟩ := exists_char_of_byte later (by decide)
  cases named code
  rw [byteLength_append, byteLength_cons, byteLength_append, byteLength_cons, dash] at size
  exact ⟨year, month, day, rfl, yearLength, monthLength, by omega⟩

theorem DateFields.slices {text year month day : List Char}
    (fields : DateFields text year month day) :
    slice text 0 4 = some year ∧ slice text 5 7 = some month ∧ slice text 8 10 = some day := by
  obtain ⟨rfl, yearLength, monthLength, dayLength⟩ := fields
  have dash : '-'.utf8Size = 1 := rfl
  have first := @slice_eq _ [] year ('-' :: (month ++ '-' :: day)) rfl
  have second := @slice_eq (year ++ '-' :: (month ++ '-' :: day)) (year ++ ['-']) month
    ('-' :: day) (by simp)
  have third := @slice_eq (year ++ '-' :: (month ++ '-' :: day)) (year ++ '-' :: (month ++ ['-']))
    day [] (by simp)
  simp only [byteLength_append, byteLength_cons, byteLength_nil, yearLength, monthLength,
    dayLength, dash] at first second third
  exact ⟨first, second, third⟩

/-- `parse_day` of the three fields. -/
def parseFields (yearText monthText dayText : List Char) : Option ℤ := do
  let year ← parseInt yearText
  let month ← parseInt monthText
  let day ← parseInt dayText
  if ¬(1 ≤ month ∧ month ≤ 12) ∨ ¬(1 ≤ day ∧ day ≤ 31) then none
  else if daysInMonth year month < day then none
  else some (daysFromCivil year month day)

theorem parseDay_of_fields {s : String} {year month day : List Char}
    (fields : DateFields s.toList year month day) : parseDay s = parseFields year month day := by
  obtain ⟨size, first, second⟩ := fields.bytes
  obtain ⟨yearSlice, monthSlice, daySlice⟩ := fields.slices
  unfold parseDay
  dsimp only
  rw [size_toUTF8, getElem?_toUTF8, getElem?_toUTF8, size, first, second, yearSlice, monthSlice,
    daySlice]
  rfl

theorem parseDay_eq_none {s : String}
    (none_fit : ¬∃ year month day, DateFields s.toList year month day) : parseDay s = none := by
  unfold parseDay
  dsimp only
  rw [size_toUTF8, getElem?_toUTF8, getElem?_toUTF8]
  apply if_pos
  by_contra fit
  push Not at fit
  exact none_fit (exists_dateFields fit.1 fit.2.1 fit.2.2)

theorem daysInMonth_le (year month : ℤ) : daysInMonth year month ≤ 31 := by
  unfold daysInMonth
  split_ifs <;> omega

/-- The fields parse to a date of the calendar. -/
theorem parseFields_eq_some {yearText monthText dayText : List Char} {epochDay : ℤ} :
    parseFields yearText monthText dayText = some epochDay ↔
      ∃ year month day, parseInt yearText = some year ∧ parseInt monthText = some month ∧
        parseInt dayText = some day ∧ RealDate year month day ∧
        epochDay = daysFromCivil year month day := by
  unfold parseFields
  constructor
  · intro parsed
    obtain ⟨year, yearParsed, parsed⟩ := Option.bind_eq_some_iff.mp parsed
    obtain ⟨month, monthParsed, parsed⟩ := Option.bind_eq_some_iff.mp parsed
    obtain ⟨day, dayParsed, parsed⟩ := Option.bind_eq_some_iff.mp parsed
    split at parsed
    · cases parsed
    · rename_i ranges
      split at parsed
      · cases parsed
      · rename_i short
        cases parsed
        refine ⟨year, month, day, yearParsed, monthParsed, dayParsed, ?_, rfl⟩
        unfold RealDate
        omega
  · intro parts
    obtain ⟨year, month, day, yearParsed, monthParsed, dayParsed, real, rfl⟩ := parts
    obtain ⟨monthLeast, monthMost, dayLeast, dayMost⟩ := real
    have short := daysInMonth_le year month
    rw [yearParsed, monthParsed, dayParsed]
    dsimp only [Option.bind_eq_bind, Option.bind_some]
    rw [if_neg (by omega), if_neg (by omega)]

/-- The date of three numbers. -/
def RealDate.date {year month day : ℤ} (real : RealDate year month day) : Date :=
  { year := year
    month := month
    day := day
    month_bounds := ⟨real.1, real.2.1⟩
    day_bounds := ⟨real.2.2.1, daysInMonth_eq year real.1 real.2.1 ▸ real.2.2.2⟩ }

theorem realDate_of_date (date : Date) : RealDate date.year date.month date.day := by
  obtain ⟨least, most⟩ := date.month_bounds
  refine ⟨least, most, date.day_bounds.1, ?_⟩
  rw [daysInMonth_eq _ least most]
  exact date.day_bounds.2

theorem RealDate.civilDate_eq {year month day : ℤ} (real : RealDate year month day) :
    civilDate (daysFromCivil year month day) = real.date := civilDate_daysFromCivil real.date

/-- A day that is parsed lies in a year of at most four digits. -/
theorem parseDay_year_le {s : String} {epochDay : ℤ} (parsed : parseDay s = some epochDay) :
    (civilDate epochDay).year ≤ 9999 := by
  by_cases fit : ∃ year month day, DateFields s.toList year month day
  · obtain ⟨yearText, monthText, dayText, fields⟩ := fit
    rw [parseDay_of_fields fields] at parsed
    obtain ⟨year, month, day, yearParsed, _, _, real, rfl⟩ := parseFields_eq_some.mp parsed
    have length := length_le_byteLength yearText
    rw [fields.2.1] at length
    have four : year < 10 ^ 4 :=
      lt_of_lt_of_le (parseInt_lt yearParsed) (pow_le_pow_right₀ (by norm_num) length)
    have same : (civilDate (daysFromCivil year month day)).year = year := by
      rw [real.civilDate_eq]
      rfl
    omega
  · rw [parseDay_eq_none fit] at parsed
    cases parsed

/-! ## Texts of dates -/

theorem plainNumber_digits {width number : ℕ} (fits : number < 10 ^ (width + 1)) :
    PlainNumber (Decimal.digits (width + 1) number) number := by
  have length := Decimal.length_digits (width + 1) number
  refine ⟨?_, ?_, by rw [Decimal.value_digits fits]⟩
  · intro empty
    rw [empty] at length
    cases length
  · rw [List.all_eq_true]
    intro c member
    exact Decimal.isDigit_of_mem_digits member

theorem byteLength_of_digits {text : List Char} (all : text.all Char.isDigit = true) :
    byteLength text = text.length := by
  induction text with
  | nil => rfl
  | cons c text induction =>
      rw [List.all_cons, Bool.and_eq_true] at all
      have bounds : 48 ≤ c.val ∧ c.val ≤ 57 := by simpa [Char.isDigit] using all.1
      have most : c.toNat ≤ 57 := bounds.2
      rw [byteLength_cons, induction all.2, utf8Size_of_ascii (by omega), List.length_cons,
        Nat.add_comm]

/-- The text of a day of a four-digit year. -/
theorem FourDigitYear.fields {epochDay : ℤ} (four : FourDigitYear epochDay) :
    DateFields (formatDay epochDay).toList (Decimal.digits 4 (civilDate epochDay).year.toNat)
      (Decimal.digits 2 (civilDate epochDay).month.toNat)
      (Decimal.digits 2 (civilDate epochDay).day.toNat) := by
  obtain ⟨yearText, yearFits⟩ := four.year_text
  obtain ⟨⟨monthText, monthFits⟩, dayText, dayFits⟩ := two_digits (civilDate epochDay)
  rw [DateFields, formatDay_toList, yearText, monthText, dayText,
    byteLength_of_digits (plainNumber_digits yearFits).2.1,
    byteLength_of_digits (plainNumber_digits monthFits).2.1,
    byteLength_of_digits (plainNumber_digits dayFits).2.1]
  simp

theorem parseDay_formatDay {epochDay : ℤ} (four : FourDigitYear epochDay) :
    parseDay (formatDay epochDay) = some epochDay := by
  obtain ⟨_, yearFits⟩ := four.year_text
  obtain ⟨⟨_, monthFits⟩, _, dayFits⟩ := two_digits (civilDate epochDay)
  have months := (civilDate epochDay).month_bounds
  have days := (civilDate epochDay).day_bounds
  have year : ((civilDate epochDay).year.toNat : ℤ) = (civilDate epochDay).year :=
    Int.toNat_of_nonneg four.1
  have month : ((civilDate epochDay).month.toNat : ℤ) = (civilDate epochDay).month :=
    Int.toNat_of_nonneg (by omega)
  have day : ((civilDate epochDay).day.toNat : ℤ) = (civilDate epochDay).day :=
    Int.toNat_of_nonneg (by omega)
  have yearParsed := parseInt_eq_some.mpr (Or.inl (plainNumber_digits yearFits))
  have monthParsed := parseInt_eq_some.mpr (Or.inl (plainNumber_digits monthFits))
  have dayParsed := parseInt_eq_some.mpr (Or.inl (plainNumber_digits dayFits))
  rw [year] at yearParsed
  rw [month] at monthParsed
  rw [day] at dayParsed
  rw [parseDay_of_fields four.fields, parseFields_eq_some]
  exact ⟨_, _, _, yearParsed, monthParsed, dayParsed, realDate_of_date _,
    (daysFromCivil_civilDate epochDay).symm⟩

theorem length_formatDay {epochDay : ℤ} (four : FourDigitYear epochDay) :
    (formatDay epochDay).length = 10 := by
  rw [← String.length_toList, four.fields.1]
  simp

/-- The day after, in the calendar. -/
def nextDate : ℤ × ℤ × ℤ → ℤ × ℤ × ℤ
  | (year, month, day) =>
      if day < daysInMonth year month then (year, month, day + 1)
      else if month < 12 then (year, month + 1, 1)
      else (year + 1, 1, 1)

theorem civilFields_succ (epochDay : ℤ) :
    civilFields (epochDay + 1) = nextDate (civilFields epochDay) := by
  have triple : ∀ day, civilFields day =
      ((civilDate day).year, (civilDate day).month, (civilDate day).day) := by
    intro day
    rfl
  obtain ⟨least, most⟩ := (civilDate epochDay).month_bounds
  rw [triple, triple, civilDate_succ, nextDate, daysInMonth_eq _ least most, Date.succ]
  split
  · rfl
  · split <;> rfl

theorem formatDay_lt_iff {one two : ℤ} (first : FourDigitYear one) (second : FourDigitYear two) :
    formatDay one < formatDay two ↔ one < two := by
  rw [← not_le, ← not_le, formatDay_le_iff second first]

/-- Days are the dates of the calendar, and their texts are parsed back. -/
theorem days_are_dates :
    (∀ epochDay, ∃ year month day, civilFields epochDay = (year, month, day) ∧
      formatDay epochDay =
        zeroPadded 4 year ++ "-" ++ zeroPadded 2 month ++ "-" ++ zeroPadded 2 day ∧
      RealDate year month day ∧ daysFromCivil year month day = epochDay ∧
      civilFields (epochDay + 1) = nextDate (year, month, day)) ∧
    (∀ year month day, RealDate year month day →
      civilFields (daysFromCivil year month day) = (year, month, day)) ∧
    (∀ earlier later, earlier < later ↔ (civilDate earlier).Before (civilDate later)) ∧
    (∀ epochDay, FourDigitYear epochDay → (formatDay epochDay).length = 10 ∧
      parseDay (formatDay epochDay) = some epochDay) ∧
    ∀ one two, FourDigitYear one → FourDigitYear two →
      (formatDay one < formatDay two ↔ one < two) := by
  refine ⟨?dates, ?days, ?order, ?texts, ?textOrder⟩
  case dates =>
    intro epochDay
    exact ⟨_, _, _, rfl, formatDay_eq epochDay, realDate_of_date (civilDate epochDay),
      daysFromCivil_civilDate epochDay, civilFields_succ epochDay⟩
  case days =>
    intro year month day real
    have same := congrArg (fun date : Date => (date.year, date.month, date.day)) real.civilDate_eq
    exact same
  case order =>
    intro earlier later
    constructor
    · exact civilDate_before
    · intro before
      rcases lt_trichotomy earlier later with less | rfl | greater
      · exact less
      · unfold Date.Before at before
        omega
      · have reversed := civilDate_before greater
        unfold Date.Before at before reversed
        omega
  case texts =>
    intro epochDay four
    exact ⟨length_formatDay four, parseDay_formatDay four⟩
  case textOrder =>
    intro one two first second
    exact formatDay_lt_iff first second

theorem days_are_dates_leap_day : civilFields (daysFromCivil 2024 2 29) = (2024, 2, 29) ∧
    parseDay (formatDay 19782) = some 19782 ∧
    (formatDay 19782 < formatDay 19783 ↔ (19782 : ℤ) < 19783) := by
  have leap : FourDigitYear 19782 := by unfold FourDigitYear; decide
  have march : FourDigitYear 19783 := by unfold FourDigitYear; decide
  have real : RealDate 2024 2 29 := by unfold RealDate; decide
  obtain ⟨_, dates, _, texts, order⟩ := days_are_dates
  exact ⟨dates 2024 2 29 real, (texts 19782 leap).2, order 19782 19783 leap march⟩

end SpellServer
