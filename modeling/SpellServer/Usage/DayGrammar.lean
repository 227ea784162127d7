import SpellServer.Usage.DayTexts

/-!
# The texts that are accepted as days

`parse_day` reads its fields as integers, so that a field may spend a byte on a
sign.  All other texts that are accepted are dates of four, two and two digits.
-/

namespace SpellServer

open Library Gregorian

/-- Four, two and two digits behind `-`, which are a date of the calendar. -/
def DateText (s : String) : Prop :=
  ∃ (year month day : List Char) (date : Date),
    s.toList = year ++ '-' :: (month ++ '-' :: day) ∧
      year.length = 4 ∧ month.length = 2 ∧ day.length = 2 ∧
      (year ++ month ++ day).all Char.isDigit = true ∧
      date.year = Decimal.value year ∧ date.month = Decimal.value month ∧
      date.day = Decimal.value day

def NumberText (text : List Char) (value : ℤ) : Prop :=
  PlainNumber text value ∨ SignedNumber text value

/-- Fields of four, two and two bytes, one of them with a sign, whose numbers are a
date of the calendar. -/
def SignedDate (s : String) : Prop :=
  ∃ (year month day : List Char) (date : Date), DateFields s.toList year month day ∧
    NumberText year date.year ∧ NumberText month date.month ∧ NumberText day date.day ∧
    (SignedNumber year date.year ∨ SignedNumber month date.month ∨ SignedNumber day date.day)

theorem DateFields.unique {text year month day otherYear otherMonth otherDay : List Char}
    (fields : DateFields text year month day)
    (others : DateFields text otherYear otherMonth otherDay) :
    year = otherYear ∧ month = otherMonth ∧ day = otherDay := by
  obtain ⟨yearSlice, monthSlice, daySlice⟩ := fields.slices
  obtain ⟨otherYearSlice, otherMonthSlice, otherDaySlice⟩ := others.slices
  rw [yearSlice] at otherYearSlice
  rw [monthSlice] at otherMonthSlice
  rw [daySlice] at otherDaySlice
  exact ⟨Option.some_inj.mp otherYearSlice, Option.some_inj.mp otherMonthSlice,
    Option.some_inj.mp otherDaySlice⟩

/-- The fields of a date text, as the parser sees them. -/
theorem dateText_iff {s : String} : DateText s ↔ ∃ (year month day : List Char) (date : Date),
    DateFields s.toList year month day ∧ PlainNumber year date.year ∧
      PlainNumber month date.month ∧ PlainNumber day date.day := by
  have nonempty : ∀ {text : List Char} {length : ℕ}, text.length = length + 1 → text ≠ [] := by
    intro text length some_length empty
    rw [empty] at some_length
    cases some_length
  constructor
  · intro dated
    obtain ⟨year, month, day, date, text, yearLength, monthLength, dayLength, all, numbers⟩ := dated
    rw [List.all_append, List.all_append, Bool.and_eq_true, Bool.and_eq_true] at all
    obtain ⟨⟨years, months⟩, days⟩ := all
    obtain ⟨yearNumber, monthNumber, dayNumber⟩ := numbers
    refine ⟨year, month, day, date, ⟨text, ?_, ?_, ?_⟩, ⟨nonempty yearLength, years, yearNumber⟩,
      ⟨nonempty monthLength, months, monthNumber⟩, ⟨nonempty dayLength, days, dayNumber⟩⟩
    · rw [byteLength_of_digits years, yearLength]
    · rw [byteLength_of_digits months, monthLength]
    · rw [byteLength_of_digits days, dayLength]
  · intro plain
    obtain ⟨year, month, day, date, ⟨text, yearLength, monthLength, dayLength⟩,
      ⟨_, years, yearNumber⟩, ⟨_, months, monthNumber⟩, ⟨_, days, dayNumber⟩⟩ := plain
    rw [byteLength_of_digits years] at yearLength
    rw [byteLength_of_digits months] at monthLength
    rw [byteLength_of_digits days] at dayLength
    refine ⟨year, month, day, date, text, yearLength, monthLength, dayLength, ?_, yearNumber,
      monthNumber, dayNumber⟩
    rw [List.all_append, List.all_append, years, months, days]
    rfl

theorem DateText.not_signed {s : String} (dated : DateText s) : ¬SignedDate s := by
  intro signed
  obtain ⟨year, month, day, date, fields, yearPlain, monthPlain, dayPlain⟩ := dateText_iff.mp dated
  obtain ⟨_, _, _, other, others, _, _, _, signs⟩ := signed
  obtain ⟨rfl, rfl, rfl⟩ := fields.unique others
  rcases signs with yearSigned | monthSigned | daySigned
  · exact yearPlain.not_signed yearSigned
  · exact monthPlain.not_signed monthSigned
  · exact dayPlain.not_signed daySigned

/-- Exactly the date texts and their variants with signs are accepted. -/
theorem parseDay_isSome_iff (s : String) :
    (parseDay s).isSome = true ↔ DateText s ∨ SignedDate s := by
  constructor
  · intro accepted
    obtain ⟨epochDay, parsed⟩ := Option.isSome_iff_exists.mp accepted
    by_cases fit : ∃ year month day, DateFields s.toList year month day
    · obtain ⟨yearText, monthText, dayText, fields⟩ := fit
      rw [parseDay_of_fields fields] at parsed
      obtain ⟨year, month, day, yearParsed, monthParsed, dayParsed, real, _⟩ :=
        parseFields_eq_some.mp parsed
      have yearNumber := parseInt_eq_some.mp yearParsed
      have monthNumber := parseInt_eq_some.mp monthParsed
      have dayNumber := parseInt_eq_some.mp dayParsed
      by_cases signs : SignedNumber yearText year ∨ SignedNumber monthText month ∨
          SignedNumber dayText day
      · exact Or.inr ⟨_, _, _, real.date, fields, yearNumber, monthNumber, dayNumber, signs⟩
      · obtain ⟨noYear, noMonth, noDay⟩ := not_or.mp signs |>.imp_right not_or.mp
        exact Or.inl (dateText_iff.mpr ⟨_, _, _, real.date, fields, yearNumber.resolve_right noYear,
          monthNumber.resolve_right noMonth, dayNumber.resolve_right noDay⟩)
    · rw [parseDay_eq_none fit] at parsed
      cases parsed
  · intro numbers
    have parts : ∃ (year month day : List Char) (date : Date),
        DateFields s.toList year month day ∧ NumberText year date.year ∧
          NumberText month date.month ∧ NumberText day date.day := by
      rcases numbers with dated | signed
      · obtain ⟨year, month, day, date, fields, yearPlain, monthPlain, dayPlain⟩ :=
          dateText_iff.mp dated
        exact ⟨year, month, day, date, fields, Or.inl yearPlain, Or.inl monthPlain, Or.inl dayPlain⟩
      · obtain ⟨year, month, day, date, fields, yearNumber, monthNumber, dayNumber, _⟩ := signed
        exact ⟨year, month, day, date, fields, yearNumber, monthNumber, dayNumber⟩
    obtain ⟨year, month, day, date, fields, yearNumber, monthNumber, dayNumber⟩ := parts
    rw [parseDay_of_fields fields, Option.isSome_iff_exists]
    exact ⟨_, parseFields_eq_some.mpr ⟨_, _, _, parseInt_eq_some.mpr yearNumber,
      parseInt_eq_some.mpr monthNumber, parseInt_eq_some.mpr dayNumber, realDate_of_date date, rfl⟩⟩

theorem digits_of_plain {text : List Char} {number : ℤ} (plain : PlainNumber text number) :
    Decimal.digits text.length number.toNat = text := by
  obtain ⟨_, all, rfl⟩ := plain
  rw [Int.toNat_natCast]
  exact (Decimal.digits_value all).1

/-- The day of a date text is written as that text. -/
theorem formatDay_of_dateText {s : String} {epochDay : ℤ} (dated : DateText s)
    (parsed : parseDay s = some epochDay) : formatDay epochDay = s := by
  obtain ⟨yearText, monthText, dayText, date, fields, yearPlain, monthPlain, dayPlain⟩ :=
    dateText_iff.mp dated
  rw [parseDay_of_fields fields] at parsed
  obtain ⟨year, month, day, yearParsed, monthParsed, dayParsed, real, rfl⟩ :=
    parseFields_eq_some.mp parsed
  rw [parseInt_eq_some.mpr (Or.inl yearPlain)] at yearParsed
  rw [parseInt_eq_some.mpr (Or.inl monthPlain)] at monthParsed
  rw [parseInt_eq_some.mpr (Or.inl dayPlain)] at dayParsed
  cases yearParsed
  cases monthParsed
  cases dayParsed
  obtain ⟨text, yearLength, monthLength, dayLength⟩ := fields
  rw [byteLength_of_digits yearPlain.2.1] at yearLength
  rw [byteLength_of_digits monthPlain.2.1] at monthLength
  rw [byteLength_of_digits dayPlain.2.1] at dayLength
  have same : civilDate (daysFromCivil date.year date.month date.day) = date :=
    civilDate_daysFromCivil date
  have bounds := yearPlain.lt
  rw [yearLength] at bounds
  have four : FourDigitYear (daysFromCivil date.year date.month date.day) := by
    unfold FourDigitYear
    rw [same]
    omega
  have years := digits_of_plain yearPlain
  have months := digits_of_plain monthPlain
  have days := digits_of_plain dayPlain
  rw [yearLength] at years
  rw [monthLength] at months
  rw [dayLength] at days
  apply String.toList_injective
  rw [four.fields.1, same, years, months, days, text]

/-- What is expected of the parser at one text: its slices are on character
boundaries, and it accepts the date texts alone, as the days that they write. -/
def ParsesDates (s : String) : Prop :=
  (s.toUTF8.size = 10 → s.toUTF8.data[4]? = some '-'.toUInt8 →
    s.toUTF8.data[7]? = some '-'.toUInt8 →
    (slice s.toList 0 4).isSome = true ∧ (slice s.toList 5 7).isSome = true ∧
      (slice s.toList 8 10).isSome = true) ∧
  ((parseDay s).isSome = true ↔ DateText s) ∧
  ∀ epochDay, parseDay s = some epochDay → formatDay epochDay = s

theorem slices_on_boundaries {s : String} (size : s.toUTF8.size = 10)
    (first : s.toUTF8.data[4]? = some '-'.toUInt8)
    (second : s.toUTF8.data[7]? = some '-'.toUInt8) :
    (slice s.toList 0 4).isSome = true ∧ (slice s.toList 5 7).isSome = true ∧
      (slice s.toList 8 10).isSome = true := by
  rw [size_toUTF8] at size
  rw [getElem?_toUTF8] at first second
  obtain ⟨year, month, day, fields⟩ := exists_dateFields size first second
  obtain ⟨yearSlice, monthSlice, daySlice⟩ := fields.slices
  rw [yearSlice, monthSlice, daySlice]
  exact ⟨rfl, rfl, rfl⟩

/-- The parser is exact but for the signs that it accepts. -/
theorem parses_dates_iff (s : String) : ParsesDates s ↔ ¬SignedDate s := by
  constructor
  · intro expected signed
    have accepted := (parseDay_isSome_iff s).mpr (Or.inr signed)
    exact (expected.2.1.mp accepted).not_signed signed
  · intro unsigned
    have exact_texts : (parseDay s).isSome = true ↔ DateText s := by
      rw [parseDay_isSome_iff]
      exact or_iff_left unsigned
    refine ⟨slices_on_boundaries, exact_texts, ?_⟩
    intro epochDay parsed
    exact formatDay_of_dateText (exact_texts.mp (Option.isSome_of_eq_some parsed)) parsed

theorem signed_new_year : ¬ParsesDates "2026-+1-+1" := by
  intro expected
  have parsed : parseDay "2026-+1-+1" = some 20454 := by decide +kernel
  have different : formatDay 20454 ≠ "2026-+1-+1" := by decide +kernel
  exact different (expected.2.2 20454 parsed)

end SpellServer
