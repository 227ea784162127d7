import SpellServer.Usage.DayTexts
import SpellServer.Usage.Queries
import SpellServer.Usage.Window

/-!
# The days of a window

The queries compare days as texts.  Up to the year 9999 that is the order of the
days; a bound of a longer year stands for the last day of the year that its first
four digits write.
-/

namespace SpellServer

open Library

/-! ## Bounds as days -/

/-- The years whose days the rollup holds. -/
def RollupDay (epochDay : ℤ) : Prop :=
  1970 ≤ (civilDate epochDay).year ∧ (civilDate epochDay).year ≤ 9999

/-- The end of the year 9999. -/
def lastRollupDay : ℤ := 2932896

theorem year_le_9999_iff (epochDay : ℤ) :
    (civilDate epochDay).year ≤ 9999 ↔ epochDay ≤ lastRollupDay := by
  have last : lastDayOf 9999 = lastRollupDay := by decide
  rw [civilDate_year_le_iff, last]

theorem year_le_1969_iff (epochDay : ℤ) : (civilDate epochDay).year ≤ 1969 ↔ epochDay < 0 := by
  have last : lastDayOf 1969 = -1 := by decide
  rw [civilDate_year_le_iff, last]
  omega

theorem rollupDay_iff (epochDay : ℤ) :
    RollupDay epochDay ↔ 0 ≤ epochDay ∧ epochDay ≤ lastRollupDay := by
  have first := year_le_1969_iff epochDay
  unfold RollupDay
  rw [year_le_9999_iff]
  omega

/-- The last day whose text is no later than that of a bound. -/
def lastSelected (epochDay : ℤ) : ℤ :=
  if (civilDate epochDay).year ≤ 9999 then epochDay
  else lastDayOf (Decimal.leading 4 (civilDate epochDay).year.toNat)

/-- The first day whose text is no earlier than that of a bound. -/
def firstSelected (epochDay : ℤ) : ℤ :=
  if (civilDate epochDay).year ≤ 9999 then epochDay
  else lastDayOf (Decimal.leading 4 (civilDate epochDay).year.toNat) + 1

theorem lastSelected_le (epochDay : ℤ) : lastSelected epochDay ≤ lastRollupDay := by
  unfold lastSelected
  split
  · rename_i short
    exact (year_le_9999_iff epochDay).mp short
  · have leading := Decimal.leading_lt 4 (civilDate epochDay).year.toNat
    have within : (Decimal.leading 4 (civilDate epochDay).year.toNat : ℤ) ≤ 9999 := by omega
    exact lastDayOf_le within

theorem selected_of_le {epochDay : ℤ} (within : epochDay ≤ lastRollupDay) :
    firstSelected epochDay = epochDay ∧ lastSelected epochDay = epochDay := by
  have short := (year_le_9999_iff epochDay).mpr within
  unfold firstSelected lastSelected
  rw [if_pos short, if_pos short]
  exact ⟨rfl, rfl⟩

/-- The texts are compared as the days that the bounds stand for. -/
theorem formatDay_selected (bound : ℤ) {day : ℤ} (rollup : RollupDay day) :
    (formatDay bound ≤ formatDay day ↔ firstSelected bound ≤ day) ∧
      (formatDay day ≤ formatDay bound ↔ day ≤ lastSelected bound) := by
  have four : FourDigitYear day := ⟨le_trans (by decide) rollup.1, rollup.2⟩
  unfold firstSelected lastSelected
  by_cases short : (civilDate bound).year ≤ 9999
  · rw [if_pos short, if_pos short]
    by_cases negative : (civilDate bound).year < 0
    · have texts := formatDay_negative negative four
      have early : bound < 0 := by
        rw [← year_le_1969_iff]
        omega
      have least := ((rollupDay_iff day).mp rollup).1
      constructor
      · exact iff_of_true (le_of_lt texts) (by omega)
      · exact iff_of_false (not_le.mpr texts) (by omega)
    · have bounds : FourDigitYear bound := ⟨not_lt.mp negative, short⟩
      exact ⟨formatDay_le_iff bounds four, formatDay_le_iff four bounds⟩
  · obtain ⟨later, earlier⟩ := formatDay_long (not_le.mp short) four
    rw [if_neg short, if_neg short]
    constructor
    · rw [← not_lt, later, civilDate_year_le_iff]
      omega
    · rw [← not_lt, earlier, not_lt, civilDate_year_le_iff]

/-! ## Windows -/

/-- Of the rollup's days, the queries read those from `first` to `last`. -/
def Window.Selects (window : Window) (first last : ℤ) : Prop :=
  ∀ day, RollupDay day →
    (inWindow window.start window.finish (formatDay day) = true ↔ first ≤ day ∧ day ≤ last)

/-- The days named by a window's bounds are the intended ones as far as the rollup goes. -/
def SameDays (first last windowFirst windowLast : ℤ) : Prop :=
  (first ≤ lastRollupDay ∧ (last ≤ lastRollupDay ∨ lastSelected windowLast = lastRollupDay)) ∨
    (lastRollupDay < first ∧ lastSelected windowLast < max 0 (firstSelected windowFirst))

theorem selects_iff {first last windowFirst windowLast : ℤ} (dated : Bool)
    (sameFirst : first ≤ lastRollupDay → windowFirst = first)
    (sameLast : last ≤ lastRollupDay → windowLast = last) :
    ({ start := formatDay windowFirst, finish := formatDay windowLast, dated } : Window).Selects
      first last ↔ SameDays first last windowFirst windowLast := by
  have most := lastSelected_le windowLast
  have positive : 0 ≤ lastRollupDay := by decide
  have days : ({ start := formatDay windowFirst, finish := formatDay windowLast, dated } :
      Window).Selects first last ↔ ∀ day, 0 ≤ day ∧ day ≤ lastRollupDay →
        ((firstSelected windowFirst ≤ day ∧ day ≤ lastSelected windowLast) ↔
          first ≤ day ∧ day ≤ last) := by
    apply forall_congr'
    intro day
    rw [← rollupDay_iff]
    apply imp_congr_right
    intro rollup
    obtain ⟨lower, upper⟩ := formatDay_selected windowFirst rollup
    obtain ⟨_, upper⟩ := formatDay_selected windowLast rollup
    unfold inWindow
    rw [Bool.and_eq_true, decide_eq_true_iff, decide_eq_true_iff, lower, upper]
  rw [days]
  unfold SameDays
  rcases lt_or_ge lastRollupDay first with late | early
  · -- Nothing is to be selected.
    constructor
    · intro selects
      refine Or.inr ⟨late, ?_⟩
      by_contra some_day
      have least : 0 ≤ max 0 (firstSelected windowFirst) := le_max_left _ _
      have day := selects (max 0 (firstSelected windowFirst)) ⟨least, by omega⟩
      have inside := day.mp ⟨le_max_right _ _, not_lt.mp some_day⟩
      omega
    · intro same day bounds
      have none_selected : lastSelected windowLast < max 0 (firstSelected windowFirst) := by
        rcases same with ⟨early, _⟩ | ⟨_, none_selected⟩
        · omega
        · exact none_selected
      constructor <;> intro between <;> omega
  · have first_day : firstSelected windowFirst = first := by
      rw [sameFirst early]
      exact (selected_of_le early).1
    constructor
    · intro selects
      refine Or.inl ⟨early, ?_⟩
      by_contra beyond
      have inside := (selects lastRollupDay ⟨positive, le_refl _⟩).mpr ⟨early, by omega⟩
      omega
    · intro same day bounds
      rw [first_day]
      rcases same with ⟨_, short | reaches⟩ | ⟨late, _⟩
      · have last_day : lastSelected windowLast = last := by
          rw [sameLast short]
          exact (selected_of_le short).2
        rw [last_day]
      · by_cases short : last ≤ lastRollupDay
        · have last_day : lastSelected windowLast = last := by
            rw [sameLast short]
            exact (selected_of_le short).2
          rw [last_day]
        · rw [reaches]
          omega
      · omega

/-! ## Intended days -/

/-- The first and last day that a request asks for. -/
def intendedDays (now : ℕ) (query : UsageQuery) (period : Option (UInt64 × UInt64)) :
    Option (ℤ × ℤ) :=
  match query.start, query.finish with
  | some start, some finish => do some (← parseDay start, ← parseDay finish)
  | none, none =>
      match period with
      | some (startTs, endTs) =>
          some ((startTs.toNat : ℤ) / secondsPerDay, (endTs.toNat : ℤ) / secondsPerDay)
      | none => some (epochDay now - 29, epochDay now)
  | _, _ => none

/-- The day of a timestamp that is read as a signed number. -/
def signedDay (timestamp : UInt64) : ℤ := timestamp.toInt64.toInt.tdiv secondsPerDay

theorem signedDay_eq {timestamp : UInt64}
    (within : (timestamp.toNat : ℤ) / secondsPerDay ≤ lastRollupDay) :
    signedDay timestamp = (timestamp.toNat : ℤ) / secondsPerDay := by
  have small : timestamp.toNat < 2 ^ 63 := by
    unfold secondsPerDay lastRollupDay at within
    omega
  have signed : timestamp.toInt64.toInt = timestamp.toNat := by
    have bits : timestamp.toInt64.toInt = timestamp.toBitVec.toInt := rfl
    rw [bits, BitVec.toInt_eq_toNat_of_lt (by rw [UInt64.toNat_toBitVec]; omega),
      UInt64.toNat_toBitVec]
  unfold signedDay
  rw [signed, Int.tdiv_eq_ediv_of_nonneg (Int.natCast_nonneg _)]

/-- The days that a request without dates asks for are those its window names. -/
def UndatedDays (now : ℕ) (period : Option (UInt64 × UInt64)) : Prop :=
  match period with
  | some (startTs, endTs) =>
      SameDays ((startTs.toNat : ℤ) / secondsPerDay) ((endTs.toNat : ℤ) / secondsPerDay)
        (signedDay startTs) (signedDay endTs)
  | none => SameDays (epochDay now - 29) (epochDay now) (epochDay now - 29) (epochDay now)

/-- A window of two dates names the days it is asked for. -/
theorem resolveWindow_dated {now : ℕ} {query : UsageQuery} {period : Option (UInt64 × UInt64)}
    {start finish : String} (hasStart : query.start = some start)
    (hasFinish : query.finish = some finish) (window : Window) :
    resolveWindow now query period = .ok window ↔
      ∃ first last, parseDay start = some first ∧ parseDay finish = some last ∧
        0 ≤ last - first ∧ last - first < 90 ∧
        window = { start := formatDay first, finish := formatDay last, dated := true } := by
  unfold resolveWindow parseBound retentionDays
  rw [hasStart, hasFinish]
  dsimp only
  cases parsedFirst : parseDay start with
  | none => simp [bind, Except.bind]
  | some first =>
      cases parsedLast : parseDay finish with
      | none => simp [bind, Except.bind]
      | some last =>
          simp only [bind, Except.bind]
          split
          · simp
            omega
          · split
            · simp
              omega
            · simp only [Except.ok.injEq, Option.some.injEq]
              constructor
              · intro equal
                exact ⟨first, last, rfl, rfl, by omega, by omega, equal.symm⟩
              · intro named
                obtain ⟨_, _, rfl, rfl, _, _, equal⟩ := named
                exact equal.symm

theorem resolveWindow_single (now : ℕ) {query : UsageQuery} (period : Option (UInt64 × UInt64))
    (single : query.start.isSome ≠ query.finish.isSome) :
    resolveWindow now query period =
      .error (.invalidDateRange "start and end must be supplied together") := by
  unfold resolveWindow
  cases hasStart : query.start <;> cases hasFinish : query.finish
  · rw [hasStart, hasFinish] at single
    exact absurd rfl single
  · rfl
  · rfl
  · rw [hasStart, hasFinish] at single
    exact absurd rfl single

theorem resolveWindow_undated (now : ℕ) {query : UsageQuery} (period : Option (UInt64 × UInt64))
    (noStart : query.start = none) (noFinish : query.finish = none) :
    resolveWindow now query period = .ok (match period with
      | some (startTs, endTs) =>
          { start := formatDay (signedDay startTs), finish := formatDay (signedDay endTs),
            dated := false }
      | none =>
          { start := formatDay (epochDay now - 29), finish := formatDay (epochDay now),
            dated := false }) := by
  have first : epochDay now - defaultWindowDays + 1 = epochDay now - 29 := by
    unfold defaultWindowDays
    omega
  unfold resolveWindow
  rw [noStart, noFinish]
  cases period with
  | none =>
      dsimp only
      rw [first]
  | some bounds => rfl

theorem lastRollupDay_of_parseDay {text : String} {day : ℤ} (parsed : parseDay text = some day) :
    day ≤ lastRollupDay :=
  (year_le_9999_iff day).mp (parseDay_year_le parsed)

theorem dated_selects {now : ℕ} {query : UsageQuery} {period : Option (UInt64 × UInt64)}
    {window : Window} (dates : query.start ≠ none ∨ query.finish ≠ none)
    (resolved : resolveWindow now query period = .ok window) :
    ∃ days, intendedDays now query period = some days ∧ window.Selects days.1 days.2 := by
  by_cases single : query.start.isSome ≠ query.finish.isSome
  · rw [resolveWindow_single now period single] at resolved
    cases resolved
  · cases hasStart : query.start with
    | none =>
        rw [hasStart] at single dates
        cases hasFinish : query.finish with
        | none =>
            rw [hasFinish] at dates
            rcases dates with absent | absent <;> exact absurd rfl absent
        | some finish =>
            rw [hasFinish] at single
            exact absurd Bool.false_ne_true single
    | some start =>
        cases hasFinish : query.finish with
        | none =>
            rw [hasStart, hasFinish] at single
            exact absurd Bool.false_ne_true.symm single
        | some finish =>
            obtain ⟨first, last, parsedFirst, parsedLast, _, _, named⟩ :=
              (resolveWindow_dated hasStart hasFinish window).mp resolved
            have intended : intendedDays now query period = some (first, last) := by
              unfold intendedDays
              rw [hasStart, hasFinish]
              dsimp only
              rw [parsedFirst, parsedLast]
              rfl
            refine ⟨_, intended, ?_⟩
            rw [named, selects_iff true (fun _ => rfl) (fun _ => rfl)]
            exact Or.inl ⟨lastRollupDay_of_parseDay parsedFirst,
              Or.inl (lastRollupDay_of_parseDay parsedLast)⟩

theorem undated_selects_iff (now : ℕ) {query : UsageQuery} (period : Option (UInt64 × UInt64))
    (noStart : query.start = none) (noFinish : query.finish = none) :
    (∀ window, resolveWindow now query period = .ok window →
      ∃ days, intendedDays now query period = some days ∧ window.Selects days.1 days.2) ↔
        UndatedDays now period := by
  rw [resolveWindow_undated now period noStart noFinish]
  unfold intendedDays
  rw [noStart, noFinish]
  cases period with
  | none =>
      simp only [Except.ok.injEq, forall_eq', Option.some.injEq, exists_eq_left']
      exact selects_iff false (fun _ => rfl) (fun _ => rfl)
  | some bounds =>
      simp only [Except.ok.injEq, forall_eq', Option.some.injEq, exists_eq_left']
      exact selects_iff false signedDay_eq signedDay_eq

/-- A request with dates reads the days it names, within ninety days, and one with a single
date fails.  A request without dates reads what it should exactly when the texts of its
bounds stand for its days. -/
theorem window_selects_iff (now : ℕ) (query : UsageQuery) (period : Option (UInt64 × UInt64)) :
    ((∀ window, resolveWindow now query period = .ok window →
        ∃ days, intendedDays now query period = some days ∧ window.Selects days.1 days.2) ↔
      query.start ≠ none ∨ query.finish ≠ none ∨ UndatedDays now period) ∧
    (∀ start finish first last, query.start = some start → query.finish = some finish →
      parseDay start = some first → parseDay finish = some last →
        ((∃ window, resolveWindow now query period = .ok window) ↔
          0 ≤ last - first ∧ last - first < 90)) ∧
    (query.start.isSome ≠ query.finish.isSome →
      ∃ error, resolveWindow now query period = .error error) := by
  refine ⟨?_, ?_, ?_⟩
  · by_cases dates : query.start ≠ none ∨ query.finish ≠ none
    · refine iff_of_true ?_ (or_assoc.mp (Or.inl dates))
      intro window resolved
      exact dated_selects dates resolved
    · rw [not_or, not_not, not_not] at dates
      rw [undated_selects_iff now period dates.1 dates.2, dates.1, dates.2]
      simp
  · intro start finish first last hasStart hasFinish parsedFirst parsedLast
    constructor
    · intro succeeded
      obtain ⟨window, resolved⟩ := succeeded
      obtain ⟨_, _, sameFirst, sameLast, least, most, _⟩ :=
        (resolveWindow_dated hasStart hasFinish window).mp resolved
      rw [parsedFirst] at sameFirst
      rw [parsedLast] at sameLast
      cases sameFirst
      cases sameLast
      exact ⟨least, most⟩
    · intro within
      exact ⟨_, (resolveWindow_dated hasStart hasFinish _).mpr
        ⟨first, last, parsedFirst, parsedLast, within.1, within.2, rfl⟩⟩
  · intro single
    exact ⟨_, resolveWindow_single now period single⟩

/-- A billing period that ends on the first day after the year 9999 reads nothing. -/
theorem year_10000_sorts_first :
    ¬∀ window, resolveWindow 1750000000 { start := none, finish := none }
        (some (1735689600, 253402300800)) = .ok window →
      ∃ days, intendedDays 1750000000 { start := none, finish := none }
          (some (1735689600, 253402300800)) = some days ∧ window.Selects days.1 days.2 := by
  intro claim
  obtain ⟨days, intended, selects⟩ := claim _ rfl
  cases intended
  have rollup : RollupDay 20254 := by
    unfold RollupDay
    decide +kernel
  have listed := (selects 20254 rollup).mpr (by decide)
  have sorted : inWindow (formatDay (signedDay 1735689600)) (formatDay (signedDay 253402300800))
      (formatDay 20254) = false := by decide +kernel
  exact Bool.false_ne_true (sorted.symm.trans listed)

end SpellServer
