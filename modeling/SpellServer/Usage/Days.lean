import Mathlib.Data.Int.Notation
import SpellServer.Library.Text

/-!
# Days as text

The rollup names a day by its text `YYYY-MM-DD`.  Days count from the Unix
epoch; the conversions are those of the proleptic Gregorian calendar, with
division that rounds towards zero.
-/

namespace SpellServer

open Library

def secondsPerDay : ℤ := 86400

/-- `epoch_day_now`, at a number of seconds since the epoch. -/
def epochDay (seconds : ℕ) : ℤ := (seconds : ℤ).tdiv secondsPerDay

/-- `{:0width}`; a sign counts among the digits. -/
def zeroPadded (width : ℕ) (value : ℤ) : String :=
  let digits := (toString value.natAbs).toList
  if value < 0 then .ofList ('-' :: digits.leftpad (width - 1) '0')
  else .ofList (digits.leftpad width '0')

def formatDay (epochDay : ℤ) : String :=
  let z := epochDay + 719468
  let era := (if 0 ≤ z then z else z - 146096).tdiv 146097
  let doe := z - era * 146097
  let yoe := (doe - doe.tdiv 1460 + doe.tdiv 36524 - doe.tdiv 146096).tdiv 365
  let y := yoe + era * 400
  let doy := doe - (365 * yoe + yoe.tdiv 4 - yoe.tdiv 100)
  let mp := (5 * doy + 2).tdiv 153
  let d := doy - (153 * mp + 2).tdiv 5 + 1
  let m := if mp < 10 then mp + 3 else mp - 9
  let year := y + if m ≤ 2 then 1 else 0
  zeroPadded 4 year ++ "-" ++ zeroPadded 2 m ++ "-" ++ zeroPadded 2 d

def isLeap (year : ℤ) : Bool :=
  (year.tmod 4 = 0 && year.tmod 100 ≠ 0) || year.tmod 400 = 0

def daysInMonth (year month : ℤ) : ℤ :=
  if month ∈ [1, 3, 5, 7, 8, 10, 12] then 31
  else if month ∈ [4, 6, 9, 11] then 30
  else if month = 2 then if isLeap year then 29 else 28
  else 0

/-- `parse::<i64>` of a few characters: digits behind an optional sign. -/
def parseInt (text : List Char) : Option ℤ :=
  let digits := fun (rest : List Char) =>
    if rest ≠ [] ∧ rest.all Char.isDigit = true then
      some ((rest.foldl (fun value c => 10 * value + (c.toNat - '0'.toNat)) 0 : ℕ) : ℤ)
    else none
  match text with
  | '-' :: rest => (digits rest).map fun value => -value
  | '+' :: rest => digits rest
  | rest => digits rest

/-- Both separators are one byte long, so the slices are on character boundaries. -/
def parseDay (s : String) : Option ℤ :=
  let bytes := s.toUTF8
  if bytes.size ≠ 10 ∨ bytes.data[4]? ≠ some '-'.toUInt8 ∨ bytes.data[7]? ≠ some '-'.toUInt8 then
    none
  else do
    let year ← parseInt (← slice s.toList 0 4)
    let month ← parseInt (← slice s.toList 5 7)
    let day ← parseInt (← slice s.toList 8 10)
    if ¬(1 ≤ month ∧ month ≤ 12) ∨ ¬(1 ≤ day ∧ day ≤ 31) then none
    else if daysInMonth year month < day then none
    else
      let y := year - if month ≤ 2 then 1 else 0
      let era := (if 0 ≤ y then y else y - 399).tdiv 400
      let yoe := y - era * 400
      let mp := if 2 < month then month - 3 else month + 9
      let doy := (153 * mp + 2).tdiv 5 + day - 1
      let doe := yoe * 365 + yoe.tdiv 4 - yoe.tdiv 100 + doy
      some (era * 146097 + doe - 719468)

example : parseDay (formatDay 19782) = some 19782 := by decide +kernel

end SpellServer
