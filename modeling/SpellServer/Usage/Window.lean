import SpellServer.Http.Message
import SpellServer.Usage.Days

/-!
# Usage windows

The inclusive range of days a `/usage/*` request reads: the one its query names,
the tenant's billing period, or the last thirty days.
-/

namespace SpellServer

def retentionDays : ℤ := 90

def defaultWindowDays : ℤ := 30

structure UsageQuery where
  start : Option String
  finish : Option String
deriving DecidableEq, Repr

/-- `dated` records whether the caller supplied the window. -/
structure Window where
  start : String
  finish : String
  dated : Bool
deriving DecidableEq, Repr

/-- `parse_day`, with the error that names the bound. -/
def parseBound (name date : String) : Except AppError ℤ :=
  match parseDay date with
  | some day => .ok day
  | none => .error (.invalidDateRange s!"invalid {name} date: {date}")

/-- `period` is the billing period of the calling tenant, in seconds. -/
def resolveWindow (now : ℕ) (query : UsageQuery) (period : Option (UInt64 × UInt64)) :
    Except AppError Window :=
  let today := epochDay now
  match query.start, query.finish with
  | some start, some finish => do
      let startDay ← parseBound "start" start
      let endDay ← parseBound "end" finish
      if endDay < startDay then .error (.invalidDateRange "start must not be after end")
      else if retentionDays ≤ endDay - startDay then
        .error (.invalidDateRange
          s!"range must span fewer than {retentionDays} days of retained data")
      else .ok { start := formatDay startDay, finish := formatDay endDay, dated := true }
  | some _, none | none, some _ =>
      .error (.invalidDateRange "start and end must be supplied together")
  | none, none =>
      let (startDay, endDay) :=
        match period with
        | some (startTs, endTs) =>
            (startTs.toInt64.toInt.tdiv secondsPerDay, endTs.toInt64.toInt.tdiv secondsPerDay)
        | none => (today - defaultWindowDays + 1, today)
      .ok { start := formatDay startDay, finish := formatDay endDay, dated := false }

end SpellServer
