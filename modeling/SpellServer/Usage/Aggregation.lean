import SpellServer.Library.Grouping
import SpellServer.Usage.Rollup

/-!
# Aggregation of usage rows

The pure functions behind the `/usage/*` handlers.  Their hash maps come out in
the order `hash`; what is sorted afterwards keeps that order among equals.
-/

namespace SpellServer

open Library

/-- What `query_usage_daily` groups by. -/
structure DailyGroup where
  day : String
  language : String
  status : ℤ
  errorSlug : String
deriving DecidableEq, Repr

structure UsageDailyRow extends DailyGroup, DailyCounters
deriving DecidableEq, Repr

/-- What `query_usage_latency` groups by. -/
structure LatencyGroup where
  day : String
  bucketLeMs : ℤ
deriving DecidableEq, Repr

structure UsageLatencyRow extends LatencyGroup where
  requestCount : ℤ
deriving DecidableEq, Repr

structure DailyUsageRow where
  date : String
  requests : ℕ
  averageLatencyMs : ℕ
  errors : ℕ
deriving DecidableEq, Repr

structure LatencyTrend where
  date : Option String
  percentile : String
  valueMs : ℕ
deriving DecidableEq, Repr

structure ErrorTrend where
  date : Option String
  status : ℕ
  errorCode : String
  count : ℕ
deriving DecidableEq, Repr

structure LanguageDistribution where
  date : Option String
  language : String
  count : ℕ
  percentage : Float

/-- `as u64`. -/
def asU64 (value : ℤ) : ℕ := (value % 2 ^ 64).toNat

/-- `as u16`. -/
def asU16 (value : ℤ) : ℕ := (value % 2 ^ 16).toNat

/-- `as f64`, of a signed 64-bit integer. -/
def asF64 (value : ℤ) : Float := (Int64.ofInt value).toFloat

/-! ## Percentiles -/

def clampUnit (value : Float) : Float :=
  if value < 0.0 then 0.0 else if 1.0 < value then 1.0 else value

/-- The loop of `percentile`: the value in the bucket that crosses the rank, or
the last bound that was passed. -/
def crossing (rank : Float) : List (ℤ × ℤ) → ℤ → ℤ → ℕ ⊕ ℤ
  | [], _, lower => .inr lower
  | (upper, count) :: rest, cumulative, lower =>
      if count ≤ 0 then crossing rank rest cumulative upper
      else
        let next := cumulative + count
        if rank ≤ asF64 next then
          let fraction := clampUnit ((rank - asF64 cumulative) / asF64 count)
          let value := asF64 lower + asF64 (upper - lower) * fraction
          .inl value.round.toUInt64.toNat
        else crossing rank rest next upper

def percentile (buckets : List (ℤ × ℤ)) (q : Float) : Option ℕ :=
  let total := (buckets.map Prod.snd).sum
  if total ≤ 0 then none
  else
    let ordered := (buckets.filter fun bucket => bucket.1 ≠ bucketOverflow).mergeSort
      fun one two => one.1 ≤ two.1
    let overflow := ((buckets.filter fun bucket => bucket.1 = bucketOverflow).map Prod.snd).sum
    let lastFinite := latencyBucketsMs.getLastD 0
    match crossing (q * asF64 total) ordered 0 0 with
    | .inl value => some value
    | .inr lower => some (if 0 < overflow then asU64 lastFinite else asU64 (max lower 0))

/-! ## The four aggregations -/

structure DayTotals where
  requests : ℤ
  latencySumUs : ℤ
  errors : ℤ
deriving DecidableEq, Repr

def DayTotals.feed (totals : DayTotals) (row : UsageDailyRow) : DayTotals :=
  { requests := totals.requests + row.requestCount
    latencySumUs := totals.latencySumUs + row.latencySumUs
    errors := totals.errors + if 400 ≤ row.status then row.requestCount else 0 }

def aggregateDaily (hash : Arrangement) (rows : List UsageDailyRow) : List DailyUsageRow :=
  let byDay : Dict String DayTotals :=
    Dict.accumulate (fun row : UsageDailyRow => row.day) ⟨0, 0, 0⟩ DayTotals.feed ∅ rows
  let out := (hash.iterate byDay).map fun (day, totals) =>
    ({ date := day
       requests := asU64 totals.requests
       averageLatencyMs :=
         if 0 < totals.requests then
           asU64 ((totals.latencySumUs.tdiv totals.requests).tdiv 1000)
         else 0
       errors := asU64 totals.errors } : DailyUsageRow)
  out.mergeSort fun one two => (compare one.date two.date).isLE

/-- `dated.then(|| row.day.clone())`. -/
def datedDay (dated : Bool) (day : String) : Option String := if dated then some day else none

def aggregateErrors (hash : Arrangement) (rows : List UsageDailyRow) (dated : Bool) :
    List ErrorTrend :=
  let grouped : Dict (Option String × ℤ × String) ℤ :=
    Dict.accumulate
      (fun row : UsageDailyRow => (datedDay dated row.day, row.status, row.errorSlug)) 0
      (fun count row => count + row.requestCount) ∅ (rows.filter fun row => 400 ≤ row.status)
  let out := (hash.iterate grouped).map
    fun ((date, status, errorCode), count) =>
      ({ date, status := asU16 status, errorCode, count := asU64 count } : ErrorTrend)
  out.mergeSort fun one two =>
    ((compare one.date two.date).then
      ((compare two.count one.count).then (compare one.errorCode two.errorCode))).isLE

def aggregateLanguages (hash : Arrangement) (rows : List UsageDailyRow) (dated : Bool) :
    List LanguageDistribution :=
  let grouped : Dict (Option String × String) ℤ :=
    Dict.accumulate (fun row : UsageDailyRow => (datedDay dated row.day, row.language)) 0
      (fun count row => count + row.requestCount) ∅ rows
  let totals : Dict (Option String) ℤ :=
    Dict.accumulate (fun row : UsageDailyRow => datedDay dated row.day) 0
      (fun count row => count + row.requestCount) ∅ rows
  let out := (hash.iterate grouped).map fun ((date, language), count) =>
    let total := (totals.lookup date).getD 0
    ({ date
       language
       count := asU64 count
       percentage :=
         if 0 < total then (asF64 count / asF64 total * 1000.0).round / 10.0 else 0.0 } :
      LanguageDistribution)
  out.mergeSort fun one two =>
    ((compare one.date two.date).then
      ((compare two.count one.count).then (compare one.language two.language))).isLE

def percentiles : List (String × Float) := [("p50", 0.50), ("p95", 0.95), ("p99", 0.99)]

def aggregateLatency (hash : Arrangement) (rows : List UsageLatencyRow) (dated : Bool) :
    List LatencyTrend :=
  let grouped : Dict (Option String) (List (ℤ × ℤ)) :=
    Dict.accumulate (fun row : UsageLatencyRow => datedDay dated row.day) []
      (fun buckets row => buckets ++ [(row.bucketLeMs, row.requestCount)]) ∅ rows
  let dates := ((hash.iterate grouped).map Prod.fst).mergeSort
    fun one two => (compare one two).isLE
  dates.flatMap fun date =>
    let buckets := (grouped.lookup date).getD []
    percentiles.filterMap fun (label, q) =>
      (percentile buckets q).map fun valueMs => { date, percentile := label, valueMs }

end SpellServer
