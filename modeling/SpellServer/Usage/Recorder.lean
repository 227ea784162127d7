import Mathlib
import SpellServer.Library.Accumulate
import SpellServer.Usage.Days

/-!
# The usage recorder

`UsageRecorder` counts requests in two maps, one by day, tenant, language,
status and error, the other by day, tenant and latency bucket.  `record`
changes one map after the other, each under its own lock, and `drain` empties
them in the same order.
-/

namespace SpellServer

open Library

/-- `LATENCY_BUCKETS_MS`. -/
def latencyBucketsMs : List ℤ := [1, 2, 5, 10, 25, 50, 100, 250, 500, 1000]

/-- `BUCKET_OVERFLOW`. -/
def bucketOverflow : ℤ := -1

structure DailyKey where
  day : String
  tenantId : String
  language : String
  status : ℤ
  errorSlug : String
deriving DecidableEq, Repr

/-- The counters stay far from the ends of their 64-bit range. -/
@[ext] structure DailyCounters where
  requestCount : ℤ
  latencySumUs : ℤ
deriving DecidableEq, Repr

/-- `DailyCounters::default`. -/
def DailyCounters.default : DailyCounters := { requestCount := 0, latencySumUs := 0 }

structure LatencyKey where
  day : String
  tenantId : String
  bucketLeMs : ℤ
deriving DecidableEq, Repr

structure UsageRecorder where
  daily : Dict DailyKey DailyCounters
  latency : Dict LatencyKey ℤ

/-- `as i64`, of an unsigned number: the low 64 bits, signed. -/
def asI64 (value : ℕ) : ℤ := (Int64.ofNat value).toInt

/-- A latency counts nanoseconds. -/
def asMicros (latency : ℕ) : ℤ := (latency / 1000 : ℕ)

def asMillis (latency : ℕ) : ℤ := asI64 (latency / 1000000)

def bucketFor (latency : ℕ) : ℤ :=
  (latencyBucketsMs.find? fun bound => asMillis latency ≤ bound).getD bucketOverflow

/-- What a call of `record` is about; `now` is the clock, in seconds. -/
structure UsageRecord where
  now : ℕ
  tenantId : String
  language : String
  status : ℕ
  errorSlug : String
  latency : ℕ
deriving DecidableEq, Repr

namespace UsageRecord

def day (record : UsageRecord) : String := formatDay (epochDay record.now)

def dailyKey (record : UsageRecord) : DailyKey :=
  { day := record.day
    tenantId := record.tenantId
    language := record.language
    status := record.status
    errorSlug := record.errorSlug }

def latencyKey (record : UsageRecord) : LatencyKey :=
  { day := record.day
    tenantId := record.tenantId
    bucketLeMs := bucketFor record.latency }

end UsageRecord

def DailyCounters.increment (counters : DailyCounters) (record : UsageRecord) : DailyCounters :=
  { requestCount := counters.requestCount + 1
    latencySumUs := counters.latencySumUs + asMicros record.latency }

namespace UsageRecorder

def new : UsageRecorder := { daily := ∅, latency := ∅ }

/-- The first step of `record`. -/
def recordDaily (recorder : UsageRecorder) (entry : UsageRecord) : UsageRecorder :=
  { recorder with
    daily := recorder.daily.alter entry.dailyKey .default fun counters =>
      counters.increment entry }

/-- The second step of `record`. -/
def recordLatency (recorder : UsageRecorder) (entry : UsageRecord) : UsageRecorder :=
  { recorder with latency := recorder.latency.alter entry.latencyKey 0 fun count => count + 1 }

def record (recorder : UsageRecorder) (entry : UsageRecord) : UsageRecorder :=
  (recorder.recordDaily entry).recordLatency entry

@[simp] theorem record_daily (recorder : UsageRecorder) (entry : UsageRecord) :
    (recorder.record entry).daily =
      recorder.daily.alter entry.dailyKey .default fun counters => counters.increment entry := rfl

@[simp] theorem record_latency (recorder : UsageRecorder) (entry : UsageRecord) :
    (recorder.record entry).latency =
      recorder.latency.alter entry.latencyKey 0 fun count => count + 1 := rfl

/-- The first step of `drain`. -/
def takeDaily (recorder : UsageRecorder) : UsageRecorder := { recorder with daily := ∅ }

/-- The second step of `drain`. -/
def takeLatency (recorder : UsageRecorder) : UsageRecorder := { recorder with latency := ∅ }

/-- The requests counted for a tenant. -/
def requestsOf (recorder : UsageRecorder) (tenantId : String) : ℤ :=
  recorder.daily.total fun key counters =>
    if key.tenantId = tenantId then counters.requestCount else 0

theorem requestsOf_record (recorder : UsageRecorder) (entry : UsageRecord) (tenantId : String) :
    (recorder.record entry).requestsOf tenantId =
      recorder.requestsOf tenantId + if entry.tenantId = tenantId then 1 else 0 := by
  unfold requestsOf
  rw [record_daily]
  apply Dict.total_alter
  · simp [DailyCounters.default]
  · intro counters
    by_cases same : entry.tenantId = tenantId <;>
      simp [UsageRecord.dailyKey, DailyCounters.increment, same]

end UsageRecorder

end SpellServer
