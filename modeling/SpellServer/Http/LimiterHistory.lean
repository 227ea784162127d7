import Mathlib.Data.List.Induction
import SpellServer.Http.Guessing
import SpellServer.Library.SlidingWindow

/-!
# The limiter against the history of failures

The limiter keeps the failures that still count and one deadline for each
address.  Its answers are those that the whole history of failures gives.
-/

namespace SpellServer

open Library SlidingWindow

inductive LimiterCall where
  | check (time : ℕ) (ip : IpAddr)
  | recordFailure (time : ℕ) (ip : IpAddr)
deriving DecidableEq, Repr

namespace LimiterCall

def time : LimiterCall → ℕ
  | .check time _ => time
  | .recordFailure time _ => time

/-- The instant of a failure of the address. -/
def failureOf (ip : IpAddr) : LimiterCall → Option ℕ
  | .recordFailure time address => if address = ip then some time else none
  | .check _ _ => none

/-- The failures of an address, the latest first. -/
def failures (ip : IpAddr) (calls : List LimiterCall) : List ℕ :=
  (calls.filterMap (failureOf ip)).reverse

def Ordered (calls : List LimiterCall) : Prop :=
  calls.Pairwise fun earlier later => earlier.time ≤ later.time

instance (calls : List LimiterCall) : Decidable (Ordered calls) :=
  inferInstanceAs (Decidable (calls.Pairwise _))

variable {ip : IpAddr} {calls : List LimiterCall}

theorem time_of_failureOf {call : LimiterCall} {time : ℕ} (failed : call.failureOf ip = some time) :
    call.time = time := by
  cases call with
  | check => cases failed
  | recordFailure instant address =>
      simp only [failureOf, Option.ite_none_right_eq_some, Option.some.injEq] at failed
      exact failed.2

theorem mem_failures {time : ℕ} (member : time ∈ failures ip calls) :
    ∃ call ∈ calls, call.time = time := by
  obtain ⟨call, called, failed⟩ := List.mem_filterMap.mp (List.mem_reverse.mp member)
  exact ⟨call, called, time_of_failureOf failed⟩

theorem failures_append (calls more : List LimiterCall) :
    failures ip (calls ++ more) = failures ip more ++ failures ip calls := by
  unfold failures
  rw [List.filterMap_append, List.reverse_append]

end LimiterCall

namespace RateLimiter

/-- A check only reads. -/
def after (limiter : RateLimiter) : LimiterCall → RateLimiter
  | .check _ _ => limiter
  | .recordFailure now ip => limiter.recordFailure now ip

def run (limiter : RateLimiter) (calls : List LimiterCall) : RateLimiter :=
  calls.foldl after limiter

theorem run_append (limiter : RateLimiter) (calls more : List LimiterCall) :
    limiter.run (calls ++ more) = (limiter.run calls).run more := List.foldl_append

/-- What is kept of an address is what its history comes down to. -/
structure Tracks (limiter : RateLimiter) (maxFailures : UInt32) (window cooldown : ℕ) (ip : IpAddr)
    (history : List ℕ) : Prop where
  threshold : limiter.maxFailures = maxFailures
  span : limiter.window = window
  pause : limiter.cooldown = cooldown
  past : ∀ time ∈ limiter.failuresOf ip, time ∈ history
  short : (limiter.failuresOf ip).length ≤ maxFailures.toNat - 1
  kept : ∀ now, (∀ time ∈ history, time ≤ now) →
    inSpan window now (limiter.failuresOf ip) =
      (inSpan window now (sinceTrigger maxFailures.toNat window history)).reverse
  locked : limiter.cooldownOf ip =
    (lastTrigger maxFailures.toNat window history).map fun trigger => trigger + cooldown

namespace Tracks

variable {limiter : RateLimiter} {maxFailures : UInt32} {window cooldown now : ℕ}
  {ip other : IpAddr} {history : List ℕ}

theorem new (maxFailures : UInt32) (window cooldown : ℕ) (ip : IpAddr) :
    Tracks (.new maxFailures window cooldown) maxFailures window cooldown ip [] where
  threshold := rfl
  span := rfl
  pause := rfl
  past _ member := by cases member
  short := Nat.zero_le _
  kept _ _ := rfl
  locked := rfl

theorem recordOther (tracks : Tracks limiter maxFailures window cooldown ip history)
    (differs : ip ≠ other) :
    Tracks (limiter.recordFailure now other) maxFailures window cooldown ip history where
  threshold := tracks.threshold
  span := tracks.span
  pause := tracks.pause
  past := by
    rw [failuresOf_recordFailure_ne differs]
    exact tracks.past
  short := by
    rw [failuresOf_recordFailure_ne differs]
    exact tracks.short
  kept := by
    rw [failuresOf_recordFailure_ne differs]
    exact tracks.kept
  locked := by
    rw [cooldownOf_recordFailure_ne differs]
    exact tracks.locked

theorem recentFailures_eq (tracks : Tracks limiter maxFailures window cooldown ip history)
    (ordered : ∀ time ∈ history, time ≤ now) :
    limiter.recentFailures now ip = inSpan window now (limiter.failuresOf ip) := by
  rw [recentFailures, tracks.span, filter_age]
  intro time member
  exact ordered time (tracks.past time member)

/-- The list is short enough for its length to be compared as a `u32`. -/
theorem full_iff (tracks : Tracks limiter maxFailures window cooldown ip history)
    (ordered : ∀ time ∈ history, time ≤ now) :
    limiter.maxFailures ≤ UInt32.ofNat (limiter.recentFailures now ip ++ [now]).length ↔
      Trigger maxFailures.toNat window history now := by
  have counted : (limiter.recentFailures now ip).length =
      (inSpan window now (sinceTrigger maxFailures.toNat window history)).length := by
    rw [tracks.recentFailures_eq ordered, tracks.kept now ordered, List.length_reverse]
  have fewer : (limiter.recentFailures now ip).length ≤ maxFailures.toNat - 1 :=
    (List.length_filter_le ..).trans tracks.short
  have small : maxFailures.toNat < UInt32.size := maxFailures.toNat_lt
  have size : UInt32.size = 4294967296 := rfl
  rw [Trigger, tracks.threshold, UInt32.le_iff_toNat_le, List.length_append, List.length_singleton,
    UInt32.toNat_ofNat_of_lt' (by omega), counted]

/-- A failure is a trigger for the limiter when it is one in the history. -/
theorem recordOwn (tracks : Tracks limiter maxFailures window cooldown ip history)
    (ordered : ∀ time ∈ history, time ≤ now) :
    Tracks (limiter.recordFailure now ip) maxFailures window cooldown ip (now :: history) := by
  have full := tracks.full_iff ordered
  rcases @recordFailure_cases limiter now ip with started | joined
  · obtain ⟨many, failures, lock⟩ := started
    have trigger := full.mp many
    refine ⟨tracks.threshold, tracks.span, tracks.pause, ?_, ?_, ?_, ?_⟩
    · rw [failures]
      intro time member
      cases member
    · rw [failures]
      exact Nat.zero_le _
    · rw [failures, sinceTrigger_of_trigger trigger]
      intro later _
      rfl
    · rw [lock, lastTrigger_of_trigger trigger, tracks.pause]
      rfl
  · obtain ⟨few, failures, lock⟩ := joined
    have calm : ¬Trigger maxFailures.toNat window history now := by
      rw [← full, UInt32.not_le]
      exact few
    have recent := tracks.recentFailures_eq ordered
    refine ⟨tracks.threshold, tracks.span, tracks.pause, ?_, ?_, ?_, ?_⟩
    · rw [failures]
      intro time member
      rcases List.mem_append.mp member with before | last
      · exact List.mem_cons_of_mem _ (tracks.past time (List.mem_of_mem_filter before))
      · rw [List.mem_singleton.mp last]
        exact List.mem_cons_self
    · have counted : (limiter.recentFailures now ip).length =
          (inSpan window now (sinceTrigger maxFailures.toNat window history)).length := by
        rw [recent, tracks.kept now ordered, List.length_reverse]
      unfold Trigger at calm
      rw [failures, List.length_append, List.length_singleton]
      omega
    · intro later past
      have order := past now List.mem_cons_self
      have before : ∀ time ∈ history, time ≤ later := by
        intro time member
        exact past time (List.mem_cons_of_mem now member)
      have stored : ∀ time ∈ limiter.failuresOf ip, time ≤ now := by
        intro time member
        exact ordered time (tracks.past time member)
      rw [failures, sinceTrigger_of_not_trigger calm, recent, inSpan_append,
        inSpan_inSpan stored order, tracks.kept later before, ← inSpan_reverse,
        ← inSpan_reverse, List.reverse_cons, inSpan_append]
    · rw [lock, lastTrigger_of_not_trigger calm]
      exact tracks.locked

end Tracks

open LimiterCall in
theorem tracks_run (maxFailures : UInt32) (window cooldown : ℕ) (ip : IpAddr)
    {calls : List LimiterCall} (ordered : Ordered calls) :
    Tracks ((new maxFailures window cooldown).run calls) maxFailures window cooldown ip
      (failures ip calls) := by
  induction calls using List.reverseRecOn with
  | nil => exact .new maxFailures window cooldown ip
  | append_singleton calls call induction =>
      obtain ⟨before, _, last⟩ := List.pairwise_append.mp ordered
      have tracks := induction before
      rw [run_append, failures_append]
      cases call with
      | check => exact tracks
      | recordFailure now address =>
          by_cases same : address = ip
          · have history : failures ip [.recordFailure now address] = [now] := by
              simp [failures, failureOf, same]
            rw [history, same]
            apply tracks.recordOwn
            intro time member
            obtain ⟨call, called, rfl⟩ := mem_failures member
            exact last call called (.recordFailure now address) List.mem_cons_self
          · have history : failures ip [.recordFailure now address] = [] := by
              simp [failures, failureOf, same]
            rw [history]
            exact tracks.recordOther (Ne.symm same)

open LimiterCall in
/-- Checks and the failures of other addresses leave a deadline as it is. -/
theorem cooldownOf_run (limiter : RateLimiter) {ip : IpAddr} {calls : List LimiterCall}
    (quiet : failures ip calls = []) :
    (limiter.run calls).cooldownOf ip = limiter.cooldownOf ip := by
  induction calls using List.reverseRecOn with
  | nil => rfl
  | append_singleton calls call induction =>
      rw [failures_append, List.append_eq_nil_iff] at quiet
      rw [run_append, ← induction quiet.2]
      cases call with
      | check => rfl
      | recordFailure now address =>
          by_cases same : address = ip
          · simp [failures, failureOf, same] at quiet
          · exact cooldownOf_recordFailure_ne (Ne.symm same)

variable {limiter : RateLimiter} {ip : IpAddr}

/-- The answer in terms of the deadline. -/
theorem check_eq_error_iff (limiter : RateLimiter) (now : ℕ) (ip : IpAddr) (remaining : ℕ) :
    limiter.check now ip = .error remaining ↔
      ∃ cooldownEnd, limiter.cooldownOf ip = some cooldownEnd ∧ now < cooldownEnd ∧
        remaining = cooldownEnd - now := by
  constructor
  · intro rejected
    cases cooling : limiter.cooldownOf ip with
    | none =>
        unfold cooldownOf at cooling
        simp only [check, cooling] at rejected
        cases rejected
    | some cooldownEnd =>
        by_cases early : now < cooldownEnd
        · rw [check_eq_error cooling early] at rejected
          cases rejected
          exact ⟨cooldownEnd, rfl, early, rfl⟩
        · unfold cooldownOf at cooling
          simp only [check, cooling, early, if_false] at rejected
          cases rejected
  · intro cooling
    obtain ⟨cooldownEnd, cooling, early, rfl⟩ := cooling
    exact check_eq_error cooling early

theorem check_eq_ok_iff (limiter : RateLimiter) (now : ℕ) (ip : IpAddr) :
    limiter.check now ip = .ok () ↔
      ∀ cooldownEnd, limiter.cooldownOf ip = some cooldownEnd → cooldownEnd ≤ now := by
  constructor
  · exact check_eq_ok
  · intro ended
    cases answer : limiter.check now ip with
    | ok => rfl
    | error remaining =>
        obtain ⟨cooldownEnd, cooling, early, _⟩ := (check_eq_error_iff ..).mp answer
        exact absurd (ended cooldownEnd cooling) (not_le.mpr early)

open LimiterCall in
/-- The limiter locks an address out for the cooldown after the last trigger in the
whole history of its failures.  The calls may be the beginning of a longer sequence. -/
theorem sliding_window_lock (maxFailures : UInt32) (window cooldown : ℕ)
    {calls : List LimiterCall} (ordered : Ordered calls) (ip : IpAddr) (now : ℕ) :
    (∀ remaining, ((new maxFailures window cooldown).run calls).check now ip = .error remaining ↔
      ∃ trigger, lastTrigger maxFailures.toNat window (failures ip calls) = some trigger ∧
        now < trigger + cooldown ∧ remaining = trigger + cooldown - now) ∧
    (((new maxFailures window cooldown).run calls).check now ip = .ok () ↔
      ∀ trigger, lastTrigger maxFailures.toNat window (failures ip calls) = some trigger →
        trigger + cooldown ≤ now) ∧
    (∀ earlier later remaining, calls = earlier ++ later →
      ((new maxFailures window cooldown).run earlier).check now ip = .error remaining →
        ∃ longer, remaining ≤ longer ∧
          ((new maxFailures window cooldown).run calls).check now ip = .error longer) ∧
    ∀ others, Ordered others → failures ip others = failures ip calls →
      ((new maxFailures window cooldown).run others).check now ip =
        ((new maxFailures window cooldown).run calls).check now ip := by
  have locked : ∀ {calls}, Ordered calls →
      ((new maxFailures window cooldown).run calls).cooldownOf ip =
        (lastTrigger maxFailures.toNat window (failures ip calls)).map (· + cooldown) :=
    fun ordered => (tracks_run maxFailures window cooldown ip ordered).locked
  refine ⟨?rejected, ?passed, ?kept, ?independent⟩
  case rejected =>
    intro remaining
    rw [check_eq_error_iff, locked ordered]
    simp
  case passed =>
    rw [check_eq_ok_iff, locked ordered]
    simp
  case kept =>
    intro earlier later remaining parts rejected
    subst parts
    obtain ⟨first, _, between⟩ := List.pairwise_append.mp ordered
    obtain ⟨deadline, cooling, early, rfl⟩ := (check_eq_error_iff ..).mp rejected
    rw [locked first] at cooling
    obtain ⟨time, last, rfl⟩ := Option.map_eq_some_iff.mp cooling
    have following : ∀ instant ∈ failures ip later, time ≤ instant := by
      intro instant member
      obtain ⟨before, calledBefore, rfl⟩ := mem_failures (lastTrigger_mem last)
      obtain ⟨call, called, rfl⟩ := mem_failures member
      exact between before calledBefore call called
    obtain ⟨trigger, order, found⟩ := lastTrigger_append following last
    have lock : ((new maxFailures window cooldown).run (earlier ++ later)).cooldownOf ip =
        some (trigger + cooldown) := by
      rw [locked ordered, failures_append, found]
      rfl
    exact ⟨trigger + cooldown - now, by omega, check_eq_error lock (by omega)⟩
  case independent =>
    intro others othersOrdered same
    unfold check
    have cooldowns := (locked othersOrdered).trans (by rw [same, ← locked ordered])
    unfold cooldownOf at cooldowns
    rw [cooldowns]

theorem sliding_window_lock_second_failure :
    ((new 2 10 5).run [.recordFailure 0 guesser, .check 1 guesser, .recordFailure 3 guesser,
      .recordFailure 4 (.v4 1)]).check 6 guesser = .error 2 :=
  ((sliding_window_lock 2 10 5 (by decide) guesser 6).1 2).mpr ⟨3, by decide, by decide, by decide⟩

end RateLimiter

end SpellServer
