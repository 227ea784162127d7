import SpellServer.Http.Gates
import SpellServer.Library.Interleaving

/-!
# Guessing keys against the limiter

A request through `require_active_key` asks the limiter, has its key evaluated
and records a failure, in three steps under different locks.  The steps of
different requests interleave, and any of them may find the key of its request
valid or not.
-/

namespace SpellServer

open Library

namespace RateLimiter

def failuresOf (limiter : RateLimiter) (ip : IpAddr) : List ℕ :=
  ((limiter.state.lookup ip).map FailureWindow.failures).getD []

def cooldownOf (limiter : RateLimiter) (ip : IpAddr) : Option ℕ :=
  (limiter.state.lookup ip).bind FailureWindow.cooldownUntil

/-- The failures of an address that still count. -/
def recentFailures (limiter : RateLimiter) (now : ℕ) (ip : IpAddr) : List ℕ :=
  (limiter.failuresOf ip).filter fun time => now - time < limiter.window

variable {limiter : RateLimiter} {now : ℕ} {ip other : IpAddr}

@[simp] theorem recordFailure_window :
    (limiter.recordFailure now ip).window = limiter.window := rfl
@[simp] theorem recordFailure_cooldown :
    (limiter.recordFailure now ip).cooldown = limiter.cooldown := rfl
@[simp] theorem recordFailure_maxFailures :
    (limiter.recordFailure now ip).maxFailures = limiter.maxFailures := rfl

theorem check_eq_ok (passed : limiter.check now ip = .ok ()) :
    ∀ cooldownEnd, limiter.cooldownOf ip = some cooldownEnd → cooldownEnd ≤ now := by
  intro cooldownEnd cooling
  unfold cooldownOf at cooling
  simp only [check, cooling] at passed
  by_cases early : now < cooldownEnd
  · simp [early] at passed
  · omega

theorem check_eq_error {cooldownEnd : ℕ} (cooling : limiter.cooldownOf ip = some cooldownEnd)
    (early : now < cooldownEnd) : limiter.check now ip = .error (cooldownEnd - now) := by
  unfold cooldownOf at cooling
  simp only [check, cooling, early, if_true]

/-- A failure starts a cooldown or joins those that still count. -/
theorem recordFailure_cases :
    (limiter.maxFailures ≤ UInt32.ofNat (limiter.recentFailures now ip ++ [now]).length ∧
        (limiter.recordFailure now ip).failuresOf ip = [] ∧
        (limiter.recordFailure now ip).cooldownOf ip = some (now + limiter.cooldown)) ∨
      (UInt32.ofNat (limiter.recentFailures now ip ++ [now]).length < limiter.maxFailures ∧
        (limiter.recordFailure now ip).failuresOf ip = limiter.recentFailures now ip ++ [now] ∧
        (limiter.recordFailure now ip).cooldownOf ip = limiter.cooldownOf ip) := by
  have entry : ((limiter.state.lookup ip).getD { failures := [], cooldownUntil := none }).failures =
      limiter.failuresOf ip := by
    unfold failuresOf
    cases limiter.state.lookup ip <;> rfl
  have started :
      ((limiter.state.lookup ip).getD { failures := [], cooldownUntil := none }).cooldownUntil =
        limiter.cooldownOf ip := by
    unfold cooldownOf
    cases limiter.state.lookup ip <;> rfl
  by_cases full :
      UInt32.ofNat (limiter.recentFailures now ip ++ [now]).length ≥ limiter.maxFailures
  · left
    refine ⟨full, ?_⟩
    rw [recentFailures, ← entry] at full
    constructor
    · rw [failuresOf, recordFailure, AList.lookup_insert, if_pos full]
      rfl
    · rw [cooldownOf, recordFailure, AList.lookup_insert, if_pos full]
      rfl
  · right
    refine ⟨by simpa using full, ?_, ?_⟩
    · rw [recentFailures, ← entry] at full ⊢
      rw [failuresOf, recordFailure, AList.lookup_insert, if_neg full]
      rfl
    · rw [recentFailures, ← entry] at full
      rw [← started, cooldownOf, recordFailure, AList.lookup_insert, if_neg full]
      rfl

theorem failuresOf_recordFailure_ne (differs : other ≠ ip) :
    (limiter.recordFailure now ip).failuresOf other = limiter.failuresOf other := by
  unfold failuresOf recordFailure
  rw [AList.lookup_insert_ne differs]

theorem cooldownOf_recordFailure_ne (differs : other ≠ ip) :
    (limiter.recordFailure now ip).cooldownOf other = limiter.cooldownOf other := by
  unfold cooldownOf recordFailure
  rw [AList.lookup_insert_ne differs]

end RateLimiter

/-! ## Runs -/

/-- A request past its check: its key is not evaluated yet, or was rejected and
the failure not recorded yet. -/
inductive GuessAttempt where
  | checked (ip : IpAddr)
  | failed (ip : IpAddr)
deriving DecidableEq, Repr

/-- The last two fields list the evaluated keys that were rejected and the
answers 429 so far; the program keeps neither. -/
structure GuessWorld where
  now : ℕ
  limiter : RateLimiter
  inFlight : List GuessAttempt
  rejections : List (ℕ × IpAddr)
  refusals : List (ℕ × IpAddr)

inductive GuessEvent where
  | elapse (duration : ℕ)
  | check (ip : IpAddr)
  | headerMissing (position : ℕ)
  | authenticate (position : ℕ) (rejected : Bool)
  | recordFailure (position : ℕ)
deriving DecidableEq, Repr

namespace GuessWorld

def fresh (maxFailures : UInt32) (window cooldown : ℕ) : GuessWorld :=
  { now := 0
    limiter := .new maxFailures window cooldown
    inFlight := []
    rejections := []
    refusals := [] }

def step (world : GuessWorld) : GuessEvent → Option GuessWorld
  | .elapse duration => some { world with now := world.now + duration }
  | .check ip =>
      match world.limiter.check world.now ip with
      | .error _ => some { world with refusals := world.refusals ++ [(world.now, ip)] }
      | .ok () => some { world with inFlight := .checked ip :: world.inFlight }
  | .headerMissing position =>
      match world.inFlight[position]? with
      | some (.checked ip) =>
          some { world with inFlight := .failed ip :: world.inFlight.eraseIdx position }
      | _ => none
  | .authenticate position rejected =>
      match world.inFlight[position]? with
      | some (.checked ip) =>
          if rejected then
            some
              { world with
                inFlight := .failed ip :: world.inFlight.eraseIdx position
                rejections := world.rejections ++ [(world.now, ip)] }
          else some { world with inFlight := world.inFlight.eraseIdx position }
      | _ => none
  | .recordFailure position =>
      match world.inFlight[position]? with
      | some (.failed ip) =>
          some
            { world with
              limiter := world.limiter.recordFailure world.now ip
              inFlight := world.inFlight.eraseIdx position }
      | _ => none

/-- The keys evaluated and rejected for an address within a window from `start`. -/
def rejectedWithin (world : GuessWorld) (ip : IpAddr) (start : ℕ) : ℕ :=
  world.rejections.countP fun rejection =>
    rejection.2 = ip ∧ start ≤ rejection.1 ∧ rejection.1 < start + world.limiter.window

/-- A check lets a request pass only while the failures that still count and the
requests of the address past their check leave room for one more. -/
def LeavesRoom (world : GuessWorld) : GuessEvent → Prop
  | .check ip =>
      world.limiter.check world.now ip = .ok () →
        (world.limiter.recentFailures world.now ip).length +
          (world.inFlight.count (.checked ip) + world.inFlight.count (.failed ip)) <
        world.limiter.maxFailures.toNat
  | _ => True

instance (world : GuessWorld) : (event : GuessEvent) → Decidable (world.LeavesRoom event)
  | .check _ => inferInstanceAs (Decidable (_ = _ → _))
  | .elapse _ | .headerMissing _ | .authenticate _ _ | .recordFailure _ => isTrue trivial

variable {world next : GuessWorld} {ip : IpAddr}

/-- Once a cooldown lasts as long as the window, nothing passes before its end. -/
def LockedUntil (world : GuessWorld) (ip : IpAddr) (finish : ℕ) : Prop :=
  ∃ cooldownEnd, world.limiter.cooldownOf ip = some cooldownEnd ∧ finish ≤ cooldownEnd

/-- What is known of the windows that have not ended yet: requests past their
check are paid for, and a rejection is still in flight or recorded. -/
structure Bounded (world : GuessWorld) (ip : IpAddr) : Prop where
  past : ∀ rejection ∈ world.rejections, rejection.1 ≤ world.now
  paid : ∀ start, world.now < start + world.limiter.window →
    world.rejectedWithin ip start + world.inFlight.count (.checked ip) ≤
      world.limiter.maxFailures.toNat
  traced : ∀ start, world.now < start + world.limiter.window →
    world.LockedUntil ip (start + world.limiter.window) ∨
      world.rejectedWithin ip start ≤
        (world.limiter.failuresOf ip).countP (fun time => start ≤ time) +
          world.inFlight.count (.failed ip)
  limited : ∀ start, world.rejectedWithin ip start ≤ world.limiter.maxFailures.toNat
  short : (world.limiter.failuresOf ip).length < world.limiter.maxFailures.toNat
  cools : world.limiter.window ≤ world.limiter.cooldown

/-- Nothing is rejected in a window that has not begun. -/
theorem rejectedWithin_later (ip : IpAddr)
    (past : ∀ rejection ∈ world.rejections, rejection.1 ≤ world.now) {start : ℕ}
    (later : world.now < start) : world.rejectedWithin ip start = 0 := by
  apply List.countP_eq_zero.mpr
  intro rejection member
  have before := past rejection member
  simp only [decide_eq_true_eq]
  omega

theorem count_eraseIdx {attempts : List GuessAttempt} {position : ℕ} {attempt : GuessAttempt}
    (found : attempts[position]? = some attempt) (kind : GuessAttempt) :
    attempts.count kind =
      (attempts.eraseIdx position).count kind + if attempt = kind then 1 else 0 := by
  obtain ⟨inside, rfl⟩ := List.getElem?_eq_some_iff.mp found
  rw [← (List.getElem_cons_eraseIdx_perm inside).count_eq, List.count_cons]
  simp

namespace Bounded

theorem fresh {maxFailures : UInt32} {window cooldown : ℕ} (positive : 1 ≤ maxFailures.toNat)
    (cools : window ≤ cooldown) : Bounded (fresh maxFailures window cooldown) ip where
  past _ member := by cases member
  paid _ _ := Nat.zero_le _
  traced _ _ := Or.inr (Nat.zero_le _)
  limited _ := Nat.zero_le _
  short := positive
  cools := cools

theorem elapse (bounded : Bounded world ip) {duration : ℕ}
    (taken : world.step (.elapse duration) = some next) : Bounded next ip := by
  cases taken
  constructor
  · intro rejection member
    exact (bounded.past rejection member).trans (Nat.le_add_right _ _)
  · intro start inside
    exact bounded.paid start ((Nat.le_add_right _ _).trans_lt inside)
  · intro start inside
    exact bounded.traced start ((Nat.le_add_right _ _).trans_lt inside)
  · exact bounded.limited
  · exact bounded.short
  · exact bounded.cools

/-- The limiter still counts what was recorded in a window that has not ended. -/
theorem recorded_recent (ip : IpAddr) {start : ℕ} (begun : start ≤ world.now)
    (inside : world.now < start + world.limiter.window) :
    (world.limiter.failuresOf ip).countP (fun time => start ≤ time) =
      (world.limiter.recentFailures world.now ip).countP fun time => start ≤ time := by
  rw [RateLimiter.recentFailures, List.countP_filter]
  apply List.countP_congr
  intro time _
  simp only [Bool.and_eq_true, decide_eq_true_eq]
  omega

theorem check (bounded : Bounded world ip) {address : IpAddr}
    (room : world.LeavesRoom (.check address))
    (taken : world.step (.check address) = some next) : Bounded next ip := by
  cases checked : world.limiter.check world.now address with
  | error remaining =>
      simp only [step, checked, Option.some.injEq] at taken
      subst next
      exact { bounded with }
  | ok =>
      simp only [step, checked, Option.some.injEq] at taken
      subst next
      have failed : (GuessAttempt.checked address :: world.inFlight).count (.failed ip) =
          world.inFlight.count (.failed ip) := List.count_cons_of_ne (by simp)
      refine { bounded with paid := ?_, traced := ?_ }
      · intro start inside
        change world.now < start + world.limiter.window at inside
        change world.rejectedWithin ip start +
          (GuessAttempt.checked address :: world.inFlight).count (.checked ip) ≤
            world.limiter.maxFailures.toNat
        by_cases same : address = ip
        · subst address
          rw [List.count_cons_self]
          have budget := room checked
          by_cases begun : start ≤ world.now
          · have kept := recorded_recent ip begun inside
            have recent : List.countP (fun time => decide (start ≤ time))
                (world.limiter.recentFailures world.now ip) ≤
                (world.limiter.recentFailures world.now ip).length := List.countP_le_length
            rcases bounded.traced start inside with locked | counts
            · obtain ⟨cooldownEnd, cooling, reaches⟩ := locked
              have ended := RateLimiter.check_eq_ok checked cooldownEnd cooling
              omega
            · omega
          · have nothing := rejectedWithin_later ip bounded.past (not_le.mp begun)
            omega
        · rw [List.count_cons_of_ne (by simpa using same)]
          exact bounded.paid start inside
      · intro start inside
        rcases bounded.traced start inside with locked | counts
        · exact Or.inl locked
        · exact Or.inr (by rw [failed]; exact counts)

/-- Attempts may leave, or go from checked to failed. -/
theorem withInFlight (bounded : Bounded world ip) {inFlight : List GuessAttempt}
    (fewer : inFlight.count (.checked ip) ≤ world.inFlight.count (.checked ip))
    (more : world.inFlight.count (.failed ip) ≤ inFlight.count (.failed ip)) :
    Bounded { world with inFlight } ip := by
  refine { bounded with paid := ?_, traced := ?_ }
  · intro start inside
    exact (Nat.add_le_add_left fewer _).trans (bounded.paid start inside)
  · intro start inside
    rcases bounded.traced start inside with locked | counts
    · exact Or.inl locked
    · exact Or.inr (counts.trans (Nat.add_le_add_left more _))

theorem headerMissing (bounded : Bounded world ip) {position : ℕ}
    (taken : world.step (.headerMissing position) = some next) : Bounded next ip := by
  cases found : world.inFlight[position]? with
  | none => simp [step, found] at taken
  | some attempt =>
      cases attempt with
      | failed address => simp [step, found] at taken
      | checked address =>
          simp only [step, found, Option.some.injEq] at taken
          subst next
          apply bounded.withInFlight
          · rw [count_eraseIdx found, List.count_cons_of_ne (by simp)]
            exact Nat.le_add_right _ _
          · rw [count_eraseIdx found, if_neg (by simp), Nat.add_zero]
            exact List.count_le_count_cons

/-- A rejection counts in the windows that are open. -/
theorem reject (bounded : Bounded world ip) {position : ℕ} {address : IpAddr}
    (found : world.inFlight[position]? = some (.checked address)) :
    Bounded
      { world with
        inFlight := .failed address :: world.inFlight.eraseIdx position
        rejections := world.rejections ++ [(world.now, address)] } ip := by
  have checked := count_eraseIdx found (.checked ip)
  have failed := count_eraseIdx found (.failed ip)
  rw [if_neg (by simp), Nat.add_zero] at failed
  have appended : ∀ start,
      rejectedWithin
        { world with
          inFlight := .failed address :: world.inFlight.eraseIdx position
          rejections := world.rejections ++ [(world.now, address)] } ip start =
        world.rejectedWithin ip start +
          if address = ip ∧ start ≤ world.now ∧ world.now < start + world.limiter.window
          then 1 else 0 := by
    intro start
    simp [rejectedWithin, List.countP_append, List.countP_cons]
  constructor
  · intro rejection member
    rcases List.mem_append.mp member with old | new
    · exact bounded.past rejection old
    · cases List.mem_singleton.mp new
      exact le_refl _
  · intro start inside
    change world.now < start + world.limiter.window at inside
    have before := bounded.paid start inside
    rw [appended, List.count_cons_of_ne (by simp)]
    change _ ≤ world.limiter.maxFailures.toNat
    by_cases same : address = ip
    · simp only [same, if_true] at checked
      split_ifs <;> omega
    · simp only [GuessAttempt.checked.injEq, same, if_false] at checked
      simp only [same, false_and, if_false]
      omega
  · intro start inside
    change world.now < start + world.limiter.window at inside
    rcases bounded.traced start inside with locked | counts
    · exact Or.inl locked
    · right
      rw [appended, List.count_cons]
      by_cases same : address = ip
      · simp only [same, beq_self_eq_true, if_true]
        split_ifs <;> omega
      · simp only [same, false_and, if_false]
        omega
  · intro start
    rw [appended]
    change _ ≤ world.limiter.maxFailures.toNat
    by_cases open_ : address = ip ∧ start ≤ world.now ∧ world.now < start + world.limiter.window
    · have before := bounded.paid start open_.2.2
      simp only [open_.1, if_true] at checked
      rw [if_pos open_]
      omega
    · rw [if_neg open_]
      exact bounded.limited start
  · exact bounded.short
  · exact bounded.cools

theorem authenticate (bounded : Bounded world ip) {position : ℕ} {rejected : Bool}
    (taken : world.step (.authenticate position rejected) = some next) : Bounded next ip := by
  cases found : world.inFlight[position]? with
  | none => simp [step, found] at taken
  | some attempt =>
      cases attempt with
      | failed address => simp [step, found] at taken
      | checked address =>
          cases rejected with
          | false =>
              simp only [step, found, Bool.false_eq_true, if_false, Option.some.injEq] at taken
              subst next
              apply bounded.withInFlight
              · rw [count_eraseIdx found]
                exact Nat.le_add_right _ _
              · rw [count_eraseIdx found, if_neg (by simp), Nat.add_zero]
          | true =>
              simp only [step, found, if_true, Option.some.injEq] at taken
              subst next
              exact bounded.reject found

/-- The failure of another address. -/
theorem recordOther (bounded : Bounded world ip) {position : ℕ} {address : IpAddr}
    (found : world.inFlight[position]? = some (.failed address)) (differs : ip ≠ address) :
    Bounded
      { world with
        limiter := world.limiter.recordFailure world.now address
        inFlight := world.inFlight.eraseIdx position } ip := by
  have checked := count_eraseIdx found (.checked ip)
  have failed := count_eraseIdx found (.failed ip)
  rw [if_neg (by simp), Nat.add_zero] at checked
  rw [if_neg (by simpa using Ne.symm differs), Nat.add_zero] at failed
  constructor
  · exact bounded.past
  · intro start inside
    have before := bounded.paid start inside
    rw [checked] at before
    exact before
  · intro start inside
    rcases bounded.traced start inside with locked | counts
    · left
      obtain ⟨cooldownEnd, cooling, reaches⟩ := locked
      exact ⟨cooldownEnd,
        (RateLimiter.cooldownOf_recordFailure_ne differs).trans cooling, reaches⟩
    · right
      rw [RateLimiter.failuresOf_recordFailure_ne differs, ← failed]
      exact counts
  · exact bounded.limited
  · rw [RateLimiter.failuresOf_recordFailure_ne differs]
    exact bounded.short
  · exact bounded.cools

theorem recordOwn (bounded : Bounded world ip) {position : ℕ}
    (found : world.inFlight[position]? = some (.failed ip)) :
    Bounded
      { world with
        limiter := world.limiter.recordFailure world.now ip
        inFlight := world.inFlight.eraseIdx position } ip := by
  have checked := count_eraseIdx found (.checked ip)
  have failed := count_eraseIdx found (.failed ip)
  rw [if_neg (by simp), Nat.add_zero] at checked
  rw [if_pos rfl] at failed
  constructor
  · exact bounded.past
  · intro start inside
    have before := bounded.paid start inside
    rw [checked] at before
    exact before
  · intro start inside
    change world.now < start + world.limiter.window at inside
    by_cases begun : start ≤ world.now
    · rcases RateLimiter.recordFailure_cases with started | joined
      · left
        refine ⟨_, started.2.2, ?_⟩
        have cools := bounded.cools
        change start + world.limiter.window ≤ world.now + world.limiter.cooldown
        omega
      · obtain ⟨_, failures, cooldown⟩ := joined
        rcases bounded.traced start inside with locked | counts
        · left
          obtain ⟨cooldownEnd, cooling, reaches⟩ := locked
          exact ⟨cooldownEnd, cooldown.trans cooling, reaches⟩
        · right
          rw [failures, List.countP_append, ← recorded_recent ip begun inside,
            List.countP_singleton, if_pos (decide_eq_true begun)]
          change world.rejectedWithin ip start ≤
            _ + (world.inFlight.eraseIdx position).count (.failed ip)
          omega
    · right
      have nothing := rejectedWithin_later ip bounded.past (not_le.mp begun)
      change world.rejectedWithin ip start ≤ _
      omega
  · exact bounded.limited
  · have short := bounded.short
    rcases RateLimiter.recordFailure_cases with started | joined
    · rw [started.2.1]
      exact (Nat.zero_le _).trans_lt short
    · obtain ⟨few, failures, _⟩ := joined
      rw [failures]
      have recent : (world.limiter.recentFailures world.now ip).length ≤
          (world.limiter.failuresOf ip).length := List.length_filter_le ..
      have small : world.limiter.maxFailures.toNat < UInt32.size :=
        world.limiter.maxFailures.toNat_lt
      rw [UInt32.lt_iff_toNat_lt, UInt32.toNat_ofNat_of_lt'] at few
      · exact few
      · rw [List.length_append, List.length_singleton]
        omega
  · exact bounded.cools

theorem recordFailure (bounded : Bounded world ip) {position : ℕ}
    (taken : world.step (.recordFailure position) = some next) : Bounded next ip := by
  cases found : world.inFlight[position]? with
  | none => simp [step, found] at taken
  | some attempt =>
      cases attempt with
      | checked address => simp [step, found] at taken
      | failed address =>
          simp only [step, found, Option.some.injEq] at taken
          subst next
          by_cases same : ip = address
          · subst address
            exact bounded.recordOwn found
          · exact bounded.recordOther found same

theorem step (bounded : Bounded world ip) {event : GuessEvent} (room : world.LeavesRoom event)
    (taken : world.step event = some next) : Bounded next ip := by
  cases event with
  | elapse duration => exact bounded.elapse taken
  | check address => exact bounded.check room taken
  | headerMissing position => exact bounded.headerMissing taken
  | authenticate position rejected => exact bounded.authenticate taken
  | recordFailure position => exact bounded.recordFailure taken

end Bounded

/-- The settings of the limiter never change. -/
structure SameSettings (world next : GuessWorld) : Prop where
  maxFailures : next.limiter.maxFailures = world.limiter.maxFailures
  window : next.limiter.window = world.limiter.window

theorem SameSettings.step {event : GuessEvent} (taken : world.step event = some next) :
    world.SameSettings next := by
  cases event with
  | elapse duration =>
      cases taken
      exact ⟨rfl, rfl⟩
  | check address =>
      simp only [GuessWorld.step] at taken
      split at taken <;> cases taken <;> exact ⟨rfl, rfl⟩
  | headerMissing position =>
      simp only [GuessWorld.step] at taken
      split at taken
      · cases taken
        exact ⟨rfl, rfl⟩
      · cases taken
  | authenticate position rejected =>
      simp only [GuessWorld.step] at taken
      split at taken
      · cases rejected <;> cases taken <;> exact ⟨rfl, rfl⟩
      · cases taken
  | recordFailure position =>
      simp only [GuessWorld.step] at taken
      split at taken
      · cases taken
        exact ⟨rfl, rfl⟩
      · cases taken

/-- What the limiter promises of key guessing in a reached state. -/
structure GuessingLimited (world : GuessWorld) (maxFailures : UInt32) (window : ℕ) : Prop where
  settings : world.limiter.maxFailures = maxFailures ∧ world.limiter.window = window
  limited : ∀ ip start, world.rejectedWithin ip start ≤ maxFailures.toNat
  /-- A full window answers every further attempt until it ends. -/
  refused : ∀ ip start, world.rejectedWithin ip start = maxFailures.toNat →
    world.now < start + window → ∀ next, world.LeavesRoom (.check ip) →
    world.step (.check ip) = some next →
    next = { world with refusals := world.refusals ++ [(world.now, ip)] }
  /-- Once every rejection is recorded, the limiter sees to that itself. -/
  locked : ∀ ip start, world.rejectedWithin ip start = maxFailures.toNat →
    world.now < start + window → world.inFlight.count (.failed ip) = 0 →
    ∃ remaining, world.limiter.check world.now ip = .error remaining

theorem Bounded.guessingLimited (bounded : ∀ ip, Bounded world ip) :
    GuessingLimited world world.limiter.maxFailures world.limiter.window where
  settings := ⟨rfl, rfl⟩
  limited ip := (bounded ip).limited
  refused ip start full inside next room taken := by
    cases checked : world.limiter.check world.now ip with
    | error remaining =>
        simp only [GuessWorld.step, checked, Option.some.injEq] at taken
        exact taken.symm
    | ok =>
        have after := ((bounded ip).check room taken).paid start
        simp only [GuessWorld.step, checked, Option.some.injEq] at taken
        subst next
        have paid := after inside
        rw [List.count_cons_self] at paid
        change world.rejectedWithin ip start + _ ≤ world.limiter.maxFailures.toNat at paid
        omega
  locked ip start full inside recorded := by
    have short := (bounded ip).short
    rcases (bounded ip).traced start inside with locked | counts
    · obtain ⟨cooldownEnd, cooling, reaches⟩ := locked
      exact ⟨_, RateLimiter.check_eq_error cooling (inside.trans_le reaches)⟩
    · have few : (world.limiter.failuresOf ip).countP (fun time => decide (start ≤ time)) ≤
          (world.limiter.failuresOf ip).length := List.countP_le_length
      omega

end GuessWorld

theorem admitKey_rateLimiter [Driver] (hashKey : String → String) (ambient : Ambient)
    (request : Request) (state : AppState) (record : KeyRecord) :
    (admitKey hashKey ambient request state record).state.rateLimiter = state.rateLimiter := by
  unfold admitKey
  split <;> rfl

namespace GuessWorld

variable {world : GuessWorld} {ip : IpAddr} {time : ℕ}

theorem elapse_run (before : world.now ≤ time) :
    Run step (fun _ _ => True) world [.elapse (time - world.now)] { world with now := time } := by
  refine .cons trivial ?_ (.nil _)
  simp [step, Nat.add_sub_cancel' before]

theorem record_run (failed : world.inFlight = [.failed ip]) (before : world.now ≤ time) :
    Run step (fun _ _ => True) world [.elapse (time - world.now), .recordFailure 0]
      { world with
        now := time
        limiter := world.limiter.recordFailure time ip
        inFlight := [] } := by
  refine (elapse_run before).snoc trivial ?_
  simp [step, failed]

end GuessWorld

/-- A request that meets no other takes these steps: the gate leaves the limiter
as they do. -/
theorem requireActiveKey_run [Driver] (hashKey : String → String) (ambient : Ambient)
    (state : AppState)
    (request : Request) {world : GuessWorld} (same : world.limiter = state.rateLimiter)
    (alone : world.inFlight = []) (began : world.now ≤ ambient.checkedAt)
    (later : ambient.checkedAt ≤ ambient.failedAt) :
    ∃ events next, Run GuessWorld.step (fun _ _ => True) world events next ∧
      next.inFlight = [] ∧
      next.limiter = (requireActiveKey hashKey ambient state request).state.rateLimiter := by
  unfold requireActiveKey resolveKey
  generalize clientIp request.connectInfo = ip
  have recorded : world.limiter.recordFailure ambient.failedAt ip =
      state.rateLimiter.recordFailure ambient.failedAt ip := by
    rw [same]
  have elapsed := GuessWorld.elapse_run began
  cases checked : state.rateLimiter.check ambient.checkedAt ip with
  | error remaining =>
      have refused : GuessWorld.step { world with now := ambient.checkedAt } (.check ip) =
          some
            { world with
              now := ambient.checkedAt
              refusals := world.refusals ++ [(ambient.checkedAt, ip)] } := by
        simp only [GuessWorld.step, same, checked]
      exact ⟨_, _, elapsed.snoc trivial refused, alone, same⟩
  | ok =>
      have past : GuessWorld.step { world with now := ambient.checkedAt } (.check ip) =
          some { world with now := ambient.checkedAt, inFlight := [.checked ip] } := by
        simp only [GuessWorld.step, same, checked, alone]
      have passed := elapsed.snoc trivial past
      have left : GuessWorld.step
          { world with now := ambient.checkedAt, inFlight := [.checked ip] }
          (.authenticate 0 false) =
            some { world with now := ambient.checkedAt, inFlight := [] } := rfl
      cases key : request.rawKey with
      | none =>
          have missing : GuessWorld.step
              { world with now := ambient.checkedAt, inFlight := [.checked ip] }
              (.headerMissing 0) =
                some { world with now := ambient.checkedAt, inFlight := [.failed ip] } := rfl
          exact ⟨_, _, (passed.snoc trivial missing).append (GuessWorld.record_run rfl later), rfl,
            recorded⟩
      | some rawKey =>
          simp only []
          cases looked : state.store.authenticate hashKey ambient rawKey with
          | none => exact ⟨_, _, passed.snoc trivial left, rfl, same⟩
          | some outcome =>
              obtain ⟨store, found⟩ := outcome
              cases found with
              | none =>
                  have rejected : GuessWorld.step
                      { world with now := ambient.checkedAt, inFlight := [.checked ip] }
                      (.authenticate 0 true) =
                        some
                          { world with
                            now := ambient.checkedAt
                            inFlight := [.failed ip]
                            rejections := world.rejections ++ [(ambient.checkedAt, ip)] } := rfl
                  exact ⟨_, _, (passed.snoc trivial rejected).append
                    (GuessWorld.record_run rfl later), rfl, recorded⟩
              | some record =>
                  refine ⟨_, _, passed.snoc trivial left, rfl, ?_⟩
                  exact same.trans
                    (admitKey_rateLimiter hashKey ambient request { state with store } record).symm

theorem key_guessing_limited {maxFailures : UInt32} {window cooldown : ℕ}
    {events : List GuessEvent} {world : GuessWorld} (positive : 1 ≤ maxFailures.toNat)
    (cools : window ≤ cooldown)
    (run : Run GuessWorld.step GuessWorld.LeavesRoom (.fresh maxFailures window cooldown) events
      world) :
    world.GuessingLimited maxFailures window := by
  have bounded : ∀ ip, GuessWorld.Bounded world ip := by
    intro ip
    have preserved : ∀ state event next, GuessWorld.Bounded state ip →
        state.LeavesRoom event → state.step event = some next → GuessWorld.Bounded next ip :=
      fun _ _ _ bounded room taken => bounded.step room taken
    exact run.invariant preserved (GuessWorld.Bounded.fresh positive cools)
  have settings : (GuessWorld.fresh maxFailures window cooldown).SameSettings world := by
    have preserved : ∀ state event next,
        (GuessWorld.fresh maxFailures window cooldown).SameSettings state →
        state.LeavesRoom event → state.step event = some next →
        (GuessWorld.fresh maxFailures window cooldown).SameSettings next := by
      intro state event next same _ taken
      have step := GuessWorld.SameSettings.step taken
      exact ⟨step.maxFailures.trans same.maxFailures, step.window.trans same.window⟩
    exact run.invariant preserved ⟨rfl, rfl⟩
  have limited := GuessWorld.Bounded.guessingLimited bounded
  rw [settings.maxFailures, settings.window] at limited
  exact limited

/-! ## Two guesses at once -/

def guesser : IpAddr := .v4 0

/-- Two requests ask the limiter before either of them has failed. -/
def overlappingGuesses : List GuessEvent :=
  [.check guesser, .check guesser, .authenticate 0 true, .authenticate 1 true]

/-- The second request waits until the first has failed. -/
def guessesInTurn : List GuessEvent :=
  [.check guesser, .authenticate 0 true, .recordFailure 0, .elapse 5, .check guesser]

theorem overlapping_guesses_both_evaluated :
    ¬∀ (maxFailures : UInt32) (window cooldown : ℕ) (events : List GuessEvent)
      (world : GuessWorld), 1 ≤ maxFailures.toNat → window ≤ cooldown →
      Run GuessWorld.step (fun _ _ => True) (.fresh maxFailures window cooldown) events world →
      ∀ ip start, world.rejectedWithin ip start ≤ maxFailures.toNat := by
  intro claim
  obtain ⟨world, run, checked⟩ : ∃ world,
      Run GuessWorld.step (fun _ _ => true = true) (.fresh 1 60 60) overlappingGuesses world ∧
      decide (world.rejectedWithin guesser 0 = 2) = true :=
    Run.exists_of_runEvents (by decide +kernel)
  have few := claim 1 60 60 _ world (by decide) (le_refl _) (run.weaken fun _ _ _ => trivial)
    guesser 0
  rw [of_decide_eq_true checked] at few
  exact absurd few (by decide)

theorem key_guessing_limited_in_turn :
    ∃ world, Run GuessWorld.step GuessWorld.LeavesRoom (.fresh 1 60 60) guessesInTurn world ∧
      world.GuessingLimited 1 60 ∧ world.rejectedWithin guesser 0 = 1 ∧
      world.refusals = [(5, guesser)] := by
  obtain ⟨world, run, checked⟩ : ∃ world,
      Run GuessWorld.step (fun state event => decide (state.LeavesRoom event) = true)
        (.fresh 1 60 60) guessesInTurn world ∧
      decide (world.rejectedWithin guesser 0 = 1 ∧ world.refusals = [(5, guesser)]) = true :=
    Run.exists_of_runEvents (by decide +kernel)
  have guarded := run.weaken fun _ _ allowed => of_decide_eq_true allowed
  obtain ⟨rejected, refused⟩ := of_decide_eq_true checked
  exact ⟨world, guarded, key_guessing_limited (by decide) (le_refl 60) guarded, rejected, refused⟩

end SpellServer
