import SpellServer.Library.Dict
import SpellServer.Net.Cidr

/-!
# The limiter of authentication failures

A sliding window of failures for each address, and a cooldown once the window
is full.  Instants and durations count nanoseconds of the monotonic clock and
do not overflow here.
-/

namespace SpellServer

open Library

structure FailureWindow where
  failures : List ℕ
  cooldownUntil : Option ℕ
deriving DecidableEq, Repr

structure RateLimiter where
  state : Dict IpAddr FailureWindow
  maxFailures : UInt32
  window : ℕ
  cooldown : ℕ

/-- `Duration::as_secs`. -/
def asSecs (duration : ℕ) : ℕ := duration / 1000000000

namespace RateLimiter

def new (maxFailures : UInt32) (window cooldown : ℕ) : RateLimiter :=
  { state := ∅, maxFailures, window, cooldown }

/-- `Err` carries the time that remains. -/
def check (limiter : RateLimiter) (now : ℕ) (ip : IpAddr) : Except ℕ Unit :=
  match (limiter.state.lookup ip).bind FailureWindow.cooldownUntil with
  | some cooldownEnd => if now < cooldownEnd then .error (cooldownEnd - now) else .ok ()
  | none => .ok ()

def recordFailure (limiter : RateLimiter) (now : ℕ) (ip : IpAddr) : RateLimiter :=
  let entry := (limiter.state.lookup ip).getD { failures := [], cooldownUntil := none }
  let failures := entry.failures.filter (fun time => now - time < limiter.window) ++ [now]
  let entry :=
    if UInt32.ofNat failures.length ≥ limiter.maxFailures then
      { failures := [], cooldownUntil := some (now + limiter.cooldown) }
    else { entry with failures }
  { limiter with state := limiter.state.insert ip entry }

/-- A cooldown of the address has not ended. -/
def InCooldown (limiter : RateLimiter) (now : ℕ) (ip : IpAddr) : Prop :=
  ∃ entry cooldownEnd, limiter.state.lookup ip = some entry ∧
    entry.cooldownUntil = some cooldownEnd ∧ now < cooldownEnd

theorem check_cases (limiter : RateLimiter) (now : ℕ) (ip : IpAddr) :
    (∃ remaining, limiter.check now ip = .error remaining ∧ limiter.InCooldown now ip) ∨
      limiter.check now ip = .ok () ∧ ¬limiter.InCooldown now ip := by
  unfold check
  cases stored : limiter.state.lookup ip with
  | none =>
      right
      refine ⟨rfl, ?_⟩
      intro cooling
      obtain ⟨entry, cooldownEnd, found, _⟩ := cooling
      cases stored.symm.trans found
  | some entry =>
      cases started : entry.cooldownUntil with
      | none =>
          right
          refine ⟨by simp [started], ?_⟩
          intro cooling
          obtain ⟨other, cooldownEnd, found, until_, _⟩ := cooling
          cases stored.symm.trans found
          cases started.symm.trans until_
      | some cooldownEnd =>
          by_cases early : now < cooldownEnd
          · left
            exact ⟨cooldownEnd - now, by simp [started, early], entry, cooldownEnd, stored,
              started, early⟩
          · right
            refine ⟨by simp [started, early], ?_⟩
            intro cooling
            obtain ⟨other, otherEnd, found, until_, before⟩ := cooling
            cases stored.symm.trans found
            cases started.symm.trans until_
            exact early before

end RateLimiter

end SpellServer
