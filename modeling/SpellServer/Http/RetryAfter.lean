import SpellServer.Http.Authorization
import SpellServer.Http.LimiterHistory
import SpellServer.Library.Decimal

/-!
# Waiting as long as advertised

A gate that refuses an address tells it how many seconds to wait.  The number is
the rest of the cooldown without its fraction of a second.
-/

namespace SpellServer

open Library

/-- The header of an answer that the gates give themselves. -/
def Verdict.retryAfter [Driver] : Verdict → Option String
  | .respond _ response => response.retryAfter
  | _ => none

/-- The gates that ask the limiter. -/
inductive KeyGate where
  | activeKey
  | platformKey
  | dictionaryAdmin
deriving DecidableEq, Repr

namespace KeyGate

variable [Driver] (hashKey : String → String) (ambient : Ambient)

def serve (gate : KeyGate) (state : AppState) (request : Request) : Verdict :=
  match gate with
  | .activeKey => requireActiveKey hashKey ambient state request
  | .platformKey => requirePlatformKey hashKey ambient state request
  | .dictionaryAdmin => requireDictionaryAdmin hashKey ambient state request

/-- The address that the limiter is asked about. -/
def address (gate : KeyGate) (state : AppState) (request : Request) : IpAddr :=
  match gate with
  | .activeKey | .platformKey => clientIp request.connectInfo
  | .dictionaryAdmin => request.resolvedIp state.config

end KeyGate

section

variable [Driver] {hashKey : String → String} {ambient : Ambient} {state : AppState}
  {request : Request}

theorem admitKey_retryAfter (record : KeyRecord) :
    (admitKey hashKey ambient request state record).retryAfter = none := by
  unfold admitKey
  split <;> rfl

/-- Only a cooldown is answered with a time to wait. -/
theorem resolveKey_limited {ip : IpAddr} {accept : AppState → KeyRecord → Verdict}
    (silent : ∀ resolved record, (accept resolved record).retryAfter = none) {text : String}
    (limited : (resolveKey hashKey ambient ip state request accept).retryAfter = some text) :
    ∃ remaining, state.rateLimiter.check ambient.checkedAt ip = .error remaining ∧
      resolveKey hashKey ambient ip state request accept =
        .reject state (.rateLimited (max (asSecs remaining) 1)) := by
  unfold resolveKey at limited ⊢
  cases checked : state.rateLimiter.check ambient.checkedAt ip with
  | error remaining => exact ⟨remaining, rfl, rfl⟩
  | ok =>
      simp only [checked] at limited
      cases key : request.rawKey with
      | none =>
          simp only [key] at limited
          cases limited
      | some rawKey =>
          simp only [key] at limited
          cases looked : state.store.authenticate hashKey ambient rawKey with
          | none =>
              simp only [looked] at limited
              cases limited
          | some outcome =>
              obtain ⟨store, found⟩ := outcome
              simp only [looked] at limited
              cases found with
              | none => cases limited
              | some record =>
                  rw [silent] at limited
                  cases limited

/-- All three gates make the same answer of the limiter's. -/
theorem KeyGate.serve_limited {gate : KeyGate} {after : AppState} {seconds : ℕ}
    (answered : gate.serve hashKey ambient state request = .reject after (.rateLimited seconds)) :
    after = state ∧ ∃ remaining,
      state.rateLimiter.check ambient.checkedAt (gate.address state request) = .error remaining ∧
        seconds = max (asSecs remaining) 1 := by
  have header :
      (gate.serve hashKey ambient state request).retryAfter = some (toString seconds) := by
    rw [answered]
    rfl
  have refused : ∃ remaining,
      state.rateLimiter.check ambient.checkedAt (gate.address state request) = .error remaining ∧
        gate.serve hashKey ambient state request =
          .reject state (.rateLimited (max (asSecs remaining) 1)) := by
    cases gate with
    | activeKey =>
        exact resolveKey_limited (fun _ record => admitKey_retryAfter record) header
    | platformKey =>
        simp only [serve, requirePlatformKey] at header ⊢
        split at header
        · cases header
        · rename_i absent
          rw [if_neg absent]
          refine resolveKey_limited ?_ header
          intro resolved record
          split
          · rfl
          · exact admitKey_retryAfter record
    | dictionaryAdmin =>
        simp only [serve, requireDictionaryAdmin] at header ⊢
        split at header
        · cases header
        · rename_i absent
          rw [if_neg absent]
          refine resolveKey_limited ?_ header
          intro resolved record
          split
          · rfl
          · split
            · rfl
            · exact admitKey_retryAfter record
  obtain ⟨remaining, checked, same⟩ := refused
  obtain ⟨states, responses⟩ := Verdict.respond.inj (answered.symm.trans same)
  have texts := congrArg ProblemResponse.retryAfter responses
  have digits := congrArg String.toList (Option.some_inj.mp texts)
  simp only [toString, Nat.toList_repr] at digits
  exact ⟨states, remaining, checked, Decimal.toDigits_injective digits⟩

end

/-! ## Waiting -/

namespace RateLimiter

/-- After that many seconds the address is not refused, unless it fails again. -/
def WaitSuffices (limiter : RateLimiter) (ip : IpAddr) (now seconds : ℕ) : Prop :=
  ∀ calls, LimiterCall.failures ip calls = [] →
    ∀ later, now + seconds * 1000000000 ≤ later → (limiter.run calls).check later ip = .ok ()

/-- At most one second is left of the cooldown, or a whole number of seconds. -/
def WholeSecondsLeft (limiter : RateLimiter) (ip : IpAddr) (now : ℕ) : Prop :=
  ∀ cooldownEnd, limiter.cooldownOf ip = some cooldownEnd →
    cooldownEnd ≤ now + 1000000000 ∨ 1000000000 ∣ cooldownEnd - now

theorem waitSuffices_iff {limiter : RateLimiter} {ip : IpAddr} {now remaining : ℕ}
    (checked : limiter.check now ip = .error remaining) :
    limiter.WaitSuffices ip now (max (asSecs remaining) 1) ↔ limiter.WholeSecondsLeft ip now := by
  obtain ⟨cooldownEnd, cooling, early, rfl⟩ := (check_eq_error_iff ..).mp checked
  unfold asSecs
  constructor
  · intro suffices_ other otherCooling
    cases cooling.symm.trans otherCooling
    have passed := check_eq_ok (suffices_ [] rfl _ (le_refl _)) cooldownEnd cooling
    omega
  · intro whole calls quiet later waited
    rw [check_eq_ok_iff, cooldownOf_run limiter quiet]
    intro other otherCooling
    cases cooling.symm.trans otherCooling
    rcases whole cooldownEnd cooling with short | divides <;> omega

end RateLimiter

/-- The advertised time is enough exactly where it was not cut off. -/
theorem retry_after_suffices_iff [Driver] {hashKey : String → String} {ambient : Ambient}
    {state after : AppState} {request : Request} {gate : KeyGate} {seconds : ℕ}
    (answered : gate.serve hashKey ambient state request = .reject after (.rateLimited seconds)) :
    after.rateLimiter.WaitSuffices (gate.address state request) ambient.checkedAt seconds ↔
      state.rateLimiter.WholeSecondsLeft (gate.address state request) ambient.checkedAt := by
  obtain ⟨rfl, remaining, checked, rfl⟩ := KeyGate.serve_limited answered
  exact RateLimiter.waitSuffices_iff checked

open scoped DefaultBackend

/-- The server of the defaults, after ten failures at one instant. -/
def lockedOut : AppState :=
  { AppState.started (.reload .empty) unrestricted with
    rateLimiter := (RateLimiter.new 10 60000000000 60000000000).run
      (List.replicate 10 (.recordFailure 0 guesser)) }

def askedAt (now : ℕ) : Ambient := { sampleAmbient with checkedAt := now }

theorem cut_off_half_second :
    KeyGate.activeKey.serve sampleHash (askedAt 500000000) lockedOut (.arriving [] none) =
        .reject lockedOut (.rateLimited 59) ∧
      ¬lockedOut.rateLimiter.WaitSuffices guesser 500000000 59 := by
  constructor
  · rfl
  · intro enough
    have passed := enough [] rfl 59500000000 (by decide)
    have refused : lockedOut.rateLimiter.check 59500000000 guesser = .error 500000000 := by
      decide +kernel
    cases refused.symm.trans passed

theorem whole_second_waited : lockedOut.rateLimiter.WaitSuffices guesser 1000000000 59 := by
  have answered : KeyGate.activeKey.serve sampleHash (askedAt 1000000000) lockedOut
      (.arriving [] none) = .reject lockedOut (.rateLimited 59) := rfl
  apply (retry_after_suffices_iff answered).mpr
  intro cooldownEnd cooling
  have ends : lockedOut.rateLimiter.cooldownOf guesser = some 60000000000 := by decide +kernel
  cases ends.symm.trans cooling
  exact Or.inr (by decide)

end SpellServer
