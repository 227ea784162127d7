import SpellServer.Http.Billing
import SpellServer.Store.Suspension

/-!
# Suspended tenants at the gates

A key of a suspended tenant gets as far as `require_active_tenant`, or the `admin`
arm of `require_usage_scope`, and no further.
-/

namespace SpellServer

open Library

/-- Whoever presents a key of the tenant is told that the tenant is suspended, and
pays nothing, on every route that acts for a tenant. -/
def ShutOut [Driver] (hashKey : String → String) (store : Store) (id : String) : Prop :=
  ∀ ambient (state later : AppState) (request : Request) (record : KeyRecord),
    state.store = store →
    requireActiveKey hashKey ambient state request =
      .next later { request with keyRecord := some record } →
    record.tenantId = some id →
    (∀ group : RouteGroup,
      group.tenantScoped = true ∨ group = .usage ∧ record.role ≠ .platform →
      group.serve hashKey ambient state request = .reject later .forbidden) ∧
    ∀ tenantId, later.unitsConsumed tenantId = state.unitsConsumed tenantId

section

variable [Driver] {hashKey : String → String} {ambient : Ambient} {state : AppState}
  {request : Request} {record : KeyRecord} {id : String}

omit [Driver] in
theorem Store.tenantSuspended_eq (store : Store) (id : String) :
    store.tenantSuspended id = (store.suspension id).getD false := rfl

theorem requireActiveTenant_suspended (held : request.keyRecord = some record)
    (owner : record.tenantId = some id) (suspended : state.store.suspension id = some true) :
    requireActiveTenant state request = .reject state .forbidden := by
  rw [requireActiveTenant, withTenant_eq held owner, Store.tenantSuspended_eq, suspended]
  rfl

theorem requireUsageScope_suspended (held : request.keyRecord = some record)
    (owner : record.tenantId = some id) (suspended : state.store.suspension id = some true)
    (own : record.role ≠ .platform) :
    requireUsageScope state request = .reject state .forbidden := by
  obtain ⟨info, known, stamped⟩ := Option.map_eq_some_iff.mp suspended
  cases role : record.role with
  | platform => exact absurd role own
  | standard => simp [requireUsageScope, held, role]
  | admin => simp [requireUsageScope, held, role, owner, known, stamped]

theorem shutOut_of_suspension {store : Store} (suspended : store.suspension id = some true) :
    ShutOut hashKey store id := by
  intro ambient state later request record same passed owner
  have free : (requireActiveKey hashKey ambient state request).Free state := requireActiveKey_free
  rw [passed] at free
  refine ⟨?_, free⟩
  have tenants : later.store.tenants = state.store.tenants := by
    rcases requireActiveKey_cases hashKey ambient state request with
      ⟨_, _, rejected, _⟩ | ⟨poisoned, _⟩ | ⟨accepting, other, resolves, accepted⟩
    · cases rejected.symm.trans passed
    · cases poisoned.symm.trans passed
    · cases resolves.symm.trans passed
      exact accepted.tenants
  have still : later.store.suspension id = some true := by
    rw [Store.suspension, Store.getTenant, tenants, same]
    exact suspended
  have keyGate : runLayers hashKey ambient [.requireActiveKey] state request =
      .next later { request with keyRecord := some record } := passed
  have tenantGate : runLayers hashKey ambient [.requireActiveTenant, .requireActiveKey] state
      request = .reject later .forbidden := by
    calc
      _ = (runLayers hashKey ambient [.requireActiveKey] state request).andThen
          requireActiveTenant := rfl
      _ = requireActiveTenant later { request with keyRecord := some record } := by
        rw [keyGate, Verdict.andThen_next]
      _ = .reject later .forbidden := requireActiveTenant_suspended rfl owner still
  have originGate : runLayers hashKey ambient
      [.requireOriginBinding, .requireActiveTenant, .requireActiveKey] state request =
        .reject later .forbidden := by
    calc
      _ = (runLayers hashKey ambient [.requireActiveTenant, .requireActiveKey] state
          request).andThen requireOriginBinding := rfl
      _ = .reject later .forbidden := by rw [tenantGate, Verdict.andThen_reject]
  intro group closed
  cases group with
  | tenant => exact originGate
  | apiKeys | tenantOrigins =>
      have outer : (runLayers hashKey ambient
          [.requireOriginBinding, .requireActiveTenant, .requireActiveKey] state request).andThen
            requireAdmin = .reject later .forbidden := by rw [originGate, Verdict.andThen_reject]
      exact outer
  | spellcheck =>
      have outer : ((runLayers hashKey ambient
          [.requireOriginBinding, .requireActiveTenant, .requireActiveKey] state request).andThen
            (requireQuota hashKey ambient)).andThen recordUsage = .reject later .forbidden := by
        rw [originGate, Verdict.andThen_reject, Verdict.andThen_reject]
      exact outer
  | usage =>
      obtain ⟨_, own⟩ := closed.resolve_left (by simp [RouteGroup.tenantScoped])
      have outer : (runLayers hashKey ambient [.requireActiveKey] state request).andThen
          requireUsageScope = .reject later .forbidden := by
        rw [keyGate, Verdict.andThen_next]
        exact requireUsageScope_suspended rfl owner still own
      exact outer
  | tenants | dictionaries => simp [RouteGroup.tenantScoped] at closed

end

/-- A suspension whose call overlaps no reactivation, and is followed by none, is
in the row and in the cache after every later run, and the tenant's keys are shut
out. -/
theorem suspension_lasts [Driver] {hashKey : String → String} {start finish : World}
    {events : List Event} {ticket : ℕ} {id : String}
    (reached : World.Reachable hashKey start) (unmade : start.calls.lookup ticket = none)
    (unopposed : start.Unopposed id true)
    (run : World.RunWhen hashKey (fun _ event => event.suspends id false = false) start events
      finish)
    (returned : finish.calls.Returned ticket (.setSuspended id true) (.setSuspended true)) :
    finish.store.SuspensionIs id true ∧ ShutOut hashKey finish.store id := by
  have settled := World.suspension_settles reached unmade unopposed run returned
  exact ⟨settled, shutOut_of_suspension settled.cached⟩

open scoped DefaultBackend

/-- A tenant is suspended while a `PATCH` of it is under way; then the server is
started anew. -/
def suspendedWhilePatched : List Event :=
  let tenantId := (sampleId 1).text
  let patch : TenantPatch :=
    { name := some "Acme Corporation"
      language := none
      quotaLimit := some 500
      requestCount := none
      periodStart := none
      periodEnd := none }
  [.call 1 (.updateTenant tenantId patch), .act 1 (sampleInput 0 4),
    .call 2 (.setSuspended tenantId true), .act 2 (sampleInput 0 4), .act 2 (sampleInput 0 4),
    .act 1 (sampleInput 0 4), .act 2 (sampleInput 0 4), .act 1 (sampleInput 0 4),
    .restart (sampleInput 0 4).now (sampleInput 0 4)]

theorem suspension_lasts_while_patched :
    ∃ finish, World.Reachable sampleHash finish ∧
      (finish.store.getTenant (sampleId 1).text).map TenantInfo.quotaLimit = some 500 ∧
      finish.store.SuspensionIs (sampleId 1).text true ∧
      ShutOut sampleHash finish.store (sampleId 1).text := by
  obtain ⟨start, finish, first, second, outcome⟩ :=
    World.exists_runs sampleHash (fun _ _ => true)
      (fun _ event => !event.suspends (sampleId 1).text false) tenantSetup suspendedWhilePatched
      (fun start finish => decide start.calls.Quiescent &&
        decide (start.calls.lookup 2 = none) &&
        decide (finish.calls.Returned 2 (.setSuspended (sampleId 1).text true)
          (.setSuspended true)) &&
        decide ((finish.store.getTenant (sampleId 1).text).map TenantInfo.quotaLimit = some 500))
      (by decide +kernel)
  obtain ⟨⟨⟨quiescent, unmade⟩, returned⟩, quota⟩ :
      ((start.calls.Quiescent ∧ start.calls.lookup 2 = none) ∧
        finish.calls.Returned 2 (.setSuspended (sampleId 1).text true) (.setSuspended true)) ∧
        (finish.store.getTenant (sampleId 1).text).map TenantInfo.quotaLimit = some 500 := by
    simpa only [Bool.and_eq_true, decide_eq_true_eq] using outcome
  have unopposed : start.Unopposed (sampleId 1).text true := by
    intro ticket suspends
    obtain ⟨frame, running, _⟩ := World.frameAt_of_suspending suspends
    rw [quiescent ticket] at running
    cases running
  have begun : World.Reachable sampleHash start :=
    ⟨tenantSetup, first.weaken fun _ _ _ => trivial⟩
  have unasked : World.RunWhen sampleHash
      (fun _ event => event.suspends (sampleId 1).text false = false) start suspendedWhilePatched
      finish :=
    second.weaken fun _ _ allowed => by simpa using allowed
  refine ⟨finish, ⟨tenantSetup ++ suspendedWhilePatched, ?_⟩, quota,
    suspension_lasts begun unmade unopposed unasked returned⟩
  exact (first.weaken fun _ _ _ => trivial).append (second.weaken fun _ _ _ => trivial)

end SpellServer
