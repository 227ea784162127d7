import SpellServer.Http.Authorization
import SpellServer.Store.KeyShapes

/-!
# When the gates panic

Every gate behind the key gate expects the caller's record in the extensions,
and most expect a tenant in the record.  The stacks provide the first in every
group; the second fails for a platform key on a tenant-scoped group, which
panics in `require_active_tenant` before `require_admin` could refuse it.
-/

namespace SpellServer

open Library

section

variable [Driver]

namespace Verdict

@[simp] theorem andThen_pass (verdict : Verdict) : verdict.andThen .next = verdict := by
  cases verdict <;> rfl

theorem isPanic_andThen {verdict : Verdict} (panics : verdict.isPanic = true)
    (later : AppState → Request → Verdict) : (verdict.andThen later).isPanic = true := by
  cases verdict with
  | panicked => rfl
  | respond | next => cases panics

theorem andThen_assoc (verdict : Verdict) (first second : AppState → Request → Verdict) :
    (verdict.andThen first).andThen second =
      verdict.andThen fun state request => (first state request).andThen second := by
  cases verdict <;> rfl

/-- No panic, and the record is still in the extensions. -/
def Carries (record : KeyRecord) : Verdict → Prop
  | .respond _ _ => True
  | .panicked _ _ => False
  | .next _ request => request.keyRecord = some record

@[simp] theorem carries_reject (record : KeyRecord) (state : AppState) (error : AppError) :
    (reject state error).Carries record := trivial

theorem Carries.not_isPanic {record : KeyRecord} {verdict : Verdict}
    (carries : verdict.Carries record) : verdict.isPanic = false := by
  cases verdict with
  | panicked => exact carries.elim
  | respond | next => rfl

theorem Carries.andThen {record : KeyRecord} {verdict : Verdict}
    {later : AppState → Request → Verdict} (carries : verdict.Carries record)
    (continues : ∀ state request, request.keyRecord = some record →
      (later state request).Carries record) : (verdict.andThen later).Carries record := by
  cases verdict with
  | respond => trivial
  | panicked => exact carries.elim
  | next state request => exact continues state request carries

end Verdict

section

variable {hashKey : String → String} {ambient : Ambient} {state : AppState} {request : Request}

theorem runLayers_append (inner outer : List Layer) :
    runLayers hashKey ambient (inner ++ outer) state request =
      (runLayers hashKey ambient outer state request).andThen
        (runLayers hashKey ambient inner) := by
  induction inner with
  | nil => exact (Verdict.andThen_pass _).symm
  | cons layer inner induction =>
      rw [List.cons_append, runLayers, induction, Verdict.andThen_assoc]
      rfl

/-! ## Gates that get what they expect -/

/-- The layers that only tenant-scoped groups have. -/
def Layer.forTenant : Layer → Bool
  | .recordUsage | .requireQuota | .requireOriginBinding | .requireActiveTenant
  | .requireAdmin => true
  | .requireActiveKey | .requireUsageScope | .requirePlatformKey
  | .requireDictionaryAdmin => false

theorem Layer.carries {layer : Layer} {record : KeyRecord} {tenantId : String}
    (expects : layer.forTenant = true) (held : request.keyRecord = some record)
    (owned : record.tenantId = some tenantId) :
    (layer.run hashKey ambient state request).Carries record := by
  cases layer with
  | recordUsage =>
      simp only [Layer.run, SpellServer.recordUsage, withTenant_eq held owned]
      exact held
  | requireQuota =>
      simp only [Layer.run, SpellServer.requireQuota, withTenant_eq held owned]
      split
      · trivial
      · exact held
  | requireOriginBinding =>
      simp only [Layer.run, SpellServer.requireOriginBinding, withTenant_eq held owned]
      (repeat' split) <;> trivial
  | requireActiveTenant =>
      simp only [Layer.run, SpellServer.requireActiveTenant, withTenant_eq held owned]
      split
      · trivial
      · exact held
  | requireAdmin =>
      simp only [Layer.run, SpellServer.requireAdmin, held]
      split
      · trivial
      · exact held
  | requireActiveKey | requireUsageScope | requirePlatformKey | requireDictionaryAdmin =>
      cases expects

theorem runLayers_carries {layers : List Layer} {record : KeyRecord} {tenantId : String}
    (expects : ∀ layer ∈ layers, layer.forTenant = true)
    (held : request.keyRecord = some record) (owned : record.tenantId = some tenantId) :
    (runLayers hashKey ambient layers state request).Carries record := by
  induction layers with
  | nil => exact held
  | cons layer layers induction =>
      have outer := induction fun other member => expects other (List.mem_cons_of_mem layer member)
      apply outer.andThen
      intro middle between carried
      exact Layer.carries (expects layer List.mem_cons_self) carried owned

theorem requireUsageScope_total {record : KeyRecord} (held : request.keyRecord = some record) :
    (requireUsageScope state request).isPanic = false := by
  simp only [requireUsageScope, held]
  (repeat' split) <;> rfl

theorem resolveKey_isPanic {ip : IpAddr} {accept : AppState → KeyRecord → Verdict}
    (calm : ∀ later record, KeyAccepted hashKey ambient ip state request record later →
      later.store.keysPoisoned = false → (accept later record).isPanic = false) :
    (resolveKey hashKey ambient ip state request accept).isPanic = true ↔
      LookupPoisoned ambient ip state request := by
  rcases resolveKey_cases hashKey ambient ip state request accept with
    ⟨later, error, rejected, _, healthy⟩ | ⟨panics, poisoned⟩ |
    ⟨later, record, resolved, accepted, unpoisoned⟩
  · simp [rejected, healthy]
  · simp [panics, poisoned]
  · rw [resolved, calm later record accepted unpoisoned]
    obtain ⟨healthy, _⟩ := presentedKey_eq_some hashKey ambient accepted.presented
    constructor
    · intro panics
      cases panics
    · intro poisoned
      cases healthy.symm.trans poisoned.poisoned

theorem admitKey_calm {ip : IpAddr} {later : AppState} {record : KeyRecord}
    (accepted : KeyAccepted hashKey ambient ip state request record later)
    (healthy : later.store.keysPoisoned = false) :
    (admitKey hashKey ambient request later record).isPanic = false := by
  obtain ⟨after, admits, _⟩ := accepted.admitted healthy
  rw [admits]
  rfl

theorem requireActiveKey_isPanic :
    (requireActiveKey hashKey ambient state request).isPanic = true ↔
      LookupPoisoned ambient (clientIp request.connectInfo) state request :=
  resolveKey_isPanic fun _ _ => admitKey_calm

theorem requirePlatformKey_isPanic :
    (requirePlatformKey hashKey ambient state request).isPanic = true ↔
      request.headers.containsKey "origin" = false ∧
        LookupPoisoned ambient (clientIp request.connectInfo) state request := by
  unfold requirePlatformKey
  cases request.headers.containsKey "origin" with
  | true => simp
  | false =>
      simp only [Bool.false_eq_true, if_false, true_and]
      apply resolveKey_isPanic
      intro later record accepted healthy
      split
      · rfl
      · exact admitKey_calm accepted healthy

theorem requireDictionaryAdmin_isPanic :
    (requireDictionaryAdmin hashKey ambient state request).isPanic = true ↔
      request.headers.containsKey "origin" = false ∧
        LookupPoisoned ambient (request.resolvedIp state.config) state request := by
  unfold requireDictionaryAdmin
  cases request.headers.containsKey "origin" with
  | true => simp
  | false =>
      simp only [Bool.false_eq_true, if_false, true_and]
      apply resolveKey_isPanic
      intro later record accepted healthy
      split
      · rfl
      · split
        · rfl
        · exact admitKey_calm accepted healthy

end

/-! ## The stacks -/

/-- The key gate of the group gets as far as the lock of the key cache, and a
panic has poisoned that lock. -/
def RouteGroup.MeetsPoisonedLock (group : RouteGroup) (ambient : Ambient) (state : AppState)
    (request : Request) : Prop :=
  (group = .tenants ∨ group = .dictionaries → request.headers.containsKey "origin" = false) ∧
    LookupPoisoned ambient (group.callerIp state.config request) state request

/-- An active platform key is presented to a tenant-scoped group. -/
def RouteGroup.PlatformKeyAstray (group : RouteGroup) (hashKey : String → String)
    (ambient : Ambient) (store : Store) (request : Request) : Prop :=
  group.tenantScoped = true ∧
    ∃ record, presentedKey hashKey ambient store request = some record ∧ record.role = .platform

/-- The stack of the group answers or reaches the handler, and answers a
platform key on a tenant-scoped group with 403. -/
structure RouteGroup.Total (group : RouteGroup) (hashKey : String → String) (ambient : Ambient)
    (state : AppState) (request : Request) : Prop where
  calm : (group.serve hashKey ambient state request).isPanic = false
  refuses : group.PlatformKeyAstray hashKey ambient state.store request →
    (group.serve hashKey ambient state request).status = some 403

omit [Driver] in
theorem RouteGroup.tenantScoped_layers {group : RouteGroup} (own : group.tenantScoped = true) :
    ∃ inner, (∀ layer ∈ inner, layer.forTenant = true) ∧
      group.routeLayers = inner ++ [.requireActiveTenant] ++ [.requireActiveKey] := by
  cases group with
  | spellcheck =>
      exact ⟨[.recordUsage, .requireQuota, .requireOriginBinding], by decide, rfl⟩
  | apiKeys | tenantOrigins =>
      exact ⟨[.requireAdmin, .requireOriginBinding], by decide, rfl⟩
  | tenant => exact ⟨[.requireOriginBinding], by decide, rfl⟩
  | usage | tenants | dictionaries => cases own

/-- Wherever the record of a presented key comes from, it has a tenant exactly
if it is no platform key. -/
theorem World.KeysShaped.presented {hashKey : String → String} {ambient : Ambient} {world : World}
    {request : Request} {record : KeyRecord} (shaped : world.KeysShaped)
    (written : world.store.pool.Written)
    (presented : presentedKey hashKey ambient world.store request = some record) :
    record.Shaped := by
  obtain ⟨_, _, rawKey, _, cached | ⟨row, selected, rfl⟩⟩ :=
    presentedKey_eq_some hashKey ambient presented
  · exact shaped.store.cached _ record cached
  · exact shaped.store.loaded written (findBy_mem selected).1

section

variable {group : RouteGroup}

theorem RouteGroup.serve_behind_key (hashKey : String → String) (ambient : Ambient)
    (state : AppState) (request : Request) {inner : List Layer}
    (layers : group.routeLayers = inner ++ [.requireActiveKey]) :
    group.serve hashKey ambient state request =
      (requireActiveKey hashKey ambient state request).andThen
        (runLayers hashKey ambient inner) := by
  rw [serve, layers, runLayers_append]
  rfl

variable {hashKey : String → String} {ambient : Ambient} {state : AppState} {request : Request}

theorem RouteGroup.panics_on_poisoned_lock (poisoned : group.MeetsPoisonedLock ambient state request) :
    (group.serve hashKey ambient state request).isPanic = true := by
  obtain ⟨noOrigin, poisoned⟩ := poisoned
  have behindKey : ∀ inner, group.routeLayers = inner ++ [.requireActiveKey] →
      group.callerIp state.config request = clientIp request.connectInfo →
      (group.serve hashKey ambient state request).isPanic = true := by
    intro inner layers sameIp
    rw [group.serve_behind_key hashKey ambient state request layers]
    apply Verdict.isPanic_andThen
    apply requireActiveKey_isPanic.mpr
    rw [← sameIp]
    exact poisoned
  cases group with
  | tenants => exact requirePlatformKey_isPanic.mpr ⟨noOrigin (Or.inl rfl), poisoned⟩
  | dictionaries => exact requireDictionaryAdmin_isPanic.mpr ⟨noOrigin (Or.inr rfl), poisoned⟩
  | usage => exact behindKey [.requireUsageScope] rfl rfl
  | spellcheck => exact behindKey [.recordUsage, .requireQuota, .requireOriginBinding,
      .requireActiveTenant] rfl rfl
  | tenant => exact behindKey [.requireOriginBinding, .requireActiveTenant] rfl rfl
  | apiKeys | tenantOrigins =>
      exact behindKey [.requireAdmin, .requireOriginBinding, .requireActiveTenant] rfl rfl

/-- The record of a platform key stops at the `expect` of `require_active_tenant`. -/
theorem RouteGroup.platform_key_not_refused
    (astray : group.PlatformKeyAstray hashKey ambient state.store request)
    (tenantless : ∀ record, presentedKey hashKey ambient state.store request = some record →
      record.Shaped) : ¬group.Total hashKey ambient state request := by
  intro total
  obtain ⟨own, record, presented, platform⟩ := astray
  obtain ⟨inner, _, layers⟩ := RouteGroup.tenantScoped_layers own
  have served := group.serve_behind_key hashKey ambient state request layers
  have refused := total.refuses ⟨own, record, presented, platform⟩
  rcases requireActiveKey_cases hashKey ambient state request with
    ⟨later, error, rejected, other, _⟩ | ⟨panics, _⟩ | ⟨later, found, passed, accepted⟩
  · rw [served, rejected, Verdict.andThen_reject, Verdict.status_reject] at refused
    exact other (Option.some.inj refused)
  · rw [served, panics, Verdict.andThen_panicked, Verdict.status_panicked] at refused
    cases refused
  · cases presented.symm.trans accepted.presented
    have noTenant : record.tenantId = none := (tenantless record presented).mpr platform
    have panics : (runLayers hashKey ambient [.requireActiveTenant] later
        { request with keyRecord := some record }).isPanic = true := by
      simp [runLayers, Layer.run, requireActiveTenant, withTenant, noTenant]
    have calm := total.calm
    rw [served, passed, Verdict.andThen_next, runLayers_append,
      Verdict.isPanic_andThen panics] at calm
    cases calm

theorem RouteGroup.calm_behind_key (inner : List Layer)
    (layers : group.routeLayers = inner ++ [.requireActiveKey])
    (healthy : ¬LookupPoisoned ambient (clientIp request.connectInfo) state request)
    (continues : ∀ later record, presentedKey hashKey ambient state.store request = some record →
      (runLayers hashKey ambient inner later
        { request with keyRecord := some record }).isPanic = false) :
    (group.serve hashKey ambient state request).isPanic = false := by
  rw [group.serve_behind_key hashKey ambient state request layers]
  rcases requireActiveKey_cases hashKey ambient state request with
    ⟨later, error, rejected, _⟩ | ⟨_, poisoned⟩ | ⟨later, record, passed, accepted⟩
  · rw [rejected]
    rfl
  · exact absurd poisoned healthy
  · rw [passed]
    exact continues later record accepted.presented

/-- Any other key has the tenant that the gates expect. -/
theorem RouteGroup.calm_of_healthy
    (shaped : ∀ record, presentedKey hashKey ambient state.store request = some record →
      record.Shaped)
    (found : ¬group.PlatformKeyAstray hashKey ambient state.store request)
    (healthy : ¬group.MeetsPoisonedLock ambient state request) :
    (group.serve hashKey ambient state request).isPanic = false := by
  have atTenant : group.tenantScoped = true →
      ¬LookupPoisoned ambient (clientIp request.connectInfo) state request →
      (group.serve hashKey ambient state request).isPanic = false := by
    intro own healthy
    obtain ⟨inner, expects, layers⟩ := RouteGroup.tenantScoped_layers own
    apply group.calm_behind_key _ layers healthy
    intro later record presented
    have tenanted : record.tenantId ≠ none := by
      intro noTenant
      exact found ⟨own, record, presented, (shaped record presented).mp noTenant⟩
    obtain ⟨tenantId, owned⟩ := Option.ne_none_iff_exists'.mp tenanted
    have expectsAll : ∀ layer ∈ inner ++ [.requireActiveTenant], layer.forTenant = true := by
      intro layer member
      rcases List.mem_append.mp member with first | last
      · exact expects layer first
      · cases List.mem_singleton.mp last
        rfl
    have carries : (runLayers hashKey ambient (inner ++ [.requireActiveTenant]) later
        { request with keyRecord := some record }).Carries record :=
      runLayers_carries expectsAll rfl owned
    exact carries.not_isPanic
  cases group with
  | spellcheck | apiKeys | tenant | tenantOrigins =>
      apply atTenant rfl
      intro poisoned
      exact healthy ⟨by simp, poisoned⟩
  | usage =>
      apply calm_behind_key [.requireUsageScope] rfl
      · intro poisoned
        exact healthy ⟨by simp, poisoned⟩
      · intro later record _
        have held : ({ request with keyRecord := some record } : Request).keyRecord =
            some record := rfl
        exact requireUsageScope_total held
  | tenants =>
      rw [← Bool.not_eq_true]
      intro panics
      obtain ⟨absent, poisoned⟩ := requirePlatformKey_isPanic.mp panics
      exact healthy ⟨fun _ => absent, poisoned⟩
  | dictionaries =>
      rw [← Bool.not_eq_true]
      intro panics
      obtain ⟨absent, poisoned⟩ := requireDictionaryAdmin_isPanic.mp panics
      exact healthy ⟨fun _ => absent, poisoned⟩

end

/-- The condition is exact: the stacks do what they should unless a platform
key goes to a tenant-scoped group or the lock of the key cache is poisoned. -/
theorem gates_total_iff {hashKey : String → String} {world : World}
    (reached : World.ReachableWhen hashKey
      (fun before event => keysValidated before event = true) world)
    (group : RouteGroup) (ambient : Ambient) (state : AppState) (stored : state.store = world.store)
    (request : Request) :
    group.Total hashKey ambient state request ↔
      ¬group.PlatformKeyAstray hashKey ambient state.store request ∧
        ¬group.MeetsPoisonedLock ambient state request := by
  have shaped : ∀ record, presentedKey hashKey ambient state.store request = some record →
      record.Shaped := by
    intro record presented
    rw [stored] at presented
    exact (World.reachable_keysShaped reached).presented (World.reachable_written reached.reachable)
      presented
  constructor
  · intro total
    refine ⟨fun astray => group.platform_key_not_refused astray shaped total, ?_⟩
    intro poisoned
    cases total.calm.symm.trans (group.panics_on_poisoned_lock poisoned)
  · intro condition
    obtain ⟨found, healthy⟩ := condition
    exact ⟨group.calm_of_healthy shaped found healthy, fun astray => absurd astray found⟩

end

open scoped DefaultBackend

/-- Presents the bootstrap key of a server's first start. -/
def platformRequest : Request :=
  .arriving [("x-api-key", .ofText (sampleKey 0) (by decide))] none

/-- The admin key of a tenant with a registered origin, on `/api-keys`. -/
theorem gates_total_for_admin_key :
    ∃ world, World.Reachable sampleHash world ∧
      RouteGroup.apiKeys.Total sampleHash sampleAmbient (.started world.store unrestricted)
        (tenantRequest [sampleOrigin]) := by
  obtain ⟨world, run, outcome⟩ := World.exists_run sampleHash keysValidated originSetup
    (fun world => !world.store.keysPoisoned &&
      decide ((presentedKey sampleHash sampleAmbient world.store
        (tenantRequest [sampleOrigin])).map KeyRecord.role = some .admin))
    (by decide +kernel)
  obtain ⟨healthy, admin⟩ : world.store.keysPoisoned = false ∧ _ := by
    simpa only [Bool.and_eq_true, decide_eq_true_eq, Bool.not_eq_true'] using outcome
  have reached : World.ReachableWhen sampleHash
      (fun before event => keysValidated before event = true) world := ⟨originSetup, run⟩
  refine ⟨world, reached.reachable,
    (gates_total_iff reached .apiKeys sampleAmbient (.started world.store unrestricted) rfl
      (tenantRequest [sampleOrigin])).mpr ⟨?_, ?_⟩⟩
  · intro astray
    obtain ⟨_, record, presented, platform⟩ := astray
    have presented : presentedKey sampleHash sampleAmbient world.store
        (tenantRequest [sampleOrigin]) = some record := presented
    rw [presented, Option.map_some, platform] at admin
    cases admin
  · intro poisoned
    cases healthy.symm.trans poisoned.2.poisoned

def Verdict.panic? : Verdict → Option Panic
  | .panicked _ panic => some panic
  | _ => none

/-- The bootstrap key of a new server, on `/api-keys`. -/
theorem platform_key_panics :
    ∃ world record, World.ReachableWhen sampleHash
        (fun before event => keysValidated before event = true) world ∧
      presentedKey sampleHash sampleAmbient world.store platformRequest = some record ∧
      record.role = .platform ∧
      (RouteGroup.apiKeys.serve sampleHash sampleAmbient (.started world.store unrestricted)
          platformRequest).panic? =
        some (.expect "require_active_tenant runs only on tenant-scoped routes") := by
  let events : List Event := [.restart (sampleInput 0 0).now (sampleInput 0 0)]
  obtain ⟨world, run, outcome⟩ := World.exists_run sampleHash keysValidated events
    (fun world =>
      decide ((presentedKey sampleHash sampleAmbient world.store platformRequest).map
        KeyRecord.role = some .platform) &&
      decide ((RouteGroup.apiKeys.serve sampleHash sampleAmbient
        (.started world.store unrestricted) platformRequest).panic? =
          some (.expect "require_active_tenant runs only on tenant-scoped routes")))
    (by decide +kernel)
  obtain ⟨platform, panics⟩ : _ ∧ _ := by
    simpa only [Bool.and_eq_true, decide_eq_true_eq] using outcome
  obtain ⟨record, presented, role⟩ := Option.map_eq_some_iff.mp platform
  exact ⟨world, record, ⟨events, run⟩, presented, role, panics⟩

end SpellServer
