import SpellServer.Http.GateRules

/-!
# Who reaches a handler

The stacks of gates in front of the handlers, put together from the rules of
the single gates.
-/

namespace SpellServer

/-- The groups whose routes act for the caller's own tenant. -/
def RouteGroup.tenantScoped : RouteGroup → Bool
  | .spellcheck | .apiKeys | .tenant | .tenantOrigins => true
  | .usage | .tenants | .dictionaries => false

/-- The address under which the group's key gate sees the caller. -/
def RouteGroup.callerIp (group : RouteGroup) (config : Config) (request : Request) : IpAddr :=
  match group with
  | .dictionaries => request.resolvedIp config
  | _ => clientIp request.connectInfo

/-- What the caller's tenant has to satisfy.  Of several `Origin` headers the
first one counts. -/
structure TenantCleared (store : Store) (request : Request) (record : KeyRecord)
    (tenantId : String) : Prop where
  owner : record.tenantId = some tenantId
  notSuspended : ∀ info, store.getTenant tenantId = some info → info.suspendedAt = none
  originBound : ∀ value, request.headers.get "origin" = some value →
    ∃ origin, value.toStr = some origin ∧ store.tenantOwnsOrigin tenantId origin = true

/-- What is known of a request, arriving in a state, once the handler of a
group is executed on it as `handled`. -/
structure Authorized [Driver] (hashKey : String → String) (ambient : Ambient) (group : RouteGroup)
    (state : AppState) (request handled : Request) (record : KeyRecord) : Prop where
  presented : presentedKey hashKey ambient state.store request = some record
  active : record.isActive ambient.authLookup.now.seconds = true
  carried : handled.keyRecord = some record
  cool : ¬state.rateLimiter.InCooldown ambient.checkedAt (group.callerIp state.config request)
  tenant : group.tenantScoped = true → ∃ tenantId, TenantCleared state.store request record tenantId
  admin : group = .apiKeys ∨ group = .tenantOrigins → record.role = .admin
  platform : group = .tenants ∨ group = .dictionaries →
    record.role = .platform ∧ ∀ header ∈ request.headers, header.1 ≠ "origin"
  network : group = .dictionaries → state.config.dictionaryAdminCidrs ≠ [] →
    ∃ cidr ∈ state.config.dictionaryAdminCidrs,
      cidr.contains (request.resolvedIp state.config) = true
  usage : group = .usage →
    (record.role = .platform ∧ (∀ header ∈ request.headers, header.1 ≠ "origin") ∧
      handled.usageScope = some .platform) ∨
    (record.role = .admin ∧ ∃ tenantId, TenantCleared state.store request record tenantId ∧
      handled.usageScope = some (.tenant tenantId))
  standard : record.role = .standard → group = .spellcheck ∨ group = .tenant

theorem HeaderMap.containsKey_eq_false {headers : HeaderMap} {name : String}
    (absent : headers.containsKey name = false) : ∀ header ∈ headers, header.1 ≠ name := by
  simpa [HeaderMap.containsKey] using absent

section

variable [Driver] {hashKey : String → String} {ambient : Ambient} {state later : AppState}
  {request handled : Request}

theorem requireUsageScope_passes
    (passed : requireUsageScope state request = .next later handled) :
    ∃ record, request.keyRecord = some record ∧
      ((record.role = .platform ∧ request.headers.containsKey "origin" = false ∧
          handled = { request with usageScope := some .platform }) ∨
        (record.role = .admin ∧ ∃ tenantId, TenantCleared state.store request record tenantId ∧
          handled = { request with usageScope := some (.tenant tenantId) })) := by
  unfold requireUsageScope at passed
  split at passed
  · cases passed
  · rename_i record held
    refine ⟨record, held, ?_⟩
    split at passed
    · cases passed
    · rename_i platform
      split at passed
      · cases passed
      · rename_i absent
        cases passed
        exact Or.inl ⟨platform, by simpa using absent, rfl⟩
    · rename_i admin
      split at passed
      · cases passed
      · rename_i tenantId owner
        split at passed
        · cases passed
        · rename_i tenant known
          split at passed
          · cases passed
          · rename_i notSuspended
            split at passed
            · cases passed
            · rename_i bound
              cases passed
              refine Or.inr ⟨admin, tenantId, ⟨owner, ?_, ?_⟩, rfl⟩
              · intro info found
                cases known.symm.trans found
                simpa using notSuspended
              · intro value present
                simp only [usageOriginBound, present, Bool.not_eq_true', Bool.not_eq_false]
                  at bound
                cases text : value.toStr with
                | none =>
                    rw [text] at bound
                    cases bound
                | some origin =>
                    rw [text] at bound
                    exact ⟨origin, rfl, bound⟩

/-- Resolving the key leaves everything else as the request found it. -/
theorem TenantCleared.on_arrival {ip : IpAddr} {record : KeyRecord} {tenantId : String}
    (cleared : TenantCleared later.store { request with keyRecord := some record } record tenantId)
    (accepted : KeyAccepted hashKey ambient ip state request record later) :
    TenantCleared state.store request record tenantId := by
  refine ⟨cleared.owner, ?_, ?_⟩
  · intro info known
    apply cleared.notSuspended info
    rw [Store.getTenant, accepted.tenants]
    exact known
  · intro value present
    obtain ⟨origin, text, owns⟩ := cleared.originBound value present
    refine ⟨origin, text, ?_⟩
    rw [Store.tenantOwnsOrigin, ← accepted.origins]
    exact owns

/-- The three layers that all tenant-scoped groups share. -/
theorem tenantLayers_pass
    (passed : runLayers hashKey ambient
      [.requireOriginBinding, .requireActiveTenant, .requireActiveKey] state request =
        .next later handled) :
    ∃ record tenantId, handled = { request with keyRecord := some record } ∧
      KeyAccepted hashKey ambient (clientIp request.connectInfo) state request record later ∧
      TenantCleared state.store request record tenantId := by
  obtain ⟨second, between, passed, origin⟩ := Verdict.andThen_eq_next passed
  obtain ⟨first, resolved, passed, tenant⟩ := Verdict.andThen_eq_next passed
  obtain ⟨start, arrived, began, key⟩ := Verdict.andThen_eq_next passed
  cases began
  rcases requireActiveKey_cases hashKey ambient state request with
    ⟨_, _, rejected, _⟩ | ⟨poisoned, _⟩ | ⟨accepting, record, resolves, accepted⟩
  · cases rejected.symm.trans key
  · cases poisoned.symm.trans key
  · cases resolves.symm.trans key
    obtain ⟨rfl, rfl, held, tenantId, sameRecord, owner, notSuspended⟩ :=
      requireActiveTenant_passes tenant
    cases sameRecord
    obtain ⟨rfl, rfl, bound⟩ := requireOriginBinding_passes origin
    have cleared : TenantCleared later.store { request with keyRecord := some record } record
        tenantId := ⟨owner, notSuspended, bound record tenantId rfl owner⟩
    exact ⟨record, tenantId, rfl, accepted, cleared.on_arrival accepted⟩

theorem Authorized.ofTenant {group : RouteGroup} {record : KeyRecord} {tenantId : String}
    (own : group.tenantScoped = true)
    (accepted : KeyAccepted hashKey ambient (clientIp request.connectInfo) state request record
      later)
    (cleared : TenantCleared state.store request record tenantId)
    (carried : handled.keyRecord = some record)
    (admin : group = .apiKeys ∨ group = .tenantOrigins → record.role = .admin) :
    Authorized hashKey ambient group state request handled record := by
  obtain ⟨_, active, _⟩ := presentedKey_eq_some hashKey ambient accepted.presented
  refine
    { presented := accepted.presented
      active := active
      carried := carried
      cool := ?_
      tenant := fun _ => ⟨tenantId, cleared⟩
      admin := admin
      platform := ?_
      network := ?_
      usage := ?_
      standard := ?_ }
  · cases group <;> first | exact accepted.cool | cases own
  · intro same
    rcases same with rfl | rfl <;> cases own
  · intro same
    subst same
    cases own
  · intro same
    subst same
    cases own
  · intro standard
    cases group with
    | spellcheck => exact Or.inl rfl
    | tenant => exact Or.inr rfl
    | apiKeys => cases standard.symm.trans (admin (Or.inl rfl))
    | tenantOrigins => cases standard.symm.trans (admin (Or.inr rfl))
    | usage | tenants | dictionaries => cases own

theorem Authorized.ofOutside {group : RouteGroup} {record : KeyRecord}
    (outside : group.tenantScoped = false)
    (accepted : KeyAccepted hashKey ambient (group.callerIp state.config request) state request
      record later)
    (carried : handled.keyRecord = some record)
    (privileged : record.role ≠ .standard)
    (platform : group ≠ .usage →
      record.role = .platform ∧ request.headers.containsKey "origin" = false)
    (network : group = .dictionaries → state.config.dictionaryAdminCidrs ≠ [] →
      ∃ cidr ∈ state.config.dictionaryAdminCidrs,
        cidr.contains (request.resolvedIp state.config) = true)
    (usage : group = .usage →
      (record.role = .platform ∧ request.headers.containsKey "origin" = false ∧
        handled.usageScope = some .platform) ∨
      (record.role = .admin ∧ ∃ tenantId, TenantCleared state.store request record tenantId ∧
        handled.usageScope = some (.tenant tenantId))) :
    Authorized hashKey ambient group state request handled record := by
  obtain ⟨_, active, _⟩ := presentedKey_eq_some hashKey ambient accepted.presented
  refine
    { presented := accepted.presented
      active := active
      carried := carried
      cool := accepted.cool
      tenant := ?_
      admin := ?_
      platform := ?_
      network := network
      usage := ?_
      standard := fun standard => absurd standard privileged }
  · intro own
    cases outside.symm.trans own
  · intro same
    rcases same with rfl | rfl <;> cases outside
  · intro same
    obtain ⟨role, absent⟩ := platform (by rcases same with rfl | rfl <;> simp)
    exact ⟨role, HeaderMap.containsKey_eq_false absent⟩
  · intro same
    rcases usage same with ⟨role, absent, scope⟩ | admin
    · exact Or.inl ⟨role, HeaderMap.containsKey_eq_false absent, scope⟩
    · exact Or.inr admin

/-- A handler is executed only for a request with an accepted key that meets
the conditions of its group. -/
theorem handler_authorized (group : RouteGroup)
    (executed : group.serve hashKey ambient state request = .next later handled) :
    ∃ record, Authorized hashKey ambient group state request handled record := by
  cases group with
  | tenant =>
      obtain ⟨record, tenantId, rfl, accepted, cleared⟩ := tenantLayers_pass executed
      exact ⟨record, .ofTenant rfl accepted cleared rfl (by simp)⟩
  | spellcheck =>
      obtain ⟨admitted, between, executed, recorded⟩ := Verdict.andThen_eq_next executed
      obtain ⟨bound, arrived, executed, consumed⟩ := Verdict.andThen_eq_next executed
      obtain ⟨record, tenantId, rfl, accepted, cleared⟩ := tenantLayers_pass executed
      obtain rfl := requireQuota_passes consumed
      obtain rfl := recordUsage_passes recorded
      exact ⟨record, .ofTenant rfl accepted cleared rfl (by simp)⟩
  | apiKeys | tenantOrigins =>
      obtain ⟨bound, arrived, executed, privileged⟩ := Verdict.andThen_eq_next executed
      have privileged : requireAdmin bound arrived = .next later handled := privileged
      obtain ⟨record, tenantId, rfl, accepted, cleared⟩ := tenantLayers_pass executed
      obtain ⟨rfl, rfl, other, held, admin⟩ := requireAdmin_passes privileged
      cases held
      exact ⟨record, .ofTenant rfl accepted cleared rfl fun _ => admin⟩
  | usage =>
      obtain ⟨resolved, arrived, executed, limited⟩ := Verdict.andThen_eq_next executed
      have limited : requireUsageScope resolved arrived = .next later handled := limited
      have key : requireActiveKey hashKey ambient state request = .next resolved arrived :=
        executed
      rcases requireActiveKey_cases hashKey ambient state request with
        ⟨_, _, rejected, _⟩ | ⟨poisoned, _⟩ | ⟨accepting, record, resolves, accepted⟩
      · cases rejected.symm.trans key
      · cases poisoned.symm.trans key
      · cases resolves.symm.trans key
        obtain ⟨other, held, granted⟩ := requireUsageScope_passes limited
        cases held
        rcases granted with ⟨platform, absent, rfl⟩ | ⟨admin, tenantId, cleared, rfl⟩
        · refine ⟨record, .ofOutside rfl accepted rfl ?_ (by simp) (by simp) ?_⟩
          · simp [platform]
          · exact fun _ => Or.inl ⟨platform, absent, rfl⟩
        · refine ⟨record, .ofOutside rfl accepted rfl ?_ (by simp) (by simp) ?_⟩
          · simp [admin]
          · exact fun _ => Or.inr ⟨admin, tenantId, cleared.on_arrival accepted, rfl⟩
  | tenants =>
      obtain ⟨absent, record, platform, rfl, accepted⟩ := requirePlatformKey_passes executed
      exact ⟨record, .ofOutside rfl accepted rfl (by simp [platform])
        (fun _ => ⟨platform, absent⟩) (by simp) (by simp)⟩
  | dictionaries =>
      obtain ⟨absent, record, platform, rfl, accepted, network⟩ :=
        requireDictionaryAdmin_passes executed
      exact ⟨record, .ofOutside rfl accepted rfl (by simp [platform])
        (fun _ => ⟨platform, absent⟩) (fun _ => network) (by simp)⟩

end

/-! ## Requests for concrete runs -/

/-- A server right after its start, on a store that exists already. -/
def AppState.started [Driver] (store : Store) (config : Config) : AppState :=
  { store
    tasks := []
    rateLimiter := .new 10 60000000000 60000000000
    config }

open scoped DefaultBackend

def sampleAmbient : Ambient :=
  { checkedAt := 0
    failedAt := 0
    authLookup := sampleInput 0 4
    authLoad := sampleInput 0 4
    authStore := sampleInput 0 4
    touchFind := sampleInput 0 4
    touchMark := sampleInput 0 4
    consumeQuota := sampleInput 0 4 }

def sampleOrigin : HeaderValue :=
  .ofText "https://app.example.com" (by decide)

def unknownOrigin : HeaderValue :=
  .ofText "https://evil.example.com" (by decide)

/-- Presents the tenant's admin key of `tenantSetup`. -/
def tenantRequest (origins : List HeaderValue) : Request :=
  .arriving
    (("x-api-key", .ofText (sampleKey 1) (by decide)) ::
      origins.map fun origin => ("origin", origin))
    none

def Verdict.isNext : Verdict → Bool
  | .next _ _ => true
  | _ => false

theorem Verdict.isNext_iff {verdict : Verdict} :
    verdict.isNext = true ↔ ∃ state request, verdict = .next state request := by
  cases verdict <;> simp [isNext]

/-- A tenant with its admin key and one registered origin. -/
def originSetup : List Event :=
  tenantSetup ++
    [.call 1 (.registerOrigin (sampleId 1).text "https://app.example.com"),
      .act 1 (sampleInput 0 4), .act 1 (sampleInput 0 4), .act 1 (sampleInput 0 4)]

def unrestricted : Config := { dictionaryAdminCidrs := [], trustedProxies := [] }

theorem handler_authorized_api_keys :
    ∃ world later handled record, World.Reachable sampleHash world ∧
      RouteGroup.apiKeys.serve sampleHash sampleAmbient (.started world.store unrestricted)
        (tenantRequest [sampleOrigin]) = .next later handled ∧
      Authorized sampleHash sampleAmbient .apiKeys (.started world.store unrestricted)
        (tenantRequest [sampleOrigin]) handled record := by
  obtain ⟨world, run, executed⟩ := World.exists_run sampleHash (fun _ _ => true) originSetup
    (fun world => (RouteGroup.apiKeys.serve sampleHash sampleAmbient
      (.started world.store unrestricted) (tenantRequest [sampleOrigin])).isNext)
    (by decide +kernel)
  obtain ⟨later, handled, executed⟩ := Verdict.isNext_iff.mp executed
  obtain ⟨record, authorized⟩ := handler_authorized .apiKeys executed
  exact ⟨world, later, handled, record, ⟨originSetup, run.weaken fun _ _ _ => trivial⟩, executed,
    authorized⟩

/-- Only the first of two `Origin` headers is compared with the registered
ones; the handler runs although no tenant has registered the second. -/
theorem second_origin_header_unchecked :
    ∃ world later handled, World.Reachable sampleHash world ∧
      RouteGroup.tenant.serve sampleHash sampleAmbient (.started world.store unrestricted)
        (tenantRequest [sampleOrigin, unknownOrigin]) = .next later handled ∧
      ("origin", unknownOrigin) ∈ (tenantRequest [sampleOrigin, unknownOrigin]).headers ∧
      unknownOrigin.toStr = some "https://evil.example.com" ∧
      ∀ tenantId, world.store.tenantOwnsOrigin tenantId "https://evil.example.com" = false := by
  obtain ⟨world, run, outcome⟩ := World.exists_run sampleHash (fun _ _ => true) originSetup
    (fun world => (RouteGroup.tenant.serve sampleHash sampleAmbient
      (.started world.store unrestricted)
        (tenantRequest [sampleOrigin, unknownOrigin])).isNext &&
      !stillOwned world.store.originsByTenant "https://evil.example.com")
    (by decide +kernel)
  obtain ⟨executed, unowned⟩ : _ ∧ _ := by
    simpa only [Bool.and_eq_true] using outcome
  obtain ⟨later, handled, executed⟩ := Verdict.isNext_iff.mp executed
  refine ⟨world, later, handled, ⟨originSetup, run.weaken fun _ _ _ => trivial⟩, executed, ?_,
    HeaderValue.toStr_ofText _ _, ?_⟩
  · simp [tenantRequest, Request.arriving]
  · intro tenantId
    cases owned : world.store.tenantOwnsOrigin tenantId "https://evil.example.com" with
    | false => rfl
    | true =>
        have owner := (stillOwned_iff _ _).mpr ⟨tenantId, owned⟩
        simp [owner] at unowned

end SpellServer
