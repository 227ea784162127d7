import SpellServer.Http.Authorization

/-!
# Who is let through

The gates refuse nobody they need not refuse.  A handler is executed exactly for
the requests that are entitled to it, and what entitles a request can be read off
the request and the state it arrives in.
-/

namespace SpellServer

open Library

/-- The tenant is known and has a unit left. -/
def Store.HasQuota (store : Store) (tenantId : String) : Prop :=
  ∃ info, store.getTenant tenantId = some info ∧ info.exhausted = false

/-- What a request brings whose handler is executed. -/
structure Entitled [Driver] (hashKey : String → String) (ambient : Ambient) (group : RouteGroup)
    (state : AppState) (request : Request) (record : KeyRecord) : Prop where
  presented : presentedKey hashKey ambient state.store request = some record
  cool : ¬state.rateLimiter.InCooldown ambient.checkedAt (group.callerIp state.config request)
  tenant : group.tenantScoped = true → ∃ tenantId, TenantCleared state.store request record tenantId
  admin : group = .apiKeys ∨ group = .tenantOrigins → record.role = .admin
  platform : group = .tenants ∨ group = .dictionaries →
    record.role = .platform ∧ request.headers.containsKey "origin" = false
  network : group = .dictionaries → state.config.dictionaryAdminCidrs ≠ [] →
    ∃ cidr ∈ state.config.dictionaryAdminCidrs,
      cidr.contains (request.resolvedIp state.config) = true
  usage : group = .usage →
    (record.role = .platform ∧ request.headers.containsKey "origin" = false) ∨
    (record.role = .admin ∧ ∃ tenantId, TenantCleared state.store request record tenantId ∧
      (state.store.getTenant tenantId).isSome = true)
  quota : group = .spellcheck → ∀ tenantId, record.tenantId = some tenantId →
    state.store.HasQuota tenantId

section

variable [Driver] {hashKey : String → String} {ambient : Ambient} {state middle later : AppState}
  {request handled : Request} {record : KeyRecord} {tenantId : String}

/-! ## Each gate lets through -/

theorem resolveKey_accepts {ip : IpAddr} (accept : AppState → KeyRecord → Verdict)
    (cool : ¬state.rateLimiter.InCooldown ambient.checkedAt ip)
    (presented : presentedKey hashKey ambient state.store request = some record) :
    ∃ middle, resolveKey hashKey ambient ip state request accept = accept middle record ∧
      KeyAccepted hashKey ambient ip state request record middle ∧
      middle.store.keysPoisoned = false := by
  obtain ⟨healthy, _, rawKey, given, _⟩ := presentedKey_eq_some hashKey ambient presented
  obtain ⟨after, answer, authenticated, only, unpoisoned, _⟩ :=
    state.store.authenticate_healthy hashKey ambient rawKey healthy
  have answered : answer = some record := by
    simpa [presentedKey, given, authenticated] using presented
  subst answered
  rcases state.rateLimiter.check_cases ambient.checkedAt ip with ⟨_, _, cooling⟩ | ⟨checked, _⟩
  · exact absurd cooling cool
  · refine ⟨{ state with store := after }, ?_, ?_, unpoisoned⟩
    · simp only [resolveKey, checked, given, authenticated]
    · exact ⟨cool, presented, only.tenants.tenants, only.origins.originsByTenant, rfl⟩

theorem requireActiveKey_admits
    (cool : ¬state.rateLimiter.InCooldown ambient.checkedAt (clientIp request.connectInfo))
    (presented : presentedKey hashKey ambient state.store request = some record) :
    ∃ later, requireActiveKey hashKey ambient state request =
        .next later { request with keyRecord := some record } ∧
      KeyAccepted hashKey ambient (clientIp request.connectInfo) state request record later := by
  obtain ⟨middle, resolved, accepted, healthy⟩ :=
    resolveKey_accepts (admitKey hashKey ambient request) cool presented
  obtain ⟨later, admits, accepted⟩ := accepted.admitted healthy
  exact ⟨later, resolved.trans admits, accepted⟩

theorem requirePlatformKey_admits
    (cool : ¬state.rateLimiter.InCooldown ambient.checkedAt (clientIp request.connectInfo))
    (presented : presentedKey hashKey ambient state.store request = some record)
    (platform : record.role = .platform)
    (absent : request.headers.containsKey "origin" = false) :
    ∃ later, requirePlatformKey hashKey ambient state request =
      .next later { request with keyRecord := some record } := by
  rw [requirePlatformKey, if_neg (by simp [absent])]
  obtain ⟨middle, resolved, accepted, healthy⟩ := resolveKey_accepts
    (fun resolved record =>
      if record.role ≠ .platform then .reject resolved .forbidden
      else admitKey hashKey ambient request resolved record) cool presented
  obtain ⟨later, admits, _⟩ := accepted.admitted healthy
  refine ⟨later, ?_⟩
  rw [resolved, if_neg (by simp [platform]), admits]

theorem requireDictionaryAdmin_admits
    (cool : ¬state.rateLimiter.InCooldown ambient.checkedAt (request.resolvedIp state.config))
    (presented : presentedKey hashKey ambient state.store request = some record)
    (platform : record.role = .platform)
    (absent : request.headers.containsKey "origin" = false)
    (network : state.config.dictionaryAdminCidrs ≠ [] →
      ∃ cidr ∈ state.config.dictionaryAdminCidrs,
        cidr.contains (request.resolvedIp state.config) = true) :
    ∃ later, requireDictionaryAdmin hashKey ambient state request =
      .next later { request with keyRecord := some record } := by
  rw [requireDictionaryAdmin, if_neg (by simp [absent])]
  obtain ⟨middle, resolved, accepted, healthy⟩ := resolveKey_accepts
    (fun resolved record =>
      let cidrs := resolved.config.dictionaryAdminCidrs
      if record.role ≠ .platform then .reject resolved .forbidden
      else if !cidrs.isEmpty &&
          !cidrs.any (fun cidr => cidr.contains (request.resolvedIp state.config)) then
        .reject resolved .forbidden
      else admitKey hashKey ambient request resolved record) cool presented
  obtain ⟨later, admits, _⟩ := accepted.admitted healthy
  have inside : (!state.config.dictionaryAdminCidrs.isEmpty &&
      !state.config.dictionaryAdminCidrs.any
        (fun cidr => cidr.contains (request.resolvedIp state.config))) = false := by
    by_cases unrestricted : state.config.dictionaryAdminCidrs = []
    · simp [unrestricted]
    · obtain ⟨cidr, member, contains⟩ := network unrestricted
      have found : state.config.dictionaryAdminCidrs.any
          (fun cidr => cidr.contains (request.resolvedIp state.config)) = true :=
        List.any_eq_true.mpr ⟨cidr, member, contains⟩
      simp [found]
  refine ⟨later, ?_⟩
  simp only [resolved, accepted.config, if_neg (not_not.mpr platform), inside, admits]
  rfl

theorem requireAdmin_admits (held : request.keyRecord = some record)
    (admin : record.role = .admin) : requireAdmin state request = .next state request := by
  simp [requireAdmin, held, admin]

theorem requireActiveTenant_admits (held : request.keyRecord = some record)
    (cleared : TenantCleared state.store request record tenantId) :
    requireActiveTenant state request = .next state request := by
  have active : state.store.tenantSuspended tenantId = false := by
    cases known : state.store.getTenant tenantId with
    | none => simp [Store.tenantSuspended, known]
    | some info => simp [Store.tenantSuspended, known, cleared.notSuspended info known]
  rw [requireActiveTenant, withTenant_eq held cleared.owner, active]
  rfl

theorem requireOriginBinding_admits (held : request.keyRecord = some record)
    (cleared : TenantCleared state.store request record tenantId) :
    requireOriginBinding state request = .next state request := by
  cases present : request.headers.get "origin" with
  | none => simp only [requireOriginBinding, present]
  | some value =>
      obtain ⟨origin, text, owns⟩ := cleared.originBound value present
      simp only [requireOriginBinding, present, text, withTenant_eq held cleared.owner, owns]
      rfl

variable (hashKey ambient) in
/-- The quota gate asks the cache only. -/
theorem tryConsumeQuota_iff (store : Store) (tenantId : String) :
    (store.tryConsumeQuota hashKey ambient tenantId).1 = true ↔ store.HasQuota tenantId := by
  unfold Store.HasQuota Store.getTenant
  cases known : store.tenants.lookup tenantId with
  | none => simp [Store.tryConsumeQuota, Op.entry, Frame.exec, TenantFrame.exec, known]
  | some info =>
      cases exhausted : info.exhausted <;>
        simp [Store.tryConsumeQuota, Op.entry, Frame.exec, TenantFrame.exec, known, exhausted]

theorem requireQuota_admits (held : request.keyRecord = some record)
    (owner : record.tenantId = some tenantId) (remaining : state.store.HasQuota tenantId) :
    ∃ later, requireQuota hashKey ambient state request = .next later request := by
  have admitted := (tryConsumeQuota_iff hashKey ambient state.store tenantId).mpr remaining
  refine ⟨{ state with
      store := (state.store.tryConsumeQuota hashKey ambient tenantId).2.1
      tasks := state.tasks ++ (state.store.tryConsumeQuota hashKey ambient tenantId).2.2 }, ?_⟩
  simp only [requireQuota, withTenant_eq held owner, admitted]
  rfl

theorem requireQuota_spends (held : request.keyRecord = some record)
    (owner : record.tenantId = some tenantId)
    (passed : requireQuota hashKey ambient state request = .next later handled) :
    state.store.HasQuota tenantId := by
  rw [← tryConsumeQuota_iff hashKey ambient]
  simp only [requireQuota, withTenant_eq held owner] at passed
  split at passed
  · cases passed
  · rename_i admitted
    simpa using admitted

theorem requireUsageScope_platform (held : request.keyRecord = some record)
    (platform : record.role = .platform)
    (absent : request.headers.containsKey "origin" = false) :
    requireUsageScope state request = .next state { request with usageScope := some .platform } := by
  simp [requireUsageScope, held, platform, absent]

theorem requireUsageScope_admin (held : request.keyRecord = some record)
    (admin : record.role = .admin) (cleared : TenantCleared state.store request record tenantId)
    (known : (state.store.getTenant tenantId).isSome = true) :
    requireUsageScope state request =
      .next state { request with usageScope := some (.tenant tenantId) } := by
  obtain ⟨info, found⟩ := Option.isSome_iff_exists.mp known
  have bound : usageOriginBound state.store request tenantId = true := by
    cases present : request.headers.get "origin" with
    | none => simp only [usageOriginBound, present]
    | some value =>
        obtain ⟨origin, text, owns⟩ := cleared.originBound value present
        simp only [usageOriginBound, present, text, owns]
  simp [requireUsageScope, held, admin, cleared.owner, found, cleared.notSuspended info found,
    bound]

theorem requireUsageScope_knows (held : request.keyRecord = some record)
    (admin : record.role = .admin) (owner : record.tenantId = some tenantId)
    (passed : requireUsageScope state request = .next later handled) :
    (state.store.getTenant tenantId).isSome = true := by
  cases known : state.store.getTenant tenantId with
  | none =>
      simp only [requireUsageScope, held, admin, owner, known] at passed
      cases passed
  | some info => rfl

/-! ## Stacks of gates -/

/-- A cleared tenant is still cleared behind the key gate. -/
theorem TenantCleared.behind {ip : IpAddr}
    (cleared : TenantCleared state.store request record tenantId)
    (accepted : KeyAccepted hashKey ambient ip state request record later) :
    TenantCleared later.store { request with keyRecord := some record } record tenantId := by
  refine ⟨cleared.owner, ?_, ?_⟩
  · intro info known
    apply cleared.notSuspended info
    rw [Store.getTenant, ← accepted.tenants]
    exact known
  · intro value present
    obtain ⟨origin, text, owns⟩ := cleared.originBound value present
    refine ⟨origin, text, ?_⟩
    rw [Store.tenantOwnsOrigin, accepted.origins]
    exact owns

theorem KeyAccepted.getTenant {ip : IpAddr}
    (accepted : KeyAccepted hashKey ambient ip state request record later) :
    later.store.getTenant tenantId = state.store.getTenant tenantId := by
  rw [Store.getTenant, accepted.tenants, Store.getTenant]

theorem tenantLayers_admit
    (cool : ¬state.rateLimiter.InCooldown ambient.checkedAt (clientIp request.connectInfo))
    (presented : presentedKey hashKey ambient state.store request = some record)
    (cleared : TenantCleared state.store request record tenantId) :
    ∃ later, runLayers hashKey ambient
        [.requireOriginBinding, .requireActiveTenant, .requireActiveKey] state request =
          .next later { request with keyRecord := some record } ∧
      KeyAccepted hashKey ambient (clientIp request.connectInfo) state request record later := by
  obtain ⟨later, admits, accepted⟩ := requireActiveKey_admits cool presented
  refine ⟨later, ?_, accepted⟩
  have behind := cleared.behind accepted
  calc
    _ = ((requireActiveKey hashKey ambient state request).andThen requireActiveTenant).andThen
          requireOriginBinding := rfl
    _ = (requireActiveTenant later { request with keyRecord := some record }).andThen
          requireOriginBinding := by rw [admits, Verdict.andThen_next]
    _ = requireOriginBinding later { request with keyRecord := some record } := by
      rw [requireActiveTenant_admits rfl behind, Verdict.andThen_next]
    _ = .next later { request with keyRecord := some record } :=
      requireOriginBinding_admits rfl behind

/-- Behind the tenant's gates only the group's own ones are left. -/
theorem Entitled.tenantLayers {group : RouteGroup}
    (entitled : Entitled hashKey ambient group state request record)
    (own : group.tenantScoped = true) :
    ∃ later, runLayers hashKey ambient
        [.requireOriginBinding, .requireActiveTenant, .requireActiveKey] state request =
          .next later { request with keyRecord := some record } ∧
      KeyAccepted hashKey ambient (clientIp request.connectInfo) state request record later := by
  obtain ⟨tenantId, cleared⟩ := entitled.tenant own
  apply tenantLayers_admit _ entitled.presented cleared
  have cool := entitled.cool
  cases group <;> first | exact cool | cases own

theorem Entitled.served {group : RouteGroup}
    (entitled : Entitled hashKey ambient group state request record) :
    ∃ later handled, group.serve hashKey ambient state request = .next later handled := by
  cases group with
  | tenant =>
      obtain ⟨later, passes, _⟩ := entitled.tenantLayers rfl
      exact ⟨later, _, passes⟩
  | spellcheck =>
      obtain ⟨middle, passes, accepted⟩ := entitled.tenantLayers rfl
      obtain ⟨tenantId, cleared⟩ := entitled.tenant rfl
      have remaining : middle.store.HasQuota tenantId := by
        unfold Store.HasQuota
        rw [accepted.getTenant]
        exact entitled.quota rfl tenantId cleared.owner
      have admitted : ∃ later, requireQuota hashKey ambient middle
          { request with keyRecord := some record } =
            .next later { request with keyRecord := some record } :=
        requireQuota_admits rfl cleared.owner remaining
      obtain ⟨later, admits⟩ := admitted
      refine ⟨later, { request with keyRecord := some record }, ?_⟩
      calc
        _ = ((runLayers hashKey ambient
              [.requireOriginBinding, .requireActiveTenant, .requireActiveKey] state
              request).andThen (requireQuota hashKey ambient)).andThen recordUsage := rfl
        _ = recordUsage later { request with keyRecord := some record } := by
          rw [passes, Verdict.andThen_next, admits, Verdict.andThen_next]
        _ = .next later { request with keyRecord := some record } :=
          withTenant_eq rfl cleared.owner later _ _ _
  | apiKeys | tenantOrigins =>
      obtain ⟨later, passes, _⟩ := entitled.tenantLayers rfl
      have admin : record.role = .admin := entitled.admin (by simp)
      refine ⟨later, { request with keyRecord := some record }, ?_⟩
      calc
        _ = (runLayers hashKey ambient
              [.requireOriginBinding, .requireActiveTenant, .requireActiveKey] state
              request).andThen requireAdmin := rfl
        _ = requireAdmin later { request with keyRecord := some record } := by
          rw [passes, Verdict.andThen_next]
        _ = .next later { request with keyRecord := some record } := requireAdmin_admits rfl admin
  | usage =>
      obtain ⟨later, admits, accepted⟩ := requireActiveKey_admits entitled.cool entitled.presented
      have served : RouteGroup.usage.serve hashKey ambient state request =
          requireUsageScope later { request with keyRecord := some record } := by
        calc
          _ = (requireActiveKey hashKey ambient state request).andThen requireUsageScope := rfl
          _ = _ := by rw [admits, Verdict.andThen_next]
      rw [served]
      rcases entitled.usage rfl with ⟨platform, absent⟩ | ⟨admin, tenantId, cleared, known⟩
      · exact ⟨later, _, requireUsageScope_platform rfl platform absent⟩
      · refine ⟨later, _, requireUsageScope_admin rfl admin (cleared.behind accepted) ?_⟩
        rw [accepted.getTenant]
        exact known
  | tenants =>
      obtain ⟨platform, absent⟩ := entitled.platform (Or.inl rfl)
      obtain ⟨later, admits⟩ :=
        requirePlatformKey_admits entitled.cool entitled.presented platform absent
      exact ⟨later, _, admits⟩
  | dictionaries =>
      obtain ⟨platform, absent⟩ := entitled.platform (Or.inr rfl)
      obtain ⟨later, admits⟩ := requireDictionaryAdmin_admits entitled.cool entitled.presented
        platform absent (entitled.network rfl)
      exact ⟨later, _, admits⟩

/-! ## What a served request has brought -/

theorem Entitled.ofTenant {group : RouteGroup} (own : group.tenantScoped = true)
    (accepted : KeyAccepted hashKey ambient (clientIp request.connectInfo) state request record
      later)
    (cleared : TenantCleared state.store request record tenantId)
    (admin : group = .apiKeys ∨ group = .tenantOrigins → record.role = .admin)
    (quota : group = .spellcheck → state.store.HasQuota tenantId) :
    Entitled hashKey ambient group state request record := by
  refine
    { presented := accepted.presented
      cool := ?_
      tenant := fun _ => ⟨tenantId, cleared⟩
      admin := admin
      platform := ?_
      network := ?_
      usage := ?_
      quota := ?_ }
  · cases group <;> first | exact accepted.cool | cases own
  · intro same
    rcases same with rfl | rfl <;> cases own
  · intro same
    subst same
    cases own
  · intro same
    subst same
    cases own
  · intro same other owner
    cases cleared.owner.symm.trans owner
    exact quota same

theorem Entitled.ofPlatform {group : RouteGroup}
    (platform : group = .tenants ∨ group = .dictionaries)
    (accepted : KeyAccepted hashKey ambient (group.callerIp state.config request) state request
      record later)
    (role : record.role = .platform) (absent : request.headers.containsKey "origin" = false)
    (network : group = .dictionaries → state.config.dictionaryAdminCidrs ≠ [] →
      ∃ cidr ∈ state.config.dictionaryAdminCidrs,
        cidr.contains (request.resolvedIp state.config) = true) :
    Entitled hashKey ambient group state request record := by
  refine
    { presented := accepted.presented
      cool := accepted.cool
      tenant := ?_
      admin := ?_
      platform := fun _ => ⟨role, absent⟩
      network := network
      usage := ?_
      quota := ?_ }
  all_goals
    intro same
    rcases platform with rfl | rfl <;> simp [RouteGroup.tenantScoped] at same

/-- Served under `GET /usage`, as the platform or as an administrator. -/
theorem Entitled.ofUsage
    (accepted : KeyAccepted hashKey ambient (clientIp request.connectInfo) state request record
      later)
    (granted : (record.role = .platform ∧ request.headers.containsKey "origin" = false) ∨
      (record.role = .admin ∧ ∃ tenantId, TenantCleared state.store request record tenantId ∧
        (state.store.getTenant tenantId).isSome = true)) :
    Entitled hashKey ambient .usage state request record :=
  { presented := accepted.presented
    cool := accepted.cool
    tenant := fun own => by cases own
    admin := fun same => by simp at same
    platform := fun same => by simp at same
    network := fun same => by cases same
    usage := fun _ => granted
    quota := fun same => by cases same }

theorem served_entitled (group : RouteGroup)
    (executed : group.serve hashKey ambient state request = .next later handled) :
    ∃ record, Entitled hashKey ambient group state request record := by
  cases group with
  | tenant =>
      obtain ⟨record, tenantId, rfl, accepted, cleared⟩ := tenantLayers_pass executed
      exact ⟨record, .ofTenant rfl accepted cleared (by simp) (by simp)⟩
  | spellcheck =>
      obtain ⟨admitted, between, executed, _⟩ := Verdict.andThen_eq_next executed
      obtain ⟨bound, arrived, executed, consumed⟩ := Verdict.andThen_eq_next executed
      obtain ⟨record, tenantId, rfl, accepted, cleared⟩ := tenantLayers_pass executed
      refine ⟨record, .ofTenant rfl accepted cleared (by simp) fun _ => ?_⟩
      have remaining := requireQuota_spends rfl cleared.owner consumed
      unfold Store.HasQuota at remaining ⊢
      rw [accepted.getTenant] at remaining
      exact remaining
  | apiKeys | tenantOrigins =>
      obtain ⟨bound, arrived, executed, privileged⟩ := Verdict.andThen_eq_next executed
      have privileged : requireAdmin bound arrived = .next later handled := privileged
      obtain ⟨record, tenantId, rfl, accepted, cleared⟩ := tenantLayers_pass executed
      obtain ⟨_, _, other, held, admin⟩ := requireAdmin_passes privileged
      cases held
      exact ⟨record, .ofTenant rfl accepted cleared (fun _ => admin) (by simp)⟩
  | usage =>
      obtain ⟨resolved, arrived, key, limited⟩ := Verdict.andThen_eq_next executed
      have limited : requireUsageScope resolved arrived = .next later handled := limited
      rcases requireActiveKey_cases hashKey ambient state request with
        ⟨_, _, rejected, _⟩ | ⟨poisoned, _⟩ | ⟨accepting, record, resolves, accepted⟩
      · cases rejected.symm.trans key
      · cases poisoned.symm.trans key
      · cases resolves.symm.trans key
        obtain ⟨other, held, granted⟩ := requireUsageScope_passes limited
        cases held
        refine ⟨record, .ofUsage accepted ?_⟩
        rcases granted with ⟨platform, absent, _⟩ | ⟨admin, tenantId, cleared, _⟩
        · exact Or.inl ⟨platform, absent⟩
        · refine Or.inr ⟨admin, tenantId, cleared.on_arrival accepted, ?_⟩
          rw [← accepted.getTenant]
          exact requireUsageScope_knows rfl admin cleared.owner limited
  | tenants =>
      obtain ⟨absent, record, platform, _, accepted⟩ := requirePlatformKey_passes executed
      exact ⟨record, .ofPlatform (Or.inl rfl) accepted platform absent (by simp)⟩
  | dictionaries =>
      obtain ⟨absent, record, platform, _, accepted, network⟩ :=
        requireDictionaryAdmin_passes executed
      exact ⟨record, .ofPlatform (Or.inr rfl) accepted platform absent fun _ => network⟩

end

/-- A handler is executed exactly for the requests entitled to it. -/
theorem served_iff_entitled [Driver] (hashKey : String → String) (ambient : Ambient)
    (group : RouteGroup) (state : AppState) (request : Request) :
    (∃ later handled, group.serve hashKey ambient state request = .next later handled) ↔
      ∃ record, Entitled hashKey ambient group state request record := by
  constructor
  · intro served
    obtain ⟨later, handled, executed⟩ := served
    exact served_entitled group executed
  · intro entitled
    obtain ⟨record, entitled⟩ := entitled
    exact entitled.served

end SpellServer
