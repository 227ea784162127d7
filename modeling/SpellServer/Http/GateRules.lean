import SpellServer.Http.Gates
import SpellServer.Store.Locality

/-!
# What each gate lets through

One rule for each gate: what holds of a request that it passes on, and what it
leaves unchanged.  The rules of the key gates rest on what `authenticate` and
`touch_last_used` do when nothing else runs in between.
-/

namespace SpellServer

open Library

/-! ## The store's operations -/

theorem OnlyKeys.setKeys (store : Store) (keys : Dict String KeyRecord) :
    OnlyKeys store { store with keys } :=
  ⟨⟨rfl, rfl⟩, ⟨rfl, rfl, rfl⟩, ⟨rfl, rfl⟩⟩

namespace Store

variable [Driver] (hashKey : String → String) (ambient : Ambient) (store : Store)

theorem authenticate_poisoned (rawKey : String) (poisoned : store.keysPoisoned = true) :
    store.authenticate hashKey ambient rawKey = none := by
  simp [authenticate, runAlone, Op.entry, Frame.exec, KeyFrame.exec, KeyFrame.withKeys, poisoned]

/-- Where a record that authenticates comes from. -/
def Files (keyHash : String) (record : KeyRecord) : Prop :=
  store.keys.lookup keyHash = some record ∨
    ∃ row, store.pool.selectApiKey keyHash = some row ∧ record = keyRecordFromRow row

theorem authenticate_healthy (rawKey : String) (healthy : store.keysPoisoned = false) :
    ∃ after answer, store.authenticate hashKey ambient rawKey = some (after, answer) ∧
      OnlyKeys store after ∧ after.keysPoisoned = false ∧
      ∀ record, answer = some record →
        record.isActive ambient.authLookup.now.seconds = true ∧
          store.Files (hashKey rawKey) record := by
  cases hit : (store.keys.lookup (hashKey rawKey)).filter
      (KeyRecord.isActive · ambient.authLookup.now.seconds) with
  | some record =>
      obtain ⟨cached, active⟩ := Option.filter_eq_some_iff.mp hit
      refine ⟨store, some record, ?_, .refl store, healthy, ?_⟩
      · simp [authenticate, runAlone, Op.entry, Frame.exec, KeyFrame.exec,
          KeyFrame.withKeys_healthy healthy, hit]
      · intro other same
        cases same
        exact ⟨active, Or.inl cached⟩
  | none =>
      cases loaded : ambient.authLoad.execute (store.pool.selectApiKey (hashKey rawKey)) with
      | none =>
          refine ⟨store, none, ?_, .refl store, healthy, ?_⟩
          · simp [authenticate, runAlone, Op.entry, Frame.exec, KeyFrame.exec,
              KeyFrame.withKeys_healthy healthy, hit, loaded]
          · intro other same
            cases same
      | some row =>
          have selected := (Input.execute_eq_some.mp loaded).2
          by_cases active :
              (keyRecordFromRow row).isActive ambient.authLookup.now.seconds = true
          · let record := keyRecordFromRow row
            let keys := AList.insert (hashKey rawKey) record
              (store.keys.retain fun _ other => other.id ≠ record.id)
            refine ⟨{ store with keys }, some record, ?_, .setKeys store keys, healthy, ?_⟩
            · simp [authenticate, runAlone, Op.entry, Frame.exec, KeyFrame.exec,
                KeyFrame.withKeys_healthy healthy, hit, loaded, active, keys, record]
            · intro other same
              cases same
              exact ⟨active, Or.inr ⟨row, selected, rfl⟩⟩
          · refine ⟨store, none, ?_, .refl store, healthy, ?_⟩
            · simp [authenticate, runAlone, Op.entry, Frame.exec, KeyFrame.exec,
                KeyFrame.withKeys_healthy healthy, hit, loaded, active]
            · intro other same
              cases same

theorem touchLastUsed_poisoned (id : String) (poisoned : store.keysPoisoned = true) :
    store.touchLastUsed hashKey ambient id = none := by
  have panics : ((Op.touchLastUsed id).entry.exec hashKey ambient.touchFind store).next =
      .returned .panicked := by
    simp [Op.entry, Frame.exec, KeyFrame.exec, KeyFrame.withKeys, poisoned]
  simp only [touchLastUsed, panics]

theorem touchLastUsed_healthy (id : String) (healthy : store.keysPoisoned = false) :
    ∃ after, store.touchLastUsed hashKey ambient id =
        some (after, [.lastUsedAt id ambient.touchFind.now]) ∧ OnlyKeys store after := by
  cases found : store.keys.findEntry (fun record => record.id = id) ambient.touchFind.hint with
  | none =>
      refine ⟨store, ?_, .refl store⟩
      simp [touchLastUsed, Op.entry, Frame.exec, KeyFrame.exec,
        KeyFrame.withKeys_healthy healthy, found]
  | some entry =>
      let keys := store.keys.modify entry.2.keyHash
        (KeyRecord.touch ambient.touchFind.now.seconds)
      refine ⟨{ store with keys }, ?_, .setKeys store keys⟩
      simp [touchLastUsed, Op.entry, Frame.exec, KeyFrame.exec,
        KeyFrame.withKeys_healthy healthy, found, keys]

end Store

/-! ## Key gates -/

section

variable [Driver] (hashKey : String → String) (ambient : Ambient)

/-- What `authenticate` returns for the key a request presents. -/
def presentedKey (store : Store) (request : Request) : Option KeyRecord :=
  request.rawKey.bind fun rawKey => (store.authenticate hashKey ambient rawKey).bind Prod.snd

/-- A key gate has found the record, seeing the request under the address. -/
structure KeyAccepted (ip : IpAddr) (state : AppState) (request : Request) (record : KeyRecord)
    (later : AppState) : Prop where
  cool : ¬state.rateLimiter.InCooldown ambient.checkedAt ip
  presented : presentedKey hashKey ambient state.store request = some record
  tenants : later.store.tenants = state.store.tenants
  origins : later.store.originsByTenant = state.store.originsByTenant
  config : later.config = state.config

/-- The limiter and the header let the request through to a poisoned lock. -/
structure LookupPoisoned (ip : IpAddr) (state : AppState) (request : Request) : Prop where
  cool : ¬state.rateLimiter.InCooldown ambient.checkedAt ip
  presents : request.rawKey.isSome = true
  poisoned : state.store.keysPoisoned = true

theorem presentedKey_eq_some {store : Store} {request : Request} {record : KeyRecord}
    (presented : presentedKey hashKey ambient store request = some record) :
    store.keysPoisoned = false ∧ record.isActive ambient.authLookup.now.seconds = true ∧
      ∃ rawKey, request.rawKey = some rawKey ∧ store.Files (hashKey rawKey) record := by
  obtain ⟨rawKey, given, answered⟩ := Option.bind_eq_some_iff.mp presented
  obtain ⟨result, authenticated, answer⟩ := Option.bind_eq_some_iff.mp answered
  cases healthy : store.keysPoisoned with
  | true =>
      rw [store.authenticate_poisoned hashKey ambient rawKey healthy] at authenticated
      cases authenticated
  | false =>
      obtain ⟨after, found, same, _, _, holds⟩ :=
        store.authenticate_healthy hashKey ambient rawKey healthy
      rw [same] at authenticated
      cases authenticated
      obtain ⟨active, files⟩ := holds record answer
      exact ⟨rfl, active, rawKey, given, files⟩

/-- Turned away, or on to a poisoned lock, or the rest of the gate. -/
theorem resolveKey_cases (ip : IpAddr) (state : AppState) (request : Request)
    (accept : AppState → KeyRecord → Verdict) :
    (∃ later error, resolveKey hashKey ambient ip state request accept = .reject later error ∧
      error.statusCode ≠ 403 ∧ ¬LookupPoisoned ambient ip state request) ∨
    (resolveKey hashKey ambient ip state request accept = .panicked state .poisoned ∧
      LookupPoisoned ambient ip state request) ∨
    ∃ later record, resolveKey hashKey ambient ip state request accept = accept later record ∧
      KeyAccepted hashKey ambient ip state request record later ∧
      later.store.keysPoisoned = false := by
  rcases state.rateLimiter.check_cases ambient.checkedAt ip with
    ⟨remaining, checked, cooling⟩ | ⟨checked, cool⟩
  · left
    refine ⟨state, .rateLimited (max (asSecs remaining) 1), ?_, by simp [AppError.statusCode], ?_⟩
    · simp only [resolveKey, checked]
    · exact fun poisoned => poisoned.cool cooling
  · let failed := state.rateLimiter.recordFailure ambient.failedAt ip
    cases given : request.rawKey with
    | none =>
        left
        refine ⟨{ state with rateLimiter := failed }, .unauthorized, ?_, by decide, ?_⟩
        · simp only [resolveKey, checked, given, failed]
        · intro poisoned
          have presents := poisoned.presents
          rw [given] at presents
          cases presents
    | some rawKey =>
        cases healthy : state.store.keysPoisoned with
        | true =>
            right; left
            refine ⟨?_, cool, by rw [given]; rfl, healthy⟩
            simp only [resolveKey, checked, given,
              state.store.authenticate_poisoned hashKey ambient rawKey healthy]
        | false =>
            obtain ⟨after, answer, authenticated, only, unpoisoned, _⟩ :=
              state.store.authenticate_healthy hashKey ambient rawKey healthy
            cases answer with
            | none =>
                left
                refine ⟨{ state with store := after, rateLimiter := failed }, .unauthorized, ?_,
                  by decide, ?_⟩
                · simp only [resolveKey, checked, given, authenticated, failed]
                · intro poisoned
                  cases healthy.symm.trans poisoned.poisoned
            | some record =>
                right; right
                refine ⟨{ state with store := after }, record, ?_, ?_, unpoisoned⟩
                · simp only [resolveKey, checked, given, authenticated]
                · refine ⟨cool, ?_, only.tenants.tenants, only.origins.originsByTenant, rfl⟩
                  simp [presentedKey, given, authenticated]

theorem admitKey_healthy {state : AppState} (request : Request) (record : KeyRecord)
    (healthy : state.store.keysPoisoned = false) :
    ∃ later, admitKey hashKey ambient request state record =
        .next later { request with keyRecord := some record } ∧
      later.store.tenants = state.store.tenants ∧
      later.store.originsByTenant = state.store.originsByTenant ∧
      later.config = state.config := by
  obtain ⟨after, touched, only⟩ :=
    state.store.touchLastUsed_healthy hashKey ambient record.id healthy
  refine ⟨{ state with
      store := after
      tasks := state.tasks ++ [.lastUsedAt record.id ambient.touchFind.now] }, ?_,
    only.tenants.tenants, only.origins.originsByTenant, rfl⟩
  simp only [admitKey, touched]

variable {hashKey ambient}

theorem KeyAccepted.admitted {ip : IpAddr} {state middle : AppState} {request : Request}
    {record : KeyRecord} (accepted : KeyAccepted hashKey ambient ip state request record middle)
    (healthy : middle.store.keysPoisoned = false) :
    ∃ later, admitKey hashKey ambient request middle record =
        .next later { request with keyRecord := some record } ∧
      KeyAccepted hashKey ambient ip state request record later := by
  obtain ⟨later, admits, tenants, origins, config⟩ :=
    admitKey_healthy hashKey ambient request record healthy
  exact ⟨later, admits, accepted.cool, accepted.presented, tenants.trans accepted.tenants,
    origins.trans accepted.origins, config.trans accepted.config⟩

variable (hashKey ambient) in
theorem requireActiveKey_cases (state : AppState) (request : Request) :
    (∃ later error, requireActiveKey hashKey ambient state request = .reject later error ∧
      error.statusCode ≠ 403 ∧
      ¬LookupPoisoned ambient (clientIp request.connectInfo) state request) ∨
    (requireActiveKey hashKey ambient state request = .panicked state .poisoned ∧
      LookupPoisoned ambient (clientIp request.connectInfo) state request) ∨
    ∃ later record, requireActiveKey hashKey ambient state request =
        .next later { request with keyRecord := some record } ∧
      KeyAccepted hashKey ambient (clientIp request.connectInfo) state request record later := by
  rcases resolveKey_cases hashKey ambient (clientIp request.connectInfo) state request
    (admitKey hashKey ambient request) with rejected | poisoned |
    ⟨middle, record, resolved, accepted, healthy⟩
  · exact Or.inl rejected
  · exact Or.inr (Or.inl poisoned)
  · right; right
    obtain ⟨later, admits, accepted⟩ := accepted.admitted healthy
    exact ⟨later, record, resolved.trans admits, accepted⟩

theorem requirePlatformKey_passes {state later : AppState} {request handled : Request}
    (passed : requirePlatformKey hashKey ambient state request = .next later handled) :
    request.headers.containsKey "origin" = false ∧ ∃ record, record.role = .platform ∧
      handled = { request with keyRecord := some record } ∧
      KeyAccepted hashKey ambient (clientIp request.connectInfo) state request record later := by
  unfold requirePlatformKey at passed
  split at passed
  · cases passed
  · rename_i absent
    refine ⟨by simpa using absent, ?_⟩
    rcases resolveKey_cases hashKey ambient (clientIp request.connectInfo) state request
      (fun resolved record =>
        if record.role ≠ .platform then .reject resolved .forbidden
        else admitKey hashKey ambient request resolved record) with
      ⟨_, _, rejected, _⟩ | ⟨poisoned, _⟩ | ⟨middle, record, resolved, accepted, healthy⟩
    · cases rejected.symm.trans passed
    · cases poisoned.symm.trans passed
    · rw [resolved] at passed
      split at passed
      · cases passed
      · rename_i platform
        obtain ⟨after, admits, accepted⟩ := accepted.admitted healthy
        cases admits.symm.trans passed
        exact ⟨record, by simpa using platform, rfl, accepted⟩

theorem requireDictionaryAdmin_passes {state later : AppState} {request handled : Request}
    (passed : requireDictionaryAdmin hashKey ambient state request = .next later handled) :
    request.headers.containsKey "origin" = false ∧ ∃ record, record.role = .platform ∧
      handled = { request with keyRecord := some record } ∧
      KeyAccepted hashKey ambient (request.resolvedIp state.config) state request record later ∧
      (state.config.dictionaryAdminCidrs ≠ [] →
        ∃ cidr ∈ state.config.dictionaryAdminCidrs,
          cidr.contains (request.resolvedIp state.config) = true) := by
  unfold requireDictionaryAdmin at passed
  split at passed
  · cases passed
  · rename_i absent
    refine ⟨by simpa using absent, ?_⟩
    rcases resolveKey_cases hashKey ambient (request.resolvedIp state.config) state request
      (fun resolved record =>
        let cidrs := resolved.config.dictionaryAdminCidrs
        if record.role ≠ .platform then .reject resolved .forbidden
        else if !cidrs.isEmpty &&
            !cidrs.any (fun cidr => cidr.contains (request.resolvedIp state.config)) then
          .reject resolved .forbidden
        else admitKey hashKey ambient request resolved record) with
      ⟨_, _, rejected, _⟩ | ⟨poisoned, _⟩ | ⟨middle, record, resolved, accepted, healthy⟩
    · cases rejected.symm.trans passed
    · cases poisoned.symm.trans passed
    · rw [resolved] at passed
      simp only [accepted.config] at passed
      split at passed
      · cases passed
      · rename_i platform
        split at passed
        · cases passed
        · rename_i inside
          obtain ⟨after, admits, accepted⟩ := accepted.admitted healthy
          cases admits.symm.trans passed
          refine ⟨record, by simpa using platform, rfl, accepted, ?_⟩
          intro restricted
          simpa [List.isEmpty_iff, restricted] using inside

end

/-! ## Gates behind a key -/

theorem withTenant_eq [Driver] {request : Request} {record : KeyRecord} {tenantId : String}
    (held : request.keyRecord = some record) (owned : record.tenantId = some tenantId)
    (state : AppState) (noRecord noTenant : String) (body : String → Verdict) :
    withTenant state request noRecord noTenant body = body tenantId := by
  simp only [withTenant, held, owned]

theorem withTenant_passes [Driver] {state later : AppState} {request handled : Request}
    {noRecord noTenant : String} {body : String → Verdict}
    (passed : withTenant state request noRecord noTenant body = .next later handled) :
    ∃ record tenantId, request.keyRecord = some record ∧ record.tenantId = some tenantId ∧
      body tenantId = .next later handled := by
  cases held : request.keyRecord with
  | none =>
      simp only [withTenant, held] at passed
      cases passed
  | some record =>
      cases owned : record.tenantId with
      | none =>
          simp only [withTenant, held, owned] at passed
          cases passed
      | some tenantId =>
          rw [withTenant_eq held owned] at passed
          exact ⟨record, tenantId, rfl, owned, passed⟩

section

variable [Driver] {state later : AppState} {request handled : Request}

theorem requireAdmin_passes (passed : requireAdmin state request = .next later handled) :
    later = state ∧ handled = request ∧
      ∃ record, request.keyRecord = some record ∧ record.role = .admin := by
  cases held : request.keyRecord with
  | none =>
      simp only [requireAdmin, held] at passed
      cases passed
  | some record =>
      simp only [requireAdmin, held] at passed
      split at passed
      · cases passed
      · rename_i admin
        cases passed
        exact ⟨rfl, rfl, record, rfl, by simpa using admin⟩

theorem requireActiveTenant_passes
    (passed : requireActiveTenant state request = .next later handled) :
    later = state ∧ handled = request ∧
      ∃ record tenantId, request.keyRecord = some record ∧ record.tenantId = some tenantId ∧
        ∀ info, state.store.getTenant tenantId = some info → info.suspendedAt = none := by
  obtain ⟨record, tenantId, held, owned, passed⟩ := withTenant_passes passed
  split at passed
  · cases passed
  · rename_i active
    cases passed
    refine ⟨rfl, rfl, record, tenantId, held, owned, ?_⟩
    intro info known
    simpa [Store.tenantSuspended, known] using active

theorem requireOriginBinding_passes
    (passed : requireOriginBinding state request = .next later handled) :
    later = state ∧ handled = request ∧
      ∀ record tenantId, request.keyRecord = some record → record.tenantId = some tenantId →
        ∀ value, request.headers.get "origin" = some value →
          ∃ origin, value.toStr = some origin ∧
            state.store.tenantOwnsOrigin tenantId origin = true := by
  unfold requireOriginBinding at passed
  split at passed
  · rename_i absent
    cases passed
    refine ⟨rfl, rfl, ?_⟩
    intro record tenantId _ _ value present
    cases absent.symm.trans present
  · rename_i origin present
    split at passed
    · cases passed
    · rename_i originStr text
      obtain ⟨record, tenantId, held, owned, passed⟩ := withTenant_passes passed
      split at passed
      · cases passed
      · rename_i owns
        cases passed
        refine ⟨rfl, rfl, ?_⟩
        intro other otherTenant otherHeld otherOwned value seen
        cases held.symm.trans otherHeld
        cases owned.symm.trans otherOwned
        cases present.symm.trans seen
        exact ⟨originStr, text, by simpa using owns⟩

theorem requireQuota_passes {hashKey : String → String} {ambient : Ambient}
    (passed : requireQuota hashKey ambient state request = .next later handled) :
    handled = request := by
  obtain ⟨record, tenantId, _, _, passed⟩ := withTenant_passes passed
  split at passed
  split at passed
  · cases passed
  · cases passed
    rfl

theorem recordUsage_passes (passed : recordUsage state request = .next later handled) :
    handled = request := by
  obtain ⟨record, tenantId, _, _, passed⟩ := withTenant_passes passed
  cases passed
  rfl

end

end SpellServer
