import SpellServer.Store.KeyOwnership
import SpellServer.Store.RoundTrip

/-!
# Tenant creation

`create_tenant` inserts a tenant and then its first admin key, each into a table
and a cache.  A failed second INSERT leaves the first half behind.
-/

namespace SpellServer

open Library

/-- A tenant and an active admin key of its own were added, and nothing else. -/
structure TenantAdded (store after : Store) (info : TenantInfo) (adminKey : CreatedApiKey) :
    Prop where
  newTenant : info.id ∉ store.pool.tenantIds ∧ store.getTenant info.id = none
  tenantRows : after.pool.tenants = store.pool.tenants ++ [newTenantRow info]
  tenants : after.tenants = store.tenants.insert info.id info
  newKey : adminKey.record.keyHash ∉ store.pool.apiKeys.map ApiKeyRow.keyHash ∧
    store.keys.lookup adminKey.record.keyHash = none
  keyRows : after.pool.apiKeys = store.pool.apiKeys ++ [newApiKeyRow adminKey.record]
  keys : after.keys = store.keys.insert adminKey.record.keyHash adminKey.record
  belongs : adminKey.record.tenantId = some info.id ∧ adminKey.record.role = .admin
  active : ∀ now, adminKey.record.isActive now = true
  otherRows : after.pool.tenantOrigins = store.pool.tenantOrigins ∧
    after.pool.dictionaries = store.pool.dictionaries
  otherCaches : after.originsAny = store.originsAny ∧
    after.originsByTenant = store.originsByTenant ∧ after.dictionaries = store.dictionaries ∧
    after.keysPoisoned = store.keysPoisoned

/-- A failed call changes no tenant and no key; one that succeeds adds both. -/
structure AllOrNothing (store after : Store) (result : Result) : Prop where
  failed : result = .err →
    after.pool.tenants = store.pool.tenants ∧ after.pool.apiKeys = store.pool.apiKeys ∧
    after.tenants = store.tenants ∧ after.keys = store.keys
  created : ∀ info adminKey, result = .createdTenant info adminKey →
    TenantAdded store after info adminKey

section

variable (hashKey : String → String) (store : Store) (name : String) (language : Option String)
  (quotaLimit periodStart periodEnd : Option UInt64)

/-- The INSERT of the tenant goes through and that of its key does not. -/
def KeyInsertFails [Driver] (inputs : List Input) : Prop :=
  ∃ input second keyInput rest pool, inputs = input :: second :: keyInput :: rest ∧
    let info := newTenant input name language quotaLimit periodStart periodEnd
    let adminKey := newApiKey hashKey keyInput (some info.id) "default" .admin none
    input.execute (store.pool.insertTenant (newTenantRow info)) = some pool ∧
      keyInput.execute (pool.insertApiKey (newApiKeyRow adminKey.record)) = none

end

section

variable [Driver] {hashKey : String → String} {world : World} {name : String}
  {language : Option String}
  {quotaLimit periodStart periodEnd : Option UInt64} {inputs : List Input} {after : Store}
  {result : Result}

theorem tenantAdded_of_inserts (owned : KeysOwned hashKey world) (present : TenantsPresent world)
    (injective : Function.Injective hashKey) {keyInput : Input} {pool later : Database}
    {info : TenantInfo} {adminKey : CreatedApiKey}
    (inserted : world.store.pool.insertTenant (newTenantRow info) = some pool)
    (created : adminKey = newApiKey hashKey keyInput (some info.id) "default" .admin none)
    (keyInserted : pool.insertApiKey (newApiKeyRow adminKey.record) = some later)
    (fresh : world.RawKeyFresh keyInput) :
    TenantAdded world.store
      { world.store with
        pool := later
        tenants := world.store.tenants.insert info.id info
        keys := world.store.keys.insert adminKey.record.keyHash adminKey.record }
      info adminKey := by
  obtain ⟨unknown, tenants, origins, apiKeys, dictionaries⟩ :=
    Database.insertTenant_eq_some inserted
  obtain ⟨⟨_, unused, _⟩, laterKeys, laterTenants, laterOrigins, laterDictionaries⟩ :=
    Database.insertApiKey_eq_some keyInserted
  have uncached : world.store.getTenant info.id = none := by
    rw [Option.eq_none_iff_forall_not_mem]
    intro other found
    exact unknown (present.cached found).2
  have unfiled : world.store.keys.lookup adminKey.record.keyHash = none := by
    rw [created]
    exact owned.uncached injective fresh
  exact {
    newTenant := ⟨unknown, uncached⟩
    tenantRows := laterTenants.trans tenants
    tenants := rfl
    newKey := ⟨apiKeys ▸ unused, unfiled⟩
    keyRows := laterKeys.trans (congrArg (· ++ [newApiKeyRow adminKey.record]) apiKeys)
    keys := rfl
    belongs := by
      rw [created]
      exact ⟨rfl, rfl⟩
    active := by
      intro now
      rw [created]
      rfl
    otherRows := ⟨laterOrigins.trans origins, laterDictionaries.trans dictionaries⟩
    otherCaches := ⟨rfl, rfl, rfl, rfl⟩ }

/-- A call that is not interrupted is all or nothing unless the key's INSERT alone fails. -/
theorem tenant_creation_iff (injective : Function.Injective hashKey)
    (reached : World.Reachable hashKey world) (fresh : ∀ input ∈ inputs, world.RawKeyFresh input)
    (ran : world.store.runAlone hashKey inputs
      (Op.createTenant name language quotaLimit periodStart periodEnd).entry =
        some (after, result)) :
    AllOrNothing world.store after result ↔
      ¬KeyInsertFails hashKey world.store name language quotaLimit periodStart periodEnd
        inputs := by
  obtain ⟨input, rest, rfl, ⟨refused, rfl, rfl⟩ | ⟨pool, second, later, executed, rfl, keyRan⟩⟩ :=
    Store.runAlone_createTenant_cases ran
  · -- The first INSERT failed.
    have goes : ¬KeyInsertFails hashKey world.store name language quotaLimit periodStart periodEnd
        (input :: rest) := by
      rintro ⟨_, _, _, _, pool, same, executed, _⟩
      cases same
      rw [refused] at executed
      cases executed
    refine iff_of_true ⟨fun _ => ⟨rfl, rfl, rfl, rfl⟩, ?_⟩ goes
    intro info adminKey same
    cases same
  · have inserted := (Input.execute_eq_some.mp executed).2
    obtain ⟨keyInput, rest, rfl, ⟨refused, rfl, rfl⟩ | ⟨keyPool, keyExecuted, ended⟩⟩ :=
      Store.runAlone_createInsert_cases keyRan
    · -- The second INSERT failed, and the first row stays.
      have fails : KeyInsertFails hashKey world.store name language quotaLimit periodStart
          periodEnd (input :: second :: keyInput :: rest) :=
        ⟨input, second, keyInput, rest, pool, rfl, executed, refused⟩
      refine iff_of_false ?_ (not_not_intro fails)
      intro unchanged
      have same := (unchanged.failed rfl).1
      obtain ⟨_, tenants, _⟩ := Database.insertTenant_eq_some inserted
      change pool.tenants = _ at same
      rw [tenants] at same
      exact absurd same (by simp)
    · have goes : ¬KeyInsertFails hashKey world.store name language quotaLimit periodStart
          periodEnd (input :: second :: keyInput :: rest) := by
        rintro ⟨_, _, _, _, other, same, otherExecuted, refused⟩
        cases same
        rw [executed] at otherExecuted
        cases otherExecuted
        rw [refused] at keyExecuted
        cases keyExecuted
      refine iff_of_true ?_ goes
      rcases ended with ⟨_, rfl⟩ | ⟨rfl, rfl⟩
      · -- A poisoned lock panics after both rows are written.
        constructor
        · intro same
          cases same
        · intro info adminKey same
          cases same
      · constructor
        · intro same
          cases same
        · intro info adminKey same
          cases same
          have keyFresh : world.RawKeyFresh keyInput := fresh keyInput (by simp)
          exact tenantAdded_of_inserts (World.reachable_keysOwned injective reached)
            (World.reachable_tenantsPresent reached) injective inserted rfl
            (Input.execute_eq_some.mp keyExecuted).2 keyFresh

end

open scoped DefaultBackend

/-- Four actions of a creation; `sql` is whether the key's INSERT reaches the database. -/
def acmeInputs (sql : Bool) : List Input :=
  [sampleInput 1 4, sampleInput 0 4, { sampleInput 2 1 with sql }, sampleInput 0 4]

theorem tenant_creation_iff_for_acme :
    ∃ (world : World) (after : Store) (info : TenantInfo) (adminKey : CreatedApiKey),
      info.name = "acme" ∧
      (AllOrNothing world.store after (.createdTenant info adminKey) ↔
        ¬KeyInsertFails sampleHash world.store "acme" none none none none (acmeInputs true)) := by
  let info := newTenant (sampleInput 1 4) "acme" none none none none
  let adminKey := newApiKey sampleHash (sampleInput 2 1) (some info.id) "default" .admin none
  obtain ⟨world, run, outcome⟩ :=
    World.exists_run sampleHash sequential [.restart (sampleInput 0 0).now (sampleInput 0 0)]
      (fun world => decide (∀ input ∈ acmeInputs true, world.RawKeyFresh input) &&
        (world.store.runAlone sampleHash (acmeInputs true)
          (Op.createTenant "acme" none none none none).entry).any
            fun (ended : Store × Result) => decide (ended.2 = .createdTenant info adminKey))
      (by decide +kernel)
  obtain ⟨fresh, ended⟩ := Bool.and_eq_true_iff.mp outcome
  obtain ⟨⟨after, result⟩, ran, same⟩ := (Option.any_eq_true _ _).mp ended
  cases of_decide_eq_true same
  exact ⟨world, after, info, adminKey, rfl,
    tenant_creation_iff sampleHash_injective ⟨_, run.weaken fun _ _ _ => trivial⟩
      (of_decide_eq_true fresh) ran⟩

/-- A tenant stays behind when the INSERT of its key fails. -/
theorem tenant_left_without_key : ¬∀ (hashKey : String → String) (world : World) (name : String)
    (language : Option String) (quotaLimit periodStart periodEnd : Option UInt64)
    (inputs : List Input) (after : Store) (result : Result), Function.Injective hashKey →
      World.Reachable hashKey world → (∀ input ∈ inputs, world.RawKeyFresh input) →
      world.store.runAlone hashKey inputs
          (Op.createTenant name language quotaLimit periodStart periodEnd).entry =
        some (after, result) →
      AllOrNothing world.store after result := by
  intro claim
  obtain ⟨world, run, outcome⟩ :=
    World.exists_run sampleHash sequential [.restart (sampleInput 0 0).now (sampleInput 0 0)]
      (fun world => decide (∀ input ∈ acmeInputs false, world.RawKeyFresh input) &&
        (world.store.runAlone sampleHash (acmeInputs false)
          (Op.createTenant "acme" none none none none).entry).any
            fun (ended : Store × Result) => decide (ended.2 = .err) &&
              decide (ended.1.pool.tenants ≠ world.store.pool.tenants))
      (by decide +kernel)
  obtain ⟨fresh, ended⟩ := Bool.and_eq_true_iff.mp outcome
  obtain ⟨⟨after, result⟩, ran, checked⟩ := (Option.any_eq_true _ _).mp ended
  obtain ⟨same, changed⟩ := Bool.and_eq_true_iff.mp checked
  cases of_decide_eq_true same
  have unchanged := claim sampleHash world "acme" none none none none (acmeInputs false) after .err
    sampleHash_injective ⟨_, run.weaken fun _ _ _ => trivial⟩ (of_decide_eq_true fresh) ran
  exact of_decide_eq_true changed (unchanged.failed rfl).1

end SpellServer
