import SpellServer.Store.World

/-!
# Which actions touch which part of the store

The four groups of operations work on disjoint parts of the store: a table and
its caches.  The lemmas here are the frame conditions of the other groups, and
the case lemmas tell what one event of a world does to a single part.
-/

namespace SpellServer

open Library

/-- Same `api_keys` table and key cache. -/
structure SameKeys (store other : Store) : Prop where
  apiKeys : other.pool.apiKeys = store.pool.apiKeys
  keys : other.keys = store.keys
  poisoned : other.keysPoisoned = store.keysPoisoned

/-- Same `tenants` table and tenant cache. -/
structure SameTenants (store other : Store) : Prop where
  rows : other.pool.tenants = store.pool.tenants
  tenants : other.tenants = store.tenants

/-- Same `tenant_origins` table and origin caches. -/
structure SameOrigins (store other : Store) : Prop where
  rows : other.pool.tenantOrigins = store.pool.tenantOrigins
  originsAny : other.originsAny = store.originsAny
  originsByTenant : other.originsByTenant = store.originsByTenant

/-- Same `dictionaries` table and cache. -/
structure SameDictionaries (store other : Store) : Prop where
  rows : other.pool.dictionaries = store.pool.dictionaries
  dictionaries : other.dictionaries = store.dictionaries

/-- Everything but the keys is the same. -/
structure OnlyKeys (store other : Store) : Prop where
  tenants : SameTenants store other
  origins : SameOrigins store other
  dictionaries : SameDictionaries store other

structure OnlyTenants (store other : Store) : Prop where
  keys : SameKeys store other
  origins : SameOrigins store other
  dictionaries : SameDictionaries store other

structure OnlyOrigins (store other : Store) : Prop where
  keys : SameKeys store other
  tenants : SameTenants store other
  dictionaries : SameDictionaries store other

structure OnlyDictionaries (store other : Store) : Prop where
  keys : SameKeys store other
  tenants : SameTenants store other
  origins : SameOrigins store other

theorem OnlyKeys.refl (store : Store) : OnlyKeys store store :=
  ⟨⟨rfl, rfl⟩, ⟨rfl, rfl, rfl⟩, ⟨rfl, rfl⟩⟩

theorem OnlyTenants.refl (store : Store) : OnlyTenants store store :=
  ⟨⟨rfl, rfl, rfl⟩, ⟨rfl, rfl, rfl⟩, ⟨rfl, rfl⟩⟩

theorem OnlyOrigins.refl (store : Store) : OnlyOrigins store store :=
  ⟨⟨rfl, rfl, rfl⟩, ⟨rfl, rfl⟩, ⟨rfl, rfl⟩⟩

theorem OnlyDictionaries.refl (store : Store) : OnlyDictionaries store store :=
  ⟨⟨rfl, rfl, rfl⟩, ⟨rfl, rfl⟩, ⟨rfl, rfl, rfl⟩⟩

theorem Input.execute_eq_some [Driver] {α : Type} {input : Input} {statement : Option α}
    {result : α} :
    input.execute statement = some result ↔ input.sql = true ∧ statement = some result := by
  unfold Input.execute
  cases input.sql <;> simp

theorem Input.execute_refused [Driver] {α : Type} {input : Input} {statement : Option α}
    (refused : input.sql = true → statement = none) : input.execute statement = none := by
  unfold Input.execute
  split
  · rename_i sql
    exact refused sql
  · rfl

theorem Input.execute_failure [Driver] {α : Type} {input : Input} (sql : input.sql = false)
    (statement : Option α) : input.execute statement = none := by
  simp [Input.execute, sql]

theorem Input.execute_success [Driver] {α : Type} {input : Input} (sql : input.sql = true)
    (statement : Option α) : input.execute statement = statement := by
  rw [Input.execute, if_pos sql]

namespace Database

theorem insertTenant_eq_some {database pool : Database} {row : TenantRow}
    (inserted : database.insertTenant row = some pool) :
    row.id ∉ database.tenants.map TenantRow.id ∧
      pool.tenants = database.tenants ++ [row] ∧
      pool.tenantOrigins = database.tenantOrigins ∧
      pool.apiKeys = database.apiKeys ∧
      pool.dictionaries = database.dictionaries := by
  unfold insertTenant at inserted
  split at inserted
  · rename_i fresh
    cases inserted
    exact ⟨fresh, rfl, rfl, rfl, rfl⟩
  · cases inserted

theorem insertApiKey_eq_some {database pool : Database} {row : ApiKeyRow}
    (inserted : database.insertApiKey row = some pool) :
    (row.id ∉ database.apiKeys.map ApiKeyRow.id ∧
      row.keyHash ∉ database.apiKeys.map ApiKeyRow.keyHash ∧
      ∀ tenantId ∈ row.tenantId, tenantId ∈ database.tenants.map TenantRow.id) ∧
      pool.apiKeys = database.apiKeys ++ [row] ∧
      pool.tenants = database.tenants ∧
      pool.tenantOrigins = database.tenantOrigins ∧
      pool.dictionaries = database.dictionaries := by
  unfold insertApiKey at inserted
  split at inserted
  · rename_i fresh
    cases inserted
    exact ⟨fresh, rfl, rfl, rfl, rfl⟩
  · cases inserted

theorem updateKeyHash_eq_some {database pool : Database} {id newHash : String}
    (updated : database.updateKeyHash id newHash = some pool) :
    (∀ row ∈ database.apiKeys, row.keyHash = newHash → row.id = id) ∧
      pool.apiKeys = database.apiKeys.map (fun row =>
        if row.id = id then { row with keyHash := newHash, lastUsedAt := none } else row) ∧
      pool.tenants = database.tenants ∧
      pool.tenantOrigins = database.tenantOrigins ∧
      pool.dictionaries = database.dictionaries := by
  unfold updateKeyHash at updated
  split at updated
  · rename_i free
    cases updated
    exact ⟨free, rfl, rfl, rfl, rfl⟩
  · cases updated

/-- What holds of the key rows and of a new one. -/
theorem forall_insertApiKey {database pool : Database} {row : ApiKeyRow} {holds : ApiKeyRow → Prop}
    (before : ∀ old ∈ database.apiKeys, holds old)
    (inserted : database.insertApiKey row = some pool) (new : holds row) :
    ∀ other ∈ pool.apiKeys, holds other := by
  obtain ⟨_, apiKeys, _⟩ := insertApiKey_eq_some inserted
  intro other member
  rw [apiKeys, List.mem_append, List.mem_singleton] at member
  rcases member with old | rfl
  · exact before other old
  · exact new

/-- What holds of the key rows and is kept by an update of the selected ones. -/
theorem forall_changeApiKeys {database pool : Database} {id : String}
    {change : ApiKeyRow → ApiKeyRow} {holds : ApiKeyRow → Prop}
    (before : ∀ old ∈ database.apiKeys, holds old)
    (changed : pool.apiKeys =
      database.apiKeys.map fun row => if row.id = id then change row else row)
    (keeps : ∀ old, holds old → holds (change old)) : ∀ other ∈ pool.apiKeys, holds other := by
  intro other member
  rw [changed] at member
  obtain ⟨old, oldMember, rfl⟩ := List.mem_map.mp member
  split
  · exact keeps old (before old oldMember)
  · exact before old oldMember

theorem insertApiKey_accepts {database : Database} {row : ApiKeyRow}
    (fresh : row.id ∉ database.apiKeys.map ApiKeyRow.id)
    (free : row.keyHash ∉ database.apiKeys.map ApiKeyRow.keyHash)
    (known : ∀ tenantId ∈ row.tenantId, tenantId ∈ database.tenants.map TenantRow.id) :
    ∃ pool, database.insertApiKey row = some pool :=
  ⟨_, dif_pos ⟨fresh, free, known⟩⟩

theorem updateKeyHash_accepts {database : Database} {id newHash : String}
    (free : newHash ∉ database.apiKeys.map ApiKeyRow.keyHash) :
    ∃ pool, database.updateKeyHash id newHash = some pool := by
  have unused : ∀ row ∈ database.apiKeys, row.keyHash = newHash → row.id = id := by
    intro row member same
    exact absurd (List.mem_map.mpr ⟨row, member, same⟩) free
  exact ⟨_, dif_pos unused⟩

theorem insertOrigin_eq_some {database pool : Database} {row : OriginRow}
    (inserted : database.insertOrigin row = some pool) :
    (row.id ∉ database.tenantOrigins.map OriginRow.id ∧
      row.owned ∉ database.tenantOrigins.map OriginRow.owned ∧
      row.tenantId ∈ database.tenants.map TenantRow.id) ∧
      pool.tenantOrigins = database.tenantOrigins ++ [row] ∧
      pool.tenants = database.tenants ∧
      pool.apiKeys = database.apiKeys ∧
      pool.dictionaries = database.dictionaries := by
  unfold insertOrigin at inserted
  split at inserted
  · rename_i fresh
    cases inserted
    exact ⟨fresh, rfl, rfl, rfl, rfl⟩
  · cases inserted

end Database

theorem KeyFrame.exec_local [Driver] (hashKey : String → String) (input : Input) (store : Store)
    (frame : KeyFrame) : OnlyKeys store (frame.exec hashKey input store).store := by
  cases frame with
  | createInsert tenantId label role expiresAt caller =>
      simp only [KeyFrame.exec]
      split
      · exact .refl store
      · rename_i pool executed
        obtain ⟨_, inserted⟩ := Input.execute_eq_some.mp executed
        obtain ⟨_, _, tenants, origins, dictionaries⟩ :=
          Database.insertApiKey_eq_some inserted
        exact ⟨⟨tenants, rfl⟩, ⟨origins, rfl, rfl⟩, ⟨dictionaries, rfl⟩⟩
  | rotateUpdate oldHash id caller =>
      simp only [KeyFrame.exec]
      split
      · exact .refl store
      · rename_i pool executed
        obtain ⟨_, updated⟩ := Input.execute_eq_some.mp executed
        obtain ⟨_, _, tenants, origins, dictionaries⟩ :=
          Database.updateKeyHash_eq_some updated
        exact ⟨⟨tenants, rfl⟩, ⟨origins, rfl, rfl⟩, ⟨dictionaries, rfl⟩⟩
  | revokeUpdate id keyHash =>
      simp only [KeyFrame.exec]
      split
      · exact .refl store
      · rename_i pool executed
        obtain ⟨_, updated⟩ := Input.execute_eq_some.mp executed
        cases updated
        exact ⟨⟨rfl, rfl⟩, ⟨rfl, rfl, rfl⟩, ⟨rfl, rfl⟩⟩
  | createCache created caller | revokeMark id keyHash revokedAt | authStore hash record
  | touchMark id keyHash nowTs =>
      simp only [KeyFrame.exec, KeyFrame.withKeys]
      split <;> exact ⟨⟨rfl, rfl⟩, ⟨rfl, rfl, rfl⟩, ⟨rfl, rfl⟩⟩
  | revokeFind tenantId id | rotateFind tenantId id | resetFind | authLookup rawKey
  | touchFind id | rotateRekey oldHash newHash rawKey id caller =>
      simp only [KeyFrame.exec, KeyFrame.withKeys]
      split
      · exact .refl store
      · split <;> exact ⟨⟨rfl, rfl⟩, ⟨rfl, rfl, rfl⟩, ⟨rfl, rfl⟩⟩
  | authLoad hash now =>
      simp only [KeyFrame.exec]
      split
      · exact .refl store
      · split <;> exact .refl store

theorem TenantFrame.exec_local [Driver] (input : Input) (store : Store) (frame : TenantFrame) :
    OnlyTenants store (frame.exec input store).store := by
  cases frame with
  | createInsert name language quotaLimit periodStart periodEnd =>
      simp only [TenantFrame.exec]
      split
      · exact .refl store
      · rename_i pool executed
        obtain ⟨_, inserted⟩ := Input.execute_eq_some.mp executed
        obtain ⟨_, _, origins, apiKeys, dictionaries⟩ :=
          Database.insertTenant_eq_some inserted
        exact ⟨⟨apiKeys, rfl, rfl⟩, ⟨origins, rfl, rfl⟩, ⟨dictionaries, rfl⟩⟩
  | updateWrite id snapshot | suspendWrite id suspended =>
      simp only [TenantFrame.exec]
      split
      · exact .refl store
      · rename_i pool executed
        obtain ⟨_, updated⟩ := Input.execute_eq_some.mp executed
        cases updated
        exact ⟨⟨rfl, rfl, rfl⟩, ⟨rfl, rfl, rfl⟩, ⟨rfl, rfl⟩⟩
  | createCache info | suspendCache id suspendedAt =>
      exact ⟨⟨rfl, rfl, rfl⟩, ⟨rfl, rfl, rfl⟩, ⟨rfl, rfl⟩⟩
  | updateCheck id patch | updateApply id patch | suspendCheck id suspended =>
      simp only [TenantFrame.exec]
      split <;> exact ⟨⟨rfl, rfl, rfl⟩, ⟨rfl, rfl, rfl⟩, ⟨rfl, rfl⟩⟩
  | consumeQuota tenantId =>
      simp only [TenantFrame.exec]
      split
      · exact .refl store
      · split <;> exact ⟨⟨rfl, rfl, rfl⟩, ⟨rfl, rfl, rfl⟩, ⟨rfl, rfl⟩⟩

theorem OriginFrame.exec_local [Driver] (input : Input) (store : Store) (frame : OriginFrame) :
    OnlyOrigins store (frame.exec input store).store := by
  cases frame with
  | registerInsert tenantId origin =>
      simp only [OriginFrame.exec]
      split
      · exact .refl store
      · rename_i pool executed
        obtain ⟨_, inserted⟩ := Input.execute_eq_some.mp executed
        obtain ⟨_, _, tenants, apiKeys, dictionaries⟩ :=
          Database.insertOrigin_eq_some inserted
        exact ⟨⟨apiKeys, rfl, rfl⟩, ⟨tenants, rfl⟩, ⟨dictionaries, rfl⟩⟩
  | revokeSelect tenantId id =>
      simp only [OriginFrame.exec]
      split
      · split <;> exact .refl store
      · exact .refl store
  | revokeDelete tenantId id origin =>
      simp only [OriginFrame.exec]
      split
      · exact .refl store
      · rename_i pool executed
        obtain ⟨_, updated⟩ := Input.execute_eq_some.mp executed
        cases updated
        exact ⟨⟨rfl, rfl, rfl⟩, ⟨rfl, rfl⟩, ⟨rfl, rfl⟩⟩
  | registerAny info | registerByTenant info | revokeByTenant tenantId origin
  | revokeAny origin =>
      exact ⟨⟨rfl, rfl, rfl⟩, ⟨rfl, rfl⟩, ⟨rfl, rfl⟩⟩
  | revokeStillOwned origin =>
      simp only [OriginFrame.exec]
      split <;> exact .refl store

theorem DictionaryFrame.exec_local [Driver] (input : Input) (store : Store)
    (frame : DictionaryFrame) :
    OnlyDictionaries store (frame.exec input store).store := by
  cases frame with
  | registerUpsert code sourceUrl =>
      simp only [DictionaryFrame.exec]
      split
      · exact .refl store
      · rename_i pool executed
        obtain ⟨_, upserted⟩ := Input.execute_eq_some.mp executed
        cases upserted
        simp only [Database.upsertDictionary]
        split <;> exact ⟨⟨rfl, rfl, rfl⟩, ⟨rfl, rfl⟩, ⟨rfl, rfl, rfl⟩⟩
  | registerSelect code =>
      simp only [DictionaryFrame.exec]
      split <;> exact .refl store
  | registerCache code info =>
      exact ⟨⟨rfl, rfl, rfl⟩, ⟨rfl, rfl⟩, ⟨rfl, rfl, rfl⟩⟩

/-! ## Where a call goes next -/

theorem KeyFrame.exec_next [Driver] {hashKey : String → String} {input : Input} {store : Store}
    {frame : KeyFrame} {other : Frame}
    (goes : (frame.exec hashKey input store).next = .running other) :
    ∃ later, other = .key later := by
  cases frame <;> simp only [KeyFrame.exec, KeyFrame.withKeys] at goes <;>
    (repeat' split at goes) <;> cases goes <;> exact ⟨_, rfl⟩

theorem KeyFrame.exec_spawned [Driver] {hashKey : String → String} {input : Input} {store : Store}
    {frame : KeyFrame} {task : Task} (spawned : task ∈ (frame.exec hashKey input store).spawned) :
    ∃ id nowTs, task = .lastUsedAt id nowTs := by
  cases frame <;> simp only [KeyFrame.exec, KeyFrame.withKeys] at spawned <;>
    (repeat' split at spawned) <;> simp_all

/-- Only `create_tenant` goes on as a call of another group. -/
theorem TenantFrame.exec_next [Driver] {input : Input} {store : Store} {frame : TenantFrame}
    {other : Frame} (goes : (frame.exec input store).next = .running other) :
    (∃ later, other = .tenant later) ∨
      ∃ tenantId info,
        other = .key (.createInsert (some tenantId) "default" .admin none (.createTenant info)) := by
  cases frame <;> simp only [TenantFrame.exec] at goes <;> (repeat' split at goes) <;>
    cases goes <;> first | exact Or.inl ⟨_, rfl⟩ | exact Or.inr ⟨_, _, rfl⟩

theorem TenantFrame.exec_issued [Driver] (input : Input) (store : Store) (frame : TenantFrame) :
    (frame.exec input store).issued = [] := by
  cases frame <;> simp only [TenantFrame.exec] <;> (repeat' split) <;> rfl

theorem TenantFrame.exec_spawned [Driver] {input : Input} {store : Store} {frame : TenantFrame}
    {task : Task} (spawned : task ∈ (frame.exec input store).spawned) :
    ∃ tenantId newCount, task = .requestCount tenantId newCount := by
  cases frame <;> simp only [TenantFrame.exec] at spawned <;> (repeat' split at spawned) <;>
    simp_all

theorem OriginFrame.exec_next [Driver] {input : Input} {store : Store} {frame : OriginFrame}
    {other : Frame} (goes : (frame.exec input store).next = .running other) :
    ∃ later, other = .origin later := by
  cases frame <;> simp only [OriginFrame.exec] at goes <;> (repeat' split at goes) <;>
    cases goes <;> exact ⟨_, rfl⟩

theorem OriginFrame.exec_quiet [Driver] (input : Input) (store : Store) (frame : OriginFrame) :
    (frame.exec input store).spawned = [] ∧ (frame.exec input store).issued = [] := by
  cases frame <;> simp only [OriginFrame.exec] <;> (repeat' split) <;> exact ⟨rfl, rfl⟩

theorem DictionaryFrame.exec_next [Driver] {input : Input} {store : Store} {frame : DictionaryFrame}
    {other : Frame} (goes : (frame.exec input store).next = .running other) :
    ∃ later, other = .dictionary later := by
  cases frame <;> simp only [DictionaryFrame.exec] at goes <;> (repeat' split at goes) <;>
    cases goes <;> exact ⟨_, rfl⟩

theorem DictionaryFrame.exec_quiet [Driver] (input : Input) (store : Store)
    (frame : DictionaryFrame) :
    (frame.exec input store).spawned = [] ∧ (frame.exec input store).issued = [] := by
  cases frame <;> simp only [DictionaryFrame.exec] <;> (repeat' split) <;> exact ⟨rfl, rfl⟩

/-! ## One event, seen from one group -/

def isRestart [Driver] : Event → Bool
  | .restart _ _ => true
  | _ => false

def Frame.key? [Driver] : Frame → Option KeyFrame
  | .key frame => some frame
  | _ => none

def Frame.tenant? [Driver] : Frame → Option TenantFrame
  | .tenant frame => some frame
  | _ => none

def Frame.origin? [Driver] : Frame → Option OriginFrame
  | .origin frame => some frame
  | _ => none

def KeyFrame.IsEntry [Driver] : KeyFrame → Prop
  | .createInsert .. | .revokeFind .. | .rotateFind .. | .resetFind | .authLookup ..
  | .touchFind .. => True
  | _ => False

def TenantFrame.IsEntry [Driver] : TenantFrame → Prop
  | .createInsert .. | .updateCheck .. | .suspendCheck .. | .consumeQuota .. => True
  | _ => False

def OriginFrame.IsEntry : OriginFrame → Prop
  | .registerInsert .. | .revokeSelect .. => True
  | _ => False

theorem Store.open_cases [Driver] {hashKey : String → String} {now : Clock} {input : Input}
    {pool : Database} {opened : Opened} (success : Store.open hashKey now input pool = some opened) :
    (opened = { store := Store.reload pool, bootstrap := none }) ∨
      ∃ inserted,
        pool.insertApiKey
            (newApiKeyRow (newApiKey hashKey input none "bootstrap" .platform none).record) =
          some inserted ∧
        opened =
          { store :=
              { Store.reload pool with
                pool := inserted
                keys := AList.insert (hashKey input.rawKey)
                  (newApiKey hashKey input none "bootstrap" .platform none).record
                  (Store.reload pool).keys }
            bootstrap := some (newApiKey hashKey input none "bootstrap" .platform none) } := by
  simp only [Store.open] at success
  split at success
  · exact Or.inl (Option.some.inj success).symm
  · obtain ⟨inserted, executed, result⟩ := Option.map_eq_some_iff.mp success
    exact Or.inr ⟨inserted, (Input.execute_eq_some.mp executed).2, result.symm⟩

theorem Store.open_local [Driver] {hashKey : String → String} {now : Clock} {input : Input}
    {pool : Database} {opened : Opened} (success : Store.open hashKey now input pool = some opened) :
    OnlyKeys (Store.reload pool) opened.store := by
  rcases Store.open_cases success with rfl | ⟨inserted, accepted, rfl⟩
  · exact .refl _
  · obtain ⟨_, _, tenants, origins, dictionaries⟩ := Database.insertApiKey_eq_some accepted
    exact ⟨⟨tenants, rfl⟩, ⟨origins, rfl, rfl⟩, ⟨dictionaries, rfl⟩⟩

namespace World

variable [Driver] {hashKey : String → String} {world next : World} {event : Event}

theorem key_cases (taken : world.step hashKey event = some next) :
    (SameKeys world.store next.store ∧
      Calls.Undisturbed Frame.key? KeyFrame.IsEntry world.calls next.calls ∧
      next.issued = world.issued ∧
      ∀ id nowTs, .lastUsedAt id nowTs ∈ next.tasks → .lastUsedAt id nowTs ∈ world.tasks) ∨
    (∃ ticket input frame, event = .act ticket input ∧ world.RawKeyFresh input ∧
      world.calls.frameAt ticket = some (.key frame) ∧
      next = world.acted ticket (frame.exec hashKey input world.store)) ∨
    (∃ id nowTs, .lastUsedAt id nowTs ∈ world.tasks ∧
      next.store.pool = world.store.pool.updateLastUsedAt id nowTs.seconds.toInt64 ∧
      next.store.keys = world.store.keys ∧
      next.store.keysPoisoned = world.store.keysPoisoned ∧
      next.calls = world.calls ∧ next.issued = world.issued ∧
      ∀ task ∈ next.tasks, task ∈ world.tasks) ∨
    (∃ now input opened, event = .restart now input ∧ world.RawKeyFresh input ∧
      Store.open hashKey now input world.store.pool = some opened ∧
      next =
        { store := opened.store
          tasks := []
          calls := world.calls.dropRunning
          issued := world.issued ++ opened.issued }) := by
  rcases step_cases taken with ⟨ticket, op, rfl, free, rfl⟩ |
    ⟨ticket, input, frame, rfl, fresh, running, rfl⟩ |
    ⟨position, succeeds, task, rfl, pending, rfl⟩ |
    ⟨now, input, opened, rfl, fresh, success, rfl⟩
  · left
    refine ⟨⟨rfl, rfl, rfl⟩, .of_start free ?_, rfl, fun _ _ member => member⟩
    intro frame entry
    cases op <;> cases entry <;> trivial
  · cases frame with
    | key frame => exact Or.inr (Or.inl ⟨ticket, input, frame, rfl, fresh, running, rfl⟩)
    | tenant frame =>
        left
        refine ⟨(frame.exec_local input world.store).keys, .of_advance running rfl ?_, ?_, ?_⟩
        · intro other mine arrives seen
          rcases TenantFrame.exec_next arrives with ⟨later, rfl⟩ | ⟨tenantId, info, rfl⟩
          · cases seen
          · cases seen
            trivial
        · simp [acted, Frame.exec, frame.exec_issued]
        · intro id nowTs member
          rcases List.mem_append.mp member with old | spawned
          · exact old
          · obtain ⟨tenantId, newCount, same⟩ := TenantFrame.exec_spawned spawned
            cases same
    | origin frame =>
        left
        obtain ⟨noTasks, noKeys⟩ := frame.exec_quiet input world.store
        refine ⟨(frame.exec_local input world.store).keys, .of_advance running rfl ?_, ?_, ?_⟩
        · intro other mine arrives seen
          obtain ⟨later, rfl⟩ := OriginFrame.exec_next arrives
          cases seen
        · simp [acted, Frame.exec, noKeys]
        · simp [acted, Frame.exec, noTasks]
    | dictionary frame =>
        left
        obtain ⟨noTasks, noKeys⟩ := frame.exec_quiet input world.store
        refine ⟨(frame.exec_local input world.store).keys, .of_advance running rfl ?_, ?_, ?_⟩
        · intro other mine arrives seen
          obtain ⟨later, rfl⟩ := DictionaryFrame.exec_next arrives
          cases seen
        · simp [acted, Frame.exec, noKeys]
        · simp [acted, Frame.exec, noTasks]
  · cases task with
    | lastUsedAt id nowTs =>
        cases succeeds with
        | true =>
            right; right; left
            exact ⟨id, nowTs, List.mem_of_getElem? pending, rfl, rfl, rfl, rfl, rfl,
              fun task => List.mem_of_mem_eraseIdx⟩
        | false =>
            left
            exact ⟨⟨rfl, rfl, rfl⟩, .refl _, rfl, fun _ _ => List.mem_of_mem_eraseIdx⟩
    | requestCount tenantId newCount =>
        left
        refine ⟨⟨?_, rfl, rfl⟩, .refl _, rfl, fun _ _ => List.mem_of_mem_eraseIdx⟩
        cases succeeds <;> rfl
  · exact Or.inr (Or.inr (Or.inr ⟨now, input, opened, rfl, fresh, success, rfl⟩))

private theorem outside {ticket : ℕ} {input : Input} {frame : Frame}
    (running : world.calls.frameAt ticket = some frame) (elsewhere : frame.tenant? = none) :
    ∀ other otherInput, Event.act ticket input = .act other otherInput →
      world.calls.viewAt Frame.tenant? other = none := by
  intro other otherInput same
  cases same
  rw [Calls.viewAt, running, Option.bind_some, elsewhere]

theorem tenant_cases (taken : world.step hashKey event = some next) :
    (SameTenants world.store next.store ∧
      Calls.Undisturbed Frame.tenant? TenantFrame.IsEntry world.calls next.calls ∧
      (∀ id newCount, .requestCount id newCount ∈ next.tasks →
        .requestCount id newCount ∈ world.tasks) ∧
      isRestart event = false ∧
      ∀ ticket input, event = .act ticket input →
        world.calls.viewAt Frame.tenant? ticket = none) ∨
    (∃ ticket input frame, event = .act ticket input ∧
      world.calls.frameAt ticket = some (.tenant frame) ∧
      next = world.acted ticket (frame.exec input world.store)) ∨
    (∃ position succeeds id newCount, event = .background position succeeds ∧
      .requestCount id newCount ∈ world.tasks ∧
      next.store.pool = world.store.pool.updateRequestCount id newCount ∧
      next.store.tenants = world.store.tenants ∧
      next.calls = world.calls ∧ ∀ task ∈ next.tasks, task ∈ world.tasks) ∨
    (isRestart event = true ∧ SameTenants (Store.reload world.store.pool) next.store ∧
      (∀ ticket, next.calls.frameAt ticket = none) ∧ next.tasks = []) := by
  rcases step_cases taken with ⟨ticket, op, rfl, free, rfl⟩ |
    ⟨ticket, input, frame, rfl, fresh, running, rfl⟩ |
    ⟨position, succeeds, task, rfl, pending, rfl⟩ |
    ⟨now, input, opened, rfl, fresh, success, rfl⟩
  · left
    refine ⟨⟨rfl, rfl⟩, .of_start free ?_, fun _ _ member => member, rfl, ?_⟩
    · intro frame entry
      cases op <;> cases entry <;> trivial
    · intro other input same
      cases same
  · cases frame with
    | key frame =>
        left
        refine ⟨(frame.exec_local hashKey input world.store).tenants,
          .of_advance running rfl ?_, ?_, rfl, outside running rfl⟩
        · intro other mine arrives seen
          obtain ⟨later, rfl⟩ := KeyFrame.exec_next arrives
          cases seen
        · intro id newCount member
          rcases List.mem_append.mp member with old | spawned
          · exact old
          · obtain ⟨_, nowTs, same⟩ := KeyFrame.exec_spawned spawned
            cases same
    | tenant frame =>
        right; left
        exact ⟨ticket, input, frame, rfl, running, rfl⟩
    | origin frame =>
        left
        refine ⟨(frame.exec_local input world.store).tenants, .of_advance running rfl ?_, ?_, rfl,
          outside running rfl⟩
        · intro other mine arrives seen
          obtain ⟨later, rfl⟩ := OriginFrame.exec_next arrives
          cases seen
        · simp [acted, Frame.exec, (frame.exec_quiet input world.store).1]
    | dictionary frame =>
        left
        refine ⟨(frame.exec_local input world.store).tenants, .of_advance running rfl ?_, ?_, rfl,
          outside running rfl⟩
        · intro other mine arrives seen
          obtain ⟨later, rfl⟩ := DictionaryFrame.exec_next arrives
          cases seen
        · simp [acted, Frame.exec, (frame.exec_quiet input world.store).1]
  · cases task with
    | lastUsedAt id nowTs =>
        left
        refine ⟨⟨?_, rfl⟩, .refl _, fun _ _ => List.mem_of_mem_eraseIdx, rfl, ?_⟩
        · cases succeeds <;> rfl
        · intro ticket input same
          cases same
    | requestCount tenantId newCount =>
        cases succeeds with
        | true =>
            right; right; left
            exact ⟨position, true, tenantId, newCount, rfl, List.mem_of_getElem? pending, rfl, rfl,
              rfl, fun task => List.mem_of_mem_eraseIdx⟩
        | false =>
            left
            refine ⟨⟨rfl, rfl⟩, .refl _, fun _ _ => List.mem_of_mem_eraseIdx, rfl, ?_⟩
            intro ticket input same
            cases same
  · right; right; right
    exact ⟨rfl, (Store.open_local success).tenants, Calls.frameAt_dropRunning _, rfl⟩

theorem origin_cases (taken : world.step hashKey event = some next) :
    (SameOrigins world.store next.store ∧
      Calls.Undisturbed Frame.origin? OriginFrame.IsEntry world.calls next.calls) ∨
    (∃ ticket input frame, event = .act ticket input ∧
      world.calls.frameAt ticket = some (.origin frame) ∧
      next.store = (frame.exec input world.store).store ∧
      next.calls = world.calls.advance ticket (frame.exec input world.store).next) ∨
    (SameOrigins (Store.reload world.store.pool) next.store ∧
      ∀ ticket, next.calls.frameAt ticket = none) := by
  rcases step_cases taken with ⟨ticket, op, rfl, free, rfl⟩ |
    ⟨ticket, input, frame, rfl, fresh, running, rfl⟩ |
    ⟨position, succeeds, task, rfl, pending, rfl⟩ |
    ⟨now, input, opened, rfl, fresh, success, rfl⟩
  · left
    refine ⟨⟨rfl, rfl, rfl⟩, .of_start free ?_⟩
    intro frame entry
    cases op <;> cases entry <;> trivial
  · cases frame with
    | key frame =>
        left
        refine ⟨(frame.exec_local hashKey input world.store).origins, .of_advance running rfl ?_⟩
        · intro other mine arrives seen
          obtain ⟨later, rfl⟩ := KeyFrame.exec_next arrives
          cases seen
    | tenant frame =>
        left
        refine ⟨(frame.exec_local input world.store).origins, .of_advance running rfl ?_⟩
        · intro other mine arrives seen
          rcases TenantFrame.exec_next arrives with ⟨later, rfl⟩ | ⟨tenantId, info, rfl⟩ <;>
            cases seen
    | origin frame => exact Or.inr (Or.inl ⟨ticket, input, frame, rfl, running, rfl, rfl⟩)
    | dictionary frame =>
        left
        refine ⟨(frame.exec_local input world.store).origins, .of_advance running rfl ?_⟩
        · intro other mine arrives seen
          obtain ⟨later, rfl⟩ := DictionaryFrame.exec_next arrives
          cases seen
  · left
    refine ⟨⟨?_, rfl, rfl⟩, .refl _⟩
    cases task <;> cases succeeds <;> rfl
  · exact Or.inr (Or.inr ⟨(Store.open_local success).origins, Calls.frameAt_dropRunning _⟩)

/-- A call is where it was, has just been made, or has just moved. -/
theorem frameAt_cases (taken : world.step hashKey event = some next) {ticket : ℕ} {frame : Frame}
    (seen : next.calls.frameAt ticket = some frame) :
    world.calls.frameAt ticket = some frame ∨
      (∃ op, event = .call ticket op ∧ frame = op.entry) ∨
      ∃ input old, event = .act ticket input ∧ world.calls.frameAt ticket = some old ∧
        (old.exec hashKey input world.store).next = .running frame ∧
        next = world.acted ticket (old.exec hashKey input world.store) := by
  rcases step_cases taken with ⟨made, op, rfl, free, rfl⟩ |
    ⟨mover, input, old, rfl, _, running, rfl⟩ |
    ⟨position, succeeds, task, rfl, _, rfl⟩ | ⟨now, input, opened, rfl, _, success, rfl⟩
  · rw [Calls.frameAt_start] at seen
    split at seen
    · rename_i here
      cases seen
      cases here
      exact Or.inr (Or.inl ⟨op, rfl, rfl⟩)
    · exact Or.inl seen
  · rw [acted, Calls.frameAt_advance running] at seen
    split at seen
    · rename_i here
      cases here
      cases moves : (old.exec hashKey input world.store).next with
      | running later =>
          rw [moves] at seen
          cases seen
          exact Or.inr (Or.inr ⟨input, old, rfl, running, moves, rfl⟩)
      | returned result =>
          rw [moves] at seen
          cases seen
    · exact Or.inl seen
  · exact Or.inl seen
  · rw [Calls.frameAt_dropRunning] at seen
    cases seen

/-- A call is as it was, has been made just now, or has just moved. -/
theorem lookup_cases (taken : world.step hashKey event = some next) {ticket : ℕ}
    {call : Call Op Frame Result} (found : next.calls.lookup ticket = some call) :
    world.calls.lookup ticket = some call ∨
      (call.status = .running call.op.entry) ∨
      ∃ input frame, event = .act ticket input ∧ world.RawKeyFresh input ∧
        world.calls.lookup ticket = some { op := call.op, status := .running frame } ∧
        call.status = (frame.exec hashKey input world.store).next ∧
        next = world.acted ticket (frame.exec hashKey input world.store) := by
  rcases step_cases taken with ⟨made, op, rfl, _, rfl⟩ |
    ⟨mover, input, frame, rfl, fresh, running, rfl⟩ |
    ⟨position, succeeds, task, rfl, _, rfl⟩ | ⟨now, input, opened, rfl, _, _, rfl⟩
  · simp only [Calls.start, Dict.lookup_insert_ite] at found
    split at found
    · cases found
      exact Or.inr (Or.inl rfl)
    · exact Or.inl found
  · simp only [acted, Calls.lookup_advance] at found
    split at found
    · rename_i here
      subst ticket
      obtain ⟨op, stored⟩ := Calls.frameAt_eq_some_iff.mp running
      rw [stored] at found
      cases found
      exact Or.inr (Or.inr ⟨input, frame, rfl, fresh, stored, rfl, rfl⟩)
    · exact Or.inl found
  · exact Or.inl found
  · exact Or.inl (Dict.lookup_of_retain found).1

theorem restart_cases {now : Clock} {input : Input}
    (restarted : world.step hashKey (.restart now input) = some next) :
    ∃ opened, Store.open hashKey now input world.store.pool = some opened ∧
      next =
        { store := opened.store
          tasks := []
          calls := world.calls.dropRunning
          issued := world.issued ++ opened.issued } := by
  rcases step_cases restarted with ⟨_, _, other, _⟩ | ⟨_, _, _, other, _⟩ |
    ⟨_, _, _, other, _⟩ | ⟨_, _, opened, same, _, success, result⟩
  · cases other
  · cases other
  · cases other
  · cases same
    exact ⟨opened, success, result⟩

theorem restart_sameTenants {now : Clock} {input : Input}
    (restarted : world.step hashKey (.restart now input) = some next) :
    SameTenants (Store.reload world.store.pool) next.store := by
  obtain ⟨opened, success, rfl⟩ := restart_cases restarted
  exact (Store.open_local success).tenants

end World

end SpellServer
