import SpellServer.Store.Coherence
import SpellServer.Store.TenantPresence

/-!
# What a restart reads back

`create_tenant`, `update_tenant` and `create_key` return the record they have
bound to the columns of a row.  A reload decodes the row: a nullable column
comes back as it was bound where the value is below the driver's limit, any other
column also where the `i64` it was bound as is a small negative number.
-/

namespace SpellServer

open Library

section

variable [Driver]

/-- No value, or one that comes back from its column as it is. -/
def FitsColumn (value : Option UInt64) : Prop :=
  ∀ stamp ∈ value, stamp.toNat < Driver.limit

/-- A number that comes back from a column without a sentinel. -/
def FitsCounter (word : UInt64) : Prop :=
  word.toNat < Driver.limit ∨ 2 ^ 64 ≤ word.toNat + Driver.limit

theorem readNullable_map_iff (value : Option UInt64) :
    readNullable (value.map UInt64.toInt64) = value ↔ FitsColumn value := by
  cases value with
  | none => simp [FitsColumn]
  | some stamp =>
      rw [Option.map_some, readNullable_toInt64_iff]
      simp [FitsColumn]

theorem readWord_iff (word : UInt64) :
    readWord word.toInt64 = word ↔ FitsCounter word :=
  (readWord_toInt64_iff word).trans (Driver.holds_toInt64_iff word)

/-! ## Rows of new records -/

theorem tenantInfoFromRow_newTenantRow (input : Input) (name : String) (language : Option String)
    (quotaLimit periodStart periodEnd : Option UInt64) :
    tenantInfoFromRow
        (newTenantRow (newTenant input name language quotaLimit periodStart periodEnd)) =
      { newTenant input name language quotaLimit periodStart periodEnd with
        quotaLimit := readWord (quotaLimit.getD 0).toInt64
        periodStart := readNullable (periodStart.map UInt64.toInt64)
        periodEnd := readNullable (periodEnd.map UInt64.toInt64) } := by
  simp [tenantInfoFromRow, newTenantRow, newTenant]

theorem keyRecordFromRow_newApiKeyRow (hashKey : String → String) (input : Input)
    {tenantId : Option String} (label : String) (role : Role) (expiresAt : Option UInt64)
    (named : tenantId ≠ some "") :
    keyRecordFromRow
        (newApiKeyRow (newApiKey hashKey input tenantId label role expiresAt).record) =
      { (newApiKey hashKey input tenantId label role expiresAt).record with
        expiresAt := readNullable (expiresAt.map UInt64.toInt64) } := by
  cases tenantId with
  | none => simp [keyRecordFromRow, newApiKeyRow, newApiKey]
  | some tenantId =>
      have given : tenantId ≠ "" := by simpa using named
      simp [keyRecordFromRow, newApiKeyRow, newApiKey, given]

/-! ## Calls carried to their end -/

namespace Store

variable {hashKey : String → String} {store after : Store} {inputs : List Input} {result : Result}

/-- A call that has ended took one action, and ended there or went on. -/
theorem runAlone_cases {frame : Frame}
    (ran : store.runAlone hashKey inputs frame = some (after, result)) :
    ∃ input rest, inputs = input :: rest ∧
      (((frame.exec hashKey input store).next = .returned result ∧
          after = (frame.exec hashKey input store).store) ∨
        ∃ later, (frame.exec hashKey input store).next = .running later ∧
          (frame.exec hashKey input store).store.runAlone hashKey rest later =
            some (after, result)) := by
  cases inputs with
  | nil => cases ran
  | cons input rest =>
      refine ⟨input, rest, rfl, ?_⟩
      simp only [runAlone] at ran
      cases moves : (frame.exec hashKey input store).next with
      | returned other =>
          rw [moves] at ran
          cases ran
          exact Or.inl ⟨rfl, rfl⟩
      | running later =>
          rw [moves] at ran
          exact Or.inr ⟨later, rfl, ran⟩

/-- `create_key_internal`: the INSERT fails, the lock is poisoned, or the record is cached. -/
theorem runAlone_createInsert_cases {tenantId : Option String} {label : String} {role : Role}
    {expiresAt : Option UInt64} {caller : Caller}
    (ran : store.runAlone hashKey inputs
      (.key (.createInsert tenantId label role expiresAt caller)) = some (after, result)) :
    ∃ input rest, inputs = input :: rest ∧
      let created := newApiKey hashKey input tenantId label role expiresAt
      let inserted := input.execute (store.pool.insertApiKey (newApiKeyRow created.record))
      ((inserted = none ∧ after = store ∧ result = .err) ∨
        ∃ pool, inserted = some pool ∧
          ((store.keysPoisoned = true ∧ result = .panicked) ∨
            (result = caller.result created ∧
              after =
                { store with
                  pool
                  keys := store.keys.insert created.record.keyHash created.record }))) := by
  obtain ⟨input, rest, rfl, ended | ⟨later, goes, ran⟩⟩ := runAlone_cases ran
  · refine ⟨input, rest, rfl, Or.inl ?_⟩
    simp only [Frame.exec, KeyFrame.exec] at ended
    split at ended
    · rename_i refused
      obtain ⟨same, rfl⟩ := ended
      cases same
      exact ⟨refused, rfl, rfl⟩
    · obtain ⟨same, _⟩ := ended
      cases same
  · refine ⟨input, rest, rfl, Or.inr ?_⟩
    simp only [Frame.exec, KeyFrame.exec] at goes ran
    split at goes
    · cases goes
    · rename_i pool executed
      cases goes
      rw [executed] at ran
      refine ⟨pool, executed, ?_⟩
      obtain ⟨second, rest, rfl, ended | ⟨later, goes, ran⟩⟩ := runAlone_cases ran
      · simp only [Frame.exec, KeyFrame.exec, KeyFrame.withKeys] at ended
        split at ended
        · rename_i poisoned
          obtain ⟨same, _⟩ := ended
          cases same
          exact Or.inl ⟨poisoned, rfl⟩
        · obtain ⟨same, rfl⟩ := ended
          cases same
          exact Or.inr ⟨rfl, rfl⟩
      · simp only [Frame.exec, KeyFrame.exec, KeyFrame.withKeys] at goes
        split at goes <;> cases goes

/-- What `create_key_internal` inserts is what its caller returns. -/
theorem runAlone_createInsert {tenantId : Option String} {label : String} {role : Role}
    {expiresAt : Option UInt64} {caller : Caller}
    (ran : store.runAlone hashKey inputs
      (.key (.createInsert tenantId label role expiresAt caller)) = some (after, result))
    (fine : result ≠ .err ∧ result ≠ .panicked) :
    ∃ input, store.pool.insertApiKey
        (newApiKeyRow (newApiKey hashKey input tenantId label role expiresAt).record) =
          some after.pool ∧
      result = caller.result (newApiKey hashKey input tenantId label role expiresAt) := by
  obtain ⟨input, _, _, ⟨_, _, failed⟩ | ⟨pool, executed, ⟨_, panicked⟩ | ⟨returned, rfl⟩⟩⟩ :=
    runAlone_createInsert_cases ran
  · exact absurd failed fine.1
  · exact absurd panicked fine.2
  · exact ⟨input, (Input.execute_eq_some.mp executed).2, returned⟩

/-- `create_tenant`: the INSERT fails, or the record is cached and the key is next. -/
theorem runAlone_createTenant_cases {name : String} {language : Option String}
    {quotaLimit periodStart periodEnd : Option UInt64}
    (ran : store.runAlone hashKey inputs
      (Op.createTenant name language quotaLimit periodStart periodEnd).entry =
        some (after, result)) :
    ∃ input rest, inputs = input :: rest ∧
      let info := newTenant input name language quotaLimit periodStart periodEnd
      let inserted := input.execute (store.pool.insertTenant (newTenantRow info))
      ((inserted = none ∧ after = store ∧ result = .err) ∨
        ∃ pool second later, inserted = some pool ∧ rest = second :: later ∧
          ({ store with pool, tenants := store.tenants.insert info.id info } : Store).runAlone
              hashKey later
              (.key (.createInsert (some info.id) "default" .admin none (.createTenant info))) =
            some (after, result)) := by
  obtain ⟨input, rest, rfl, ended | ⟨later, goes, ran⟩⟩ := runAlone_cases ran
  · refine ⟨input, rest, rfl, Or.inl ?_⟩
    simp only [Op.entry, Frame.exec, TenantFrame.exec] at ended
    split at ended
    · rename_i refused
      obtain ⟨same, rfl⟩ := ended
      cases same
      exact ⟨refused, rfl, rfl⟩
    · obtain ⟨same, _⟩ := ended
      cases same
  · refine ⟨input, rest, rfl, Or.inr ?_⟩
    simp only [Op.entry, Frame.exec, TenantFrame.exec] at goes ran
    split at goes
    · cases goes
    · rename_i pool executed
      cases goes
      rw [executed] at ran
      obtain ⟨second, later, rfl, ended | ⟨_, goes, ran⟩⟩ := runAlone_cases ran
      · cases ended.1
      · cases goes
        exact ⟨pool, second, later, executed, rfl, ran⟩

theorem runAlone_createTenant {name : String} {language : Option String}
    {quotaLimit periodStart periodEnd : Option UInt64} {info : TenantInfo}
    {adminKey : CreatedApiKey}
    (ran : store.runAlone hashKey inputs
      (Op.createTenant name language quotaLimit periodStart periodEnd).entry =
        some (after, .createdTenant info adminKey)) :
    ∃ input keyInput pool, info = newTenant input name language quotaLimit periodStart periodEnd ∧
      store.pool.insertTenant (newTenantRow info) = some pool ∧
      adminKey = newApiKey hashKey keyInput (some info.id) "default" .admin none ∧
      pool.insertApiKey (newApiKeyRow adminKey.record) = some after.pool := by
  obtain ⟨input, _, _, ⟨_, _, failed⟩ | ⟨pool, _, later, executed, _, ran⟩⟩ :=
    runAlone_createTenant_cases ran
  · cases failed
  · obtain ⟨keyInput, inserted, same⟩ := runAlone_createInsert ran ⟨by simp, by simp⟩
    cases same
    exact ⟨input, keyInput, pool, rfl, (Input.execute_eq_some.mp executed).2, rfl, inserted⟩

/-- `update_tenant`: an unknown id, or the record is patched in the cache and then written. -/
theorem runAlone_updateTenant_cases {id : String} {patch : TenantPatch}
    (ran : store.runAlone hashKey inputs (Op.updateTenant id patch).entry =
      some (after, result)) :
    (store.getTenant id = none ∧ after = store ∧ result = .updatedTenant none) ∨
      ∃ old first second third rest, store.getTenant id = some old ∧
        inputs = first :: second :: third :: rest ∧
        let patched : Store := { store with tenants := store.tenants.insert id (patch.apply old) }
        ((third.sql = false ∧ after = patched ∧ result = .err) ∨
          (third.sql = true ∧ result = .updatedTenant (some (patch.apply old)) ∧
            after = { patched with pool := store.pool.updateTenant id (patch.apply old) })) := by
  obtain ⟨first, rest, rfl, ended | ⟨later, goes, ran⟩⟩ := runAlone_cases ran
  · left
    simp only [Op.entry, Frame.exec, TenantFrame.exec] at ended
    split at ended
    · cases ended.1
    · rename_i unknown
      obtain ⟨same, rfl⟩ := ended
      cases same
      exact ⟨by simpa [getTenant] using unknown, rfl, rfl⟩
  · right
    simp only [Op.entry, Frame.exec, TenantFrame.exec] at goes ran
    split at goes
    · rename_i known
      cases goes
      obtain ⟨old, found⟩ := Option.isSome_iff_exists.mp known
      rw [if_pos known] at ran
      obtain ⟨second, rest, rfl, ended | ⟨later, goes, ran⟩⟩ := runAlone_cases ran
      · simp only [Outcome.goto_store, Frame.exec, TenantFrame.exec, found] at ended
        cases ended.1
      · simp only [Outcome.goto_store, Frame.exec, TenantFrame.exec, found] at goes ran
        cases goes
        obtain ⟨third, rest, rfl, ended | ⟨later, goes, ran⟩⟩ := runAlone_cases ran
        · refine ⟨old, first, second, third, rest, found, rfl, ?_⟩
          simp only [Frame.exec, TenantFrame.exec, Input.execute] at ended
          cases reaches : third.sql with
          | false =>
              simp only [reaches] at ended
              obtain ⟨same, rfl⟩ := ended
              cases same
              exact Or.inl ⟨rfl, rfl, rfl⟩
          | true =>
              simp only [reaches] at ended
              obtain ⟨same, rfl⟩ := ended
              cases same
              exact Or.inr ⟨rfl, rfl, rfl⟩
        · simp only [Frame.exec, TenantFrame.exec] at goes
          split at goes <;> cases goes
    · cases goes

theorem runAlone_updateTenant {id : String} {patch : TenantPatch} {info : TenantInfo}
    (ran : store.runAlone hashKey inputs (Op.updateTenant id patch).entry =
      some (after, .updatedTenant (some info))) :
    ∃ old, store.getTenant id = some old ∧ info = patch.apply old ∧
      after.pool = store.pool.updateTenant id info := by
  obtain ⟨_, _, same⟩ | ⟨old, _, _, _, _, found, _, ⟨_, _, same⟩ | ⟨_, same, rfl⟩⟩ :=
    runAlone_updateTenant_cases ran
  · cases same
  · cases same
  · cases same
    exact ⟨old, found, rfl, rfl⟩

end Store

/-! ## Read back -/

section

variable {hashKey : String → String} {store after : Store} {inputs : List Input}

theorem createdKey_survives {pool later : Database} {input : Input} {tenantId : Option String}
    {label : String} {role : Role} {expiresAt : Option UInt64} (named : tenantId ≠ some "")
    (inserted : pool.insertApiKey
      (newApiKeyRow (newApiKey hashKey input tenantId label role expiresAt).record) = some later) :
    (Store.reload later).keys.lookup (hashKey input.rawKey) =
        some (newApiKey hashKey input tenantId label role expiresAt).record ↔
      FitsColumn expiresAt := by
  obtain ⟨⟨_, fresh, _⟩, apiKeys, _⟩ := Database.insertApiKey_eq_some inserted
  have found : findBy ApiKeyRow.keyHash (hashKey input.rawKey) later.apiKeys =
      some (newApiKeyRow (newApiKey hashKey input tenantId label role expiresAt).record) := by
    rw [apiKeys, findBy_append_singleton _ fresh]
    exact if_pos rfl
  rw [Store.reload_keys_lookup, found, Option.map_some,
    keyRecordFromRow_newApiKeyRow hashKey input label role expiresAt named, Option.some.injEq,
    ← readNullable_map_iff expiresAt]
  simp [newApiKey]

theorem createdTenant_survives {input : Input} {name : String} {language : Option String}
    {quotaLimit periodStart periodEnd : Option UInt64} {pool later : Database}
    (inserted : store.pool.insertTenant
      (newTenantRow (newTenant input name language quotaLimit periodStart periodEnd)) = some pool)
    (same : later.tenants = pool.tenants) :
    (Store.reload later).getTenant input.newId.text =
        some (newTenant input name language quotaLimit periodStart periodEnd) ↔
      FitsCounter (quotaLimit.getD 0) ∧ FitsColumn periodStart ∧ FitsColumn periodEnd := by
  obtain ⟨fresh, tenants, _⟩ := Database.insertTenant_eq_some inserted
  have found : findBy TenantRow.id input.newId.text later.tenants =
      some (newTenantRow (newTenant input name language quotaLimit periodStart periodEnd)) := by
    rw [same, tenants, findBy_append_singleton _ fresh]
    exact if_pos rfl
  rw [Store.getTenant, Store.reload_tenants_lookup, found, Option.map_some,
    tenantInfoFromRow_newTenantRow, Option.some.injEq, ← readWord_iff,
    ← readNullable_map_iff periodStart, ← readNullable_map_iff periodEnd]
  simp [newTenant]

/-- The row after `update_tenant`; what a patch cannot set is the row's own. -/
theorem patchedTenant_reads {id : String} {row : TenantRow} (info : TenantInfo)
    (found : findBy TenantRow.id id store.pool.tenants = some row) :
    (Store.reload (store.pool.updateTenant id info)).getTenant id =
      some
        { info with
          id := row.id
          quotaLimit := readWord info.quotaLimit.toInt64
          requestCount := readWord info.requestCount.toInt64
          periodStart := readNullable (info.periodStart.map UInt64.toInt64)
          periodEnd := readNullable (info.periodEnd.map UInt64.toInt64)
          suspendedAt := readNullable row.suspendedAt
          createdAt := readWord row.createdAt } := by
  obtain ⟨_, sameId⟩ := findBy_mem found
  rw [Store.getTenant, Store.reload_tenants_lookup, Database.updateTenant, Database.updateTenants,
    findBy_map, found, Option.map_some, if_pos sameId]
  · simp [tenantInfoFromRow]
  · intro other
    split <;> rfl

end

/-! ## The stores of a run -/

/-- What a client can set of a tenant. -/
def TenantInfo.supplied (info : TenantInfo) :
    String × String × UInt64 × UInt64 × Option UInt64 × Option UInt64 :=
  (info.name, info.language, info.quotaLimit, info.requestCount, info.periodStart, info.periodEnd)

/-- The records of the next creation are read back as they were returned, exactly
when the given numbers fit their columns. -/
structure CreationsSurvive (hashKey : String → String) (store : Store) : Prop where
  tenant : ∀ inputs name language quotaLimit periodStart periodEnd after info adminKey,
    store.runAlone hashKey inputs
        (Op.createTenant name language quotaLimit periodStart periodEnd).entry =
      some (after, .createdTenant info adminKey) →
    ((Store.reload after.pool).getTenant info.id = some info ↔
        FitsCounter (quotaLimit.getD 0) ∧ FitsColumn periodStart ∧ FitsColumn periodEnd) ∧
      (Store.reload after.pool).keys.lookup adminKey.record.keyHash = some adminKey.record
  key : ∀ inputs tenantId label role expiresAt after created,
    store.runAlone hashKey inputs (Op.createKey tenantId label role expiresAt).entry =
      some (after, .createdKey created) →
    ((Store.reload after.pool).keys.lookup created.record.keyHash = some created.record ↔
      FitsColumn expiresAt)

/-- What is viewed of the record of the next patch, the same way. -/
def PatchesSurvive {α : Type} (hashKey : String → String) (view : TenantInfo → α) (store : Store) :
    Prop :=
  ∀ inputs id (patch : TenantPatch) old after info, store.getTenant id = some old →
    store.runAlone hashKey inputs (Op.updateTenant id patch).entry =
      some (after, .updatedTenant (some info)) →
    (((Store.reload after.pool).getTenant id).map view = some (view info) ↔
      FitsCounter (patch.quotaLimit.getD old.quotaLimit) ∧
        FitsCounter (patch.requestCount.getD old.requestCount) ∧
        FitsColumn (patch.periodStart.getD old.periodStart) ∧
        FitsColumn (patch.periodEnd.getD old.periodEnd))

theorem creationsSurvive (hashKey : String → String) {store : Store}
    (written : store.pool.Written) : CreationsSurvive hashKey store := by
  constructor
  · intro inputs name language quotaLimit periodStart periodEnd after info adminKey ran
    obtain ⟨input, keyInput, pool, rfl, inserted, rfl, keyInserted⟩ :=
      Store.runAlone_createTenant ran
    obtain ⟨_, _, tenants, _⟩ := Database.insertApiKey_eq_some keyInserted
    have named : some input.newId.text ≠ some "" := by simpa using input.newId.nonempty
    refine ⟨createdTenant_survives inserted tenants, ?_⟩
    apply (createdKey_survives named keyInserted).mpr
    intro stamp member
    cases member
  · intro inputs tenantId label role expiresAt after created ran
    obtain ⟨input, inserted, same⟩ := Store.runAlone_createInsert ran ⟨by simp, by simp⟩
    cases same
    obtain ⟨⟨_, _, belongs⟩, _⟩ := Database.insertApiKey_eq_some inserted
    have named : some tenantId ≠ some "" := by
      intro empty
      cases empty
      obtain ⟨row, member, unnamed⟩ := List.mem_map.mp (belongs "" rfl)
      exact written.tenantIds row member unnamed
    exact createdKey_survives named inserted

theorem patchesSurvive_supplied (hashKey : String → String) {store : Store}
    (rows : ∀ id old, store.getTenant id = some old → id ∈ store.pool.tenantIds) :
    PatchesSurvive hashKey TenantInfo.supplied store := by
  intro inputs id patch old after info stored ran
  obtain ⟨other, found, rfl, pool⟩ := Store.runAlone_updateTenant ran
  cases stored.symm.trans found
  cases selected : findBy TenantRow.id id store.pool.tenants with
  | none => exact absurd (rows id old stored) (findBy_eq_none_iff.mp selected)
  | some row =>
      rw [pool, patchedTenant_reads _ selected, Option.map_some, Option.some.injEq,
        ← readWord_iff, ← readWord_iff, ← readNullable_map_iff, ← readNullable_map_iff]
      simp [TenantInfo.supplied, TenantPatch.apply]

/-- Where row and cache agree on what a patch cannot set, the whole record comes
back. -/
theorem patchesSurvive_whole (hashKey : String → String) {store : Store}
    (coherent : Coherent store) : PatchesSurvive hashKey id store := by
  intro inputs id patch old after info stored ran
  obtain ⟨other, found, rfl, pool⟩ := Store.runAlone_updateTenant ran
  cases stored.symm.trans found
  obtain ⟨row, member, sameId, describes⟩ := coherent.tenants.row_of stored
  have selected : findBy TenantRow.id id store.pool.tenants = some row :=
    (findBy_eq_some_iff store.pool.tenants_id_unique).mpr ⟨member, sameId⟩
  rw [pool, patchedTenant_reads _ selected, Option.map_some, Option.some.injEq,
    ← readWord_iff, ← readWord_iff, ← readNullable_map_iff, ← readNullable_map_iff]
  have lasting := describes.lasting
  simp only [TenantInfo.withoutNumbers, tenantInfoFromRow, TenantInfo.mk.injEq] at lasting
  simp [TenantPatch.apply, lasting]

theorem client_numbers_survive_iff (hashKey : String → String) :
    (∀ world, World.Reachable hashKey world → CreationsSurvive hashKey world.store ∧
      PatchesSurvive hashKey TenantInfo.supplied world.store) ∧
    ∀ earlier start world now input events, World.Reachable hashKey earlier →
      earlier.step hashKey (.restart now input) = some start →
      World.RunWhen hashKey (fun before event => sequential before event = true)
        start events world →
      world.calls.Quiescent → world.tasks = [] → PatchesSurvive hashKey id world.store := by
  constructor
  · intro world reached
    have present := World.reachable_tenantsPresent reached
    exact ⟨creationsSurvive hashKey (World.reachable_written reached),
      patchesSurvive_supplied hashKey fun id old stored => (present.cached stored).2⟩
  · intro earlier start world now input events reached opened run quiescent settled
    exact patchesSurvive_whole hashKey
      (World.sequential_coherent reached opened run quiescent settled)

end

open scoped DefaultBackend

/-- A tenant whose limit and counter have their top bit set. -/
theorem client_numbers_survive_for_large_counters :
    ∃ world : World, CreationsSurvive sampleHash world.store ∧
      PatchesSurvive sampleHash id world.store ∧
      (world.store.getTenant (sampleId 1).text).map TenantInfo.quotaLimit =
        some 18446744073709551615 := by
  let raised : TenantPatch :=
    { name := none
      language := none
      quotaLimit := some 18446744073709551615
      requestCount := some 18446744071562067968
      periodStart := some none
      periodEnd := some (some 1790000000) }
  obtain ⟨start, world, first, second, outcome⟩ :=
    World.exists_runs sampleHash sequential sequential
      [.restart (sampleInput 0 0).now (sampleInput 0 0)]
      (tenantSetup.tail ++
        [.call 1 (.updateTenant (sampleId 1).text raised),
          .act 1 (sampleInput 0 4), .act 1 (sampleInput 0 4), .act 1 (sampleInput 0 4)])
      (fun _ world => decide world.calls.Quiescent && world.tasks.isEmpty &&
        decide ((world.store.getTenant (sampleId 1).text).map TenantInfo.quotaLimit =
          some 18446744073709551615))
      (by decide +kernel)
  have opened := first.of_singleton
  obtain ⟨⟨quiescent, settled⟩, limit⟩ : (_ ∧ _) ∧ _ := by
    simpa only [Bool.and_eq_true, decide_eq_true_eq, List.isEmpty_iff] using outcome
  obtain ⟨events, reached⟩ : World.Reachable sampleHash world := by
    have both := (first.weaken fun _ _ _ => trivial).append (second.weaken fun _ _ _ => trivial)
    exact ⟨_, both⟩
  exact ⟨world, ((client_numbers_survive_iff sampleHash).1 world ⟨events, reached⟩).1,
    (client_numbers_survive_iff sampleHash).2 World.blank start world _ _ _ ⟨_, .nil _⟩ opened
      second quiescent settled, limit⟩

/-- A key that expires after all representable time comes back without expiry. -/
theorem expiry_lost_on_reload : ¬∀ (hashKey : String → String) (world : World)
    (inputs : List Input) (tenantId label : String) (role : Role) (expiresAt : Option UInt64)
    (after : Store) (created : CreatedApiKey), World.Reachable hashKey world →
      world.store.runAlone hashKey inputs (Op.createKey tenantId label role expiresAt).entry =
        some (after, .createdKey created) →
      (Store.reload after.pool).keys.lookup created.record.keyHash = some created.record := by
  intro claim
  let given : CreatedApiKey :=
    newApiKey sampleHash (sampleInput 3 2) (some (sampleId 1).text) "deploy" .standard
      (some 18446744073709551615)
  obtain ⟨world, run, outcome⟩ :=
    World.exists_run sampleHash sequential tenantSetup
      (fun world =>
        (world.store.runAlone sampleHash [sampleInput 3 2, sampleInput 0 4]
          (Op.createKey (sampleId 1).text "deploy" .standard (some 18446744073709551615)).entry).any
          fun (ended : Store × Result) => decide (ended.2 = .createdKey given) &&
            decide (((Store.reload ended.1.pool).keys.lookup given.record.keyHash).map
              KeyRecord.expiresAt = some none))
      (by decide +kernel)
  obtain ⟨⟨after, result⟩, ran, checked⟩ := (Option.any_eq_true _ _).mp outcome
  obtain ⟨same, lost⟩ : result = .createdKey given ∧
      ((Store.reload after.pool).keys.lookup given.record.keyHash).map KeyRecord.expiresAt =
        some none := by
    simpa only [Bool.and_eq_true, decide_eq_true_eq] using checked
  subst same
  have survives := claim sampleHash world _ _ _ _ _ after given ⟨_, run.weaken fun _ _ _ => trivial⟩
    ran
  rw [survives, Option.map_some] at lost
  exact absurd lost (by decide)

end SpellServer
