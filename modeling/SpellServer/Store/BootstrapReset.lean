import SpellServer.Store.BootstrapKeys
import SpellServer.Store.KeyOwnership

/-!
# Resetting the bootstrap key

`reset_bootstrap_platform_key` counts the active bootstrap keys: it refuses
several, rotates one and creates the first.  Rotation and creation leave the
same behind: one bootstrap key in cache and table, whose new raw value is the
only one that authenticates, and all other keys as they were.
-/

namespace SpellServer

open Library

section

variable [Driver]

/-- Every cache mirrors its table, whatever has happened to the lock. -/
structure CachesMatch (store : Store) : Prop where
  keys : KeysMirrored store.pool.apiKeys store.keys
  tenants : TenantsMirrored store.pool.tenants store.tenants
  origins : OriginsMirrored store.pool.tenantOrigins store.originsAny store.originsByTenant
  dictionaries : DictionariesMirrored store.pool.dictionaries store.dictionaries

theorem CachesMatch.coherent {store : Store} (caches : CachesMatch store)
    (written : store.pool.Written) (healthy : store.keysPoisoned = false) : Coherent store :=
  { written
    healthy
    keys := caches.keys
    tenants := caches.tenants
    origins := caches.origins
    dictionaries := caches.dictionaries }

theorem Coherent.cachesMatch {store : Store} (coherent : Coherent store) : CachesMatch store :=
  ⟨coherent.keys, coherent.tenants, coherent.origins, coherent.dictionaries⟩

/-- The store has one active bootstrap key, in the cache and in the table, at any
time; its raw value authenticates, and a start of the process creates no other. -/
structure OneBootstrap (hashKey : String → String) (store : Store) (created : CreatedApiKey) :
    Prop where
  cached : ∀ now, store.bootstrapKeys now = [created.record]
  stored : ∀ now, (Store.reload store.pool).bootstrapKeys now = [created.record]
  authenticates : ∀ input rest,
    store.runAlone hashKey (input :: rest) (Op.authenticate created.rawKey).entry =
      some (store, .authenticated (some created.record))
  reopens : ∀ now input, Store.open hashKey now input store.pool =
    some { store := Store.reload store.pool, bootstrap := none }

/-- What a reset that returns a key has done. -/
structure BootstrapReset (hashKey : String → String) (before : Store) (now : UInt64)
    (created : CreatedApiKey) (after : Store) : Prop extends OneBootstrap hashKey after created where
  continues : ∀ old ∈ before.bootstrapKeys now, created.record.id = old.id ∧
    created.record.createdAt = old.createdAt ∧ created.record.expiresAt = old.expiresAt
  begins : before.bootstrapKeys now = [] → created.record.id ∉ before.pool.keyIds
  retires : ∀ old ∈ before.bootstrapKeys now, ∀ rawKey, hashKey rawKey = old.keyHash →
    ∀ first second rest,
      after.runAlone hashKey (first :: second :: rest) (Op.authenticate rawKey).entry =
        some (after, .authenticated none)
  otherEntries : ∀ hash record, record.id ≠ created.record.id →
    (after.keys.lookup hash = some record ↔ before.keys.lookup hash = some record)
  otherRows : ∀ row : ApiKeyRow, row.id ≠ created.record.id →
    (row ∈ after.pool.apiKeys ↔ row ∈ before.pool.apiKeys)
  otherTables : OnlyKeys before after
  caches : CachesMatch after

/-- What a reset may return, by the number of active bootstrap keys. -/
structure ResetMeets (hashKey : String → String) (before : Store) (now : UInt64) (after : Store)
    (result : Result) : Prop where
  ambiguous : 1 < (before.bootstrapKeys now).length → result = .err ∧ after = before
  unambiguous : (before.bootstrapKeys now).length ≤ 1 →
    ∃ created, result = .resetKey created ∧ BootstrapReset hashKey before now created after

/-- A reset with nothing in between comes to an end, and does what it promises. -/
def Store.ResetsBootstrap (hashKey : String → String) (store : Store)
    (find write finish : Input) : Prop :=
  ∃ after result, store.runAlone hashKey [find, write, finish]
      Op.resetBootstrapPlatformKey.entry = some (after, result) ∧
    ResetMeets hashKey store find.now.seconds after result

namespace Store

variable {hashKey : String → String} {store : Store} {rawKey : String}

/-! ## The calls, run alone -/

theorem runAlone_authenticate_cached {record : KeyRecord} (healthy : store.keysPoisoned = false)
    (stored : store.keys.lookup (hashKey rawKey) = some record)
    (active : ∀ now, record.isActive now = true) (input : Input) (rest : List Input) :
    store.runAlone hashKey (input :: rest) (Op.authenticate rawKey).entry =
      some (store, .authenticated (some record)) := by
  have hit : (store.keys.lookup (hashKey rawKey)).filter
      (KeyRecord.isActive · input.now.seconds) = some record := by
    rw [stored]
    exact Option.filter_eq_some_iff.mpr ⟨rfl, active _⟩
  simp only [runAlone, Op.entry, Frame.exec, KeyFrame.exec, KeyFrame.withKeys_healthy healthy, hit,
    Outcome.finish_next, Outcome.finish_store]

/-- A hash that is neither cached nor stored is refused, also when the statement
fails. -/
theorem runAlone_authenticate_unknown (healthy : store.keysPoisoned = false)
    (uncached : store.keys.lookup (hashKey rawKey) = none)
    (unstored : store.pool.selectApiKey (hashKey rawKey) = none) (first second : Input)
    (rest : List Input) :
    store.runAlone hashKey (first :: second :: rest) (Op.authenticate rawKey).entry =
      some (store, .authenticated none) := by
  have refused : second.execute (store.pool.selectApiKey (hashKey rawKey)) = none :=
    Input.execute_refused fun _ => unstored
  simp only [runAlone, Op.entry, Frame.exec, KeyFrame.exec, KeyFrame.withKeys_healthy healthy,
    uncached, Option.filter_none, Outcome.goto_next, Outcome.goto_store, refused,
    Outcome.finish_next, Outcome.finish_store]

variable {find write finish : Input} {rest : List Input}

theorem runAlone_reset_ambiguous (healthy : store.keysPoisoned = false)
    (several : 1 < (store.bootstrapKeys find.now.seconds).length) :
    store.runAlone hashKey (find :: rest) Op.resetBootstrapPlatformKey.entry =
      some (store, .err) := by
  unfold bootstrapKeys at several
  cases listed : store.keys.values.filter (isBootstrap find.now.seconds) with
  | nil => simp [listed] at several
  | cons first tail =>
      cases tail with
      | nil => simp [listed] at several
      | cons second others =>
          simp only [runAlone, Op.entry, Frame.exec, KeyFrame.exec,
            KeyFrame.withKeys_healthy healthy, listed, Outcome.finish_next, Outcome.finish_store]

theorem runAlone_reset_creates {pool : Database} (healthy : store.keysPoisoned = false)
    (nobody : store.bootstrapKeys find.now.seconds = [])
    (inserted : write.execute (store.pool.insertApiKey
      (newApiKeyRow (newApiKey hashKey write none "bootstrap" .platform none).record)) =
        some pool) :
    store.runAlone hashKey (find :: write :: finish :: rest) Op.resetBootstrapPlatformKey.entry =
      some
        ({ store with
            pool
            keys := AList.insert (hashKey write.rawKey)
              (newApiKey hashKey write none "bootstrap" .platform none).record store.keys },
          .resetKey (newApiKey hashKey write none "bootstrap" .platform none)) := by
  unfold bootstrapKeys at nobody
  simp only [runAlone, Op.entry, Frame.exec, KeyFrame.exec, KeyFrame.withKeys_healthy healthy,
    nobody, Outcome.goto_next, Outcome.goto_store, inserted]
  have unlocked : ({ store with pool } : Store).keysPoisoned = false := healthy
  rw [KeyFrame.withKeys_healthy unlocked]
  rfl

theorem runAlone_reset_rotates {pool : Database} {old : KeyRecord}
    (healthy : store.keysPoisoned = false)
    (only : store.bootstrapKeys find.now.seconds = [old])
    (stored : store.keys.lookup old.keyHash = some old)
    (updated : write.execute (store.pool.updateKeyHash old.id (hashKey write.rawKey)) =
      some pool) :
    store.runAlone hashKey (find :: write :: finish :: rest) Op.resetBootstrapPlatformKey.entry =
      some
        ({ store with
            pool
            keys := AList.insert (hashKey write.rawKey) (old.rekey (hashKey write.rawKey))
              (store.keys.erase old.keyHash) },
          .resetKey { record := old.rekey (hashKey write.rawKey), rawKey := write.rawKey }) := by
  unfold bootstrapKeys at only
  simp only [runAlone, Op.entry, Frame.exec, KeyFrame.exec, KeyFrame.withKeys_healthy healthy,
    only, Outcome.goto_next, Outcome.goto_store, updated]
  have unlocked : ({ store with pool } : Store).keysPoisoned = false := healthy
  rw [KeyFrame.withKeys_healthy unlocked]
  simp only [stored, Outcome.finish_next, Outcome.finish_store, Caller.result]

end Store

/-! ## What the call leaves behind -/

namespace Coherent

variable {hashKey : String → String} {store : Store} {now : UInt64}

theorem unselected {hash : String} (coherent : Coherent store)
    (absent : store.keys.lookup hash = none) : store.pool.selectApiKey hash = none := by
  apply findBy_eq_none_iff.mpr
  intro member
  obtain ⟨row, rowMember, rfl⟩ := List.mem_map.mp member
  have present := coherent.keys.entry_of row rowMember
  rw [absent] at present
  cases present

/-- The key that was inserted last is the only bootstrap key if there is none among
the others. -/
theorem oneBootstrap {created : CreatedApiKey} {others : Dict String KeyRecord}
    (coherent : Coherent store) (lasts : store.pool.PlatformKeysLast)
    (keys : store.keys = AList.insert (hashKey created.rawKey) created.record others)
    (bootstrap : isBootstrap now created.record = true)
    (nobody : ∀ hash record, others.lookup hash = some record → isBootstrap now record = false) :
    OneBootstrap hashKey store created := by
  have filed : store.keys.lookup (hashKey created.rawKey) = some created.record := by
    rw [keys, AList.lookup_insert]
  have only : ∀ hash record, store.keys.lookup hash = some record →
      isBootstrap now record = true → hash = hashKey created.rawKey := by
    intro hash record found qualifies
    rw [keys, Dict.lookup_insert_ite] at found
    split at found
    · assumption
    · rw [nobody hash record found] at qualifies
      cases qualifies
  have cached : ∀ later, store.bootstrapKeys later = [created.record] := by
    intro later
    rw [coherent.bootstrapKeys_anytime lasts later now]
    exact Dict.values_filter_eq_singleton filed bootstrap only
  have stored : ∀ later, (Store.reload store.pool).bootstrapKeys later = [created.record] := by
    intro later
    have same := coherent.bootstrapKeys_reload lasts later
    rw [cached] at same
    exact List.perm_singleton.mp same
  have active : ∀ later, created.record.isActive later = true := by
    intro later
    have listed : created.record ∈ store.bootstrapKeys later := by simp [cached]
    exact (isBootstrap_iff.mp (Store.mem_bootstrapKeys.mp listed).2).2.2.2
  refine ⟨cached, stored, Store.runAlone_authenticate_cached coherent.healthy filed active, ?_⟩
  intro later input
  have listed : created.record ∈ (Store.reload store.pool).bootstrapKeys later.seconds := by
    simp [stored]
  obtain ⟨known, qualifies⟩ := Store.mem_bootstrapKeys.mp listed
  obtain ⟨platform, _, _, _⟩ := isBootstrap_iff.mp qualifies
  have present : (Store.reload store.pool).hasActivePlatformKey later.seconds = true := by
    apply List.any_eq_true.mpr
    exact ⟨created.record, Dict.mem_values_iff.mpr known, by simp [platform, active]⟩
  simp only [Store.open, present, if_true]

end Coherent

namespace KeysOwned

variable {hashKey : String → String} {world : World} {write : Input} {now : UInt64}
  {pool : Database}

/-- No bootstrap key was active: the new one is the only one. -/
theorem reset_creates (owned : KeysOwned hashKey world) (coherent : Coherent world.store)
    (lasts : world.store.pool.PlatformKeysLast) (injective : Function.Injective hashKey)
    (fresh : world.RawKeyFresh write) (nobody : world.store.bootstrapKeys now = [])
    (inserted : world.store.pool.insertApiKey
      (newApiKeyRow (newApiKey hashKey write none "bootstrap" .platform none).record) =
        some pool) :
    BootstrapReset hashKey world.store now (newApiKey hashKey write none "bootstrap" .platform none)
      { world.store with
        pool
        keys := AList.insert (hashKey write.rawKey)
          (newApiKey hashKey write none "bootstrap" .platform none).record world.store.keys } := by
  have after := coherent.createKey inserted
  obtain ⟨⟨unused, _, _⟩, apiKeys, tenants, origins, dictionaries⟩ :=
    Database.insertApiKey_eq_some inserted
  have bootstrap : isBootstrap now
      (newApiKey hashKey write none "bootstrap" .platform none).record = true := by
    simp [isBootstrap, newApiKey, KeyRecord.isActive]
  have differs : ∀ record : KeyRecord, record.id ≠ write.newId.text →
      record ≠ (newApiKey hashKey write none "bootstrap" .platform none).record := by
    rintro record other rfl
    exact other rfl
  constructor
  · refine after.oneBootstrap (lasts.insertApiKey inserted fun _ => rfl) rfl bootstrap ?_
    intro hash record found
    by_contra qualifies
    have listed := Store.mem_bootstrapKeys.mpr ⟨⟨hash, found⟩, Bool.of_not_eq_false qualifies⟩
    rw [nobody] at listed
    cases listed
  · intro old listed
    rw [nobody] at listed
    cases listed
  · intro _
    exact unused
  · intro old listed
    rw [nobody] at listed
    cases listed
  · intro hash record other
    exact Dict.lookup_insert_other (owned.uncached injective fresh) (differs record other) hash
  · intro row other
    rw [apiKeys, List.mem_append, List.mem_singleton, or_iff_left]
    rintro rfl
    exact other rfl
  · exact ⟨⟨tenants, rfl⟩, ⟨origins, rfl, rfl⟩, ⟨dictionaries, rfl⟩⟩
  · exact after.cachesMatch

/-- One bootstrap key was active: it is the only one under its new hash. -/
theorem reset_rotates {old : KeyRecord} (owned : KeysOwned hashKey world)
    (coherent : Coherent world.store) (lasts : world.store.pool.PlatformKeysLast)
    (injective : Function.Injective hashKey) (fresh : world.RawKeyFresh write)
    (only : world.store.bootstrapKeys now = [old])
    (stored : world.store.keys.lookup old.keyHash = some old)
    (updated : world.store.pool.updateKeyHash old.id (hashKey write.rawKey) = some pool) :
    BootstrapReset hashKey world.store now
      { record := old.rekey (hashKey write.rawKey), rawKey := write.rawKey }
      { world.store with
        pool
        keys := AList.insert (hashKey write.rawKey) (old.rekey (hashKey write.rawKey))
          (world.store.keys.erase old.keyHash) } := by
  have after := coherent.rotateKey stored rfl updated
  obtain ⟨_, apiKeys, tenants, origins, dictionaries⟩ := Database.updateKeyHash_eq_some updated
  have unfiled := owned.uncached injective fresh
  have moved : old.keyHash ≠ hashKey write.rawKey := by
    intro same
    rw [same, unfiled] at stored
    cases stored
  have erased : (world.store.keys.erase old.keyHash).lookup (hashKey write.rawKey) = none := by
    rw [Dict.lookup_erase_ite, if_neg moved.symm, unfiled]
  have chosen : old ∈ world.store.bootstrapKeys now := by simp [only]
  have bootstrap : isBootstrap now (old.rekey (hashKey write.rawKey)) = true :=
    (Store.mem_bootstrapKeys.mp chosen).2
  have differs : ∀ record : KeyRecord, record.id ≠ old.id →
      record ≠ old ∧ record ≠ old.rekey (hashKey write.rawKey) := by
    intro record other
    constructor
    · rintro rfl
      exact other rfl
    · rintro rfl
      exact other rfl
  constructor
  · have lastsAfter : pool.PlatformKeysLast := lasts.changeRows apiKeys fun row => ⟨rfl, rfl⟩
    refine after.oneBootstrap lastsAfter rfl bootstrap ?_
    intro hash record found
    obtain ⟨elsewhere, before⟩ := Dict.lookup_of_erase found
    by_contra qualifies
    have listed := Store.mem_bootstrapKeys.mpr ⟨⟨hash, before⟩, Bool.of_not_eq_false qualifies⟩
    rw [only, List.mem_singleton] at listed
    cases listed
    exact elsewhere (owned.cached before).1.symm
  · intro other listed
    rw [only, List.mem_singleton] at listed
    cases listed
    exact ⟨rfl, rfl, rfl⟩
  · intro nobody
    rw [nobody] at only
    cases only
  · intro other listed rawKey hashed first second rest
    rw [only, List.mem_singleton] at listed
    cases listed
    have gone : (AList.insert (hashKey write.rawKey) (old.rekey (hashKey write.rawKey))
        (world.store.keys.erase old.keyHash)).lookup (hashKey rawKey) = none := by
      rw [Dict.lookup_insert_ite, hashed, if_neg moved, Dict.lookup_erase_ite, if_pos rfl]
    exact Store.runAlone_authenticate_unknown after.healthy gone (after.unselected gone) first
      second rest
  · intro hash record other
    obtain ⟨notOld, notNew⟩ := differs record other
    exact (Dict.lookup_insert_other erased notNew hash).trans
      (Dict.lookup_erase_other stored notOld hash)
  · intro row other
    rw [apiKeys]
    apply mem_map_ite_iff
    · exact fun _ => other
    · rintro source _ selected rfl
      exact other selected
  · exact ⟨⟨tenants, rfl⟩, ⟨origins, rfl, rfl⟩, ⟨dictionaries, rfl⟩⟩
  · exact after.cachesMatch

end KeysOwned

/-! ## The call in any run -/

section

variable {hashKey : String → String} {world : World} {find write finish : Input}

theorem Coherent.reset_meets (coherent : Coherent world.store) (owned : KeysOwned hashKey world)
    (lasts : world.store.pool.PlatformKeysLast) (injective : Function.Injective hashKey)
    (fresh : world.RawKeyFresh write) (sql : write.sql = true)
    (unused : write.newId.text ∉ world.store.pool.keyIds) :
    world.store.ResetsBootstrap hashKey find write finish := by
  have unstored := owned.unstored injective fresh
  cases listed : world.store.bootstrapKeys find.now.seconds with
  | nil =>
      obtain ⟨pool, inserted⟩ : ∃ pool, world.store.pool.insertApiKey
          (newApiKeyRow (newApiKey hashKey write none "bootstrap" .platform none).record) =
            some pool :=
        Database.insertApiKey_accepts unused unstored fun _ belongs => by cases belongs
      have executed := (Input.execute_success sql _).trans inserted
      refine ⟨_, _, Store.runAlone_reset_creates coherent.healthy listed executed, ?_, ?_⟩
      · intro several
        simp [listed] at several
      · intro _
        exact ⟨_, rfl, owned.reset_creates coherent lasts injective fresh listed inserted⟩
  | cons old others =>
      cases others with
      | nil =>
          have chosen : old ∈ world.store.bootstrapKeys find.now.seconds := by simp [listed]
          obtain ⟨hash, found⟩ := (Store.mem_bootstrapKeys.mp chosen).1
          have stored := coherent.filed found
          obtain ⟨pool, updated⟩ : ∃ pool,
              world.store.pool.updateKeyHash old.id (hashKey write.rawKey) = some pool :=
            Database.updateKeyHash_accepts unstored
          have executed := (Input.execute_success sql _).trans updated
          refine ⟨_, _, Store.runAlone_reset_rotates coherent.healthy listed stored executed,
            ?_, ?_⟩
          · intro several
            simp [listed] at several
          · intro _
            exact ⟨_, rfl,
              owned.reset_rotates coherent lasts injective fresh listed stored updated⟩
      | cons second others =>
          have several : 1 < (world.store.bootstrapKeys find.now.seconds).length := by
            simp [listed]
          refine ⟨_, _, Store.runAlone_reset_ambiguous coherent.healthy several, ?_, ?_⟩
          · intro _
            exact ⟨rfl, rfl⟩
          · intro atMostOne
            omega

/-- The command runs on a store of its own, over whatever rows a run has left. -/
theorem KeysOwned.openForCli (owned : KeysOwned hashKey world) :
    KeysOwned hashKey
      { store := .openForCli world.store.pool, tasks := [], calls := ∅, issued := world.issued } := by
  apply owned.of_reload rfl
  · intro ticket
    rfl
  · rfl

/-- On any database that a run leaves, the command does what it promises; so does the
call in any run, while caches and tables agree and the lock of the key cache is not
poisoned. -/
theorem reset_unambiguous_and_local (injective : Function.Injective hashKey)
    (reached : World.Reachable hashKey world) (fresh : world.RawKeyFresh write)
    (sql : write.sql = true) (unused : write.newId.text ∉ world.store.pool.keyIds) :
    (Store.openForCli world.store.pool).ResetsBootstrap hashKey find write finish ∧
      (CachesMatch world.store → world.store.keysPoisoned = false →
        world.store.ResetsBootstrap hashKey find write finish) := by
  have written := World.reachable_written reached
  have owned := World.reachable_keysOwned injective reached
  have lasts := World.reachable_platformKeysLast reached
  constructor
  · have coherent : Coherent (Store.openForCli world.store.pool) := .reload written
    exact coherent.reset_meets owned.openForCli lasts injective fresh sql unused
  · intro caches healthy
    exact (caches.coherent written healthy).reset_meets owned lasts injective fresh sql unused

end

end

open scoped DefaultBackend

theorem reset_unambiguous_and_local_after_first_start :
    ∃ (world : World) (after : Store) (created : CreatedApiKey),
      (Store.openForCli world.store.pool).runAlone sampleHash
          [sampleInput 0 4, sampleInput 3 4, sampleInput 0 4]
          Op.resetBootstrapPlatformKey.entry = some (after, .resetKey created) ∧
        BootstrapReset sampleHash (.openForCli world.store.pool) (sampleInput 0 4).now.seconds
          created after ∧
        created.record.id = (sampleId 0).text := by
  obtain ⟨world, run, outcome⟩ :=
    World.exists_run sampleHash (fun _ _ => true) tenantSetup
      (fun world => decide (world.RawKeyFresh (sampleInput 3 4)) &&
        decide ((sampleInput 3 4).newId.text ∉ world.store.pool.keyIds) &&
        decide (((Store.openForCli world.store.pool).bootstrapKeys
          (sampleInput 0 4).now.seconds).map KeyRecord.id = [(sampleId 0).text]))
      (by decide +kernel)
  obtain ⟨⟨fresh, unused⟩, known⟩ : ((_ ∧ _) ∧ _) := by
    simpa only [Bool.and_eq_true, decide_eq_true_eq] using outcome
  have reached : World.Reachable sampleHash world := World.ReachableWhen.reachable ⟨_, run⟩
  obtain ⟨⟨after, result, ran, meets⟩, _⟩ :=
    reset_unambiguous_and_local sampleHash_injective reached fresh rfl unused
  obtain ⟨old, only, sameId⟩ := List.map_eq_singleton_iff.mp known
  have few : ((Store.openForCli world.store.pool).bootstrapKeys
      (sampleInput 0 4).now.seconds).length ≤ 1 := by simp [only]
  obtain ⟨created, rfl, reset⟩ := meets.unambiguous few
  have chosen : old ∈ (Store.openForCli world.store.pool).bootstrapKeys
      (sampleInput 0 4).now.seconds := by simp [only]
  exact ⟨world, after, created, ran, reset, (reset.continues old chosen).1.trans sameId⟩

end SpellServer
