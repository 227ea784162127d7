import SpellServer.Store.Mirrors
import SpellServer.Store.Sequential

/-!
# Caches and database agree

Between sequential operations every cache mirrors its table.  The outline says
for each action what is still missing: most actions are followed by changes of
the caches alone, and the store is coherent once these have been made.
-/

namespace SpellServer

open Library

section

variable [Driver]

structure Coherent (store : Store) : Prop where
  written : store.pool.Written
  healthy : store.keysPoisoned = false
  keys : KeysMirrored store.pool.apiKeys store.keys
  tenants : TenantsMirrored store.pool.tenants store.tenants
  origins : OriginsMirrored store.pool.tenantOrigins store.originsAny store.originsByTenant
  dictionaries : DictionariesMirrored store.pool.dictionaries store.dictionaries

namespace Coherent

variable {store : Store} {pool : Database}

theorem reload (written : pool.Written) : Coherent (Store.reload pool) :=
  { written
    healthy := rfl
    keys := .ofRows pool.apiKeys_keyHash_unique ApiKeyRow.Mirrors.loaded
    tenants := .ofRows pool.tenants_id_unique TenantRow.Describes.loaded
    origins := .reload pool
    dictionaries := .ofRows pool.dictionaries_code_unique fun _ => rfl }

/-! ### Keys -/

/-- The hash in a record is the one it is filed under. -/
theorem filed {hash : String} {record : KeyRecord} (coherent : Coherent store)
    (stored : store.keys.lookup hash = some record) :
    store.keys.lookup record.keyHash = some record := by
  obtain ⟨row, _, filed, mirrors⟩ := coherent.keys.row_of stored
  rw [mirrors.keyHash, filed]
  exact stored

/-- An entry that `find` yields is also found under the hash in its record. -/
theorem found {wanted : KeyRecord → Bool} {hint hash : String} {record : KeyRecord}
    (coherent : Coherent store)
    (yields : store.keys.findEntry wanted hint = some (hash, record)) :
    store.keys.lookup record.keyHash = some record ∧ wanted record = true := by
  obtain ⟨stored, accepted⟩ := Dict.findEntry_eq_some yields
  exact ⟨coherent.filed stored, accepted⟩

theorem createKey {hashKey : String → String} {input : Input} {tenantId : Option String}
    {label : String} {role : Role} {expiresAt : Option UInt64} (coherent : Coherent store)
    (inserted : store.pool.insertApiKey
      (newApiKeyRow (newApiKey hashKey input tenantId label role expiresAt).record) = some pool) :
    Coherent
      { store with
        pool
        keys := store.keys.insert (hashKey input.rawKey)
          (newApiKey hashKey input tenantId label role expiresAt).record } := by
  obtain ⟨⟨_, _, belongs⟩, apiKeys, tenants, origins, dictionaries⟩ :=
    Database.insertApiKey_eq_some inserted
  have named : tenantId ≠ some "" := by
    intro empty
    subst empty
    obtain ⟨row, member, unnamed⟩ := List.mem_map.mp (belongs "" rfl)
    exact coherent.written.tenantIds row member unnamed
  refine ⟨coherent.written.insertApiKey inserted rfl, coherent.healthy, ?_, ?_, ?_, ?_⟩
  · rw [apiKeys]
    exact coherent.keys.insert (newApiKeyRow_mirrors hashKey input label role expiresAt named)
  · rw [tenants]
    exact coherent.tenants
  · rw [origins]
    exact coherent.origins
  · rw [dictionaries]
    exact coherent.dictionaries

theorem revokeKey {id keyHash : String} {record : KeyRecord} (coherent : Coherent store)
    (stored : store.keys.lookup keyHash = some record) (sameId : record.id = id) (now : Clock) :
    Coherent
      { store with
        pool := store.pool.updateRevokedAt id now.seconds.toInt64
        keys := store.keys.modify keyHash (KeyRecord.revoke now.seconds) } := by
  have selects := KeysMirrored.selects coherent.keys store.pool.apiKeys_id_unique
    store.pool.apiKeys_keyHash_unique stored sameId
  refine ⟨coherent.written.updateRevokedAt id now, coherent.healthy, ?_, coherent.tenants,
    coherent.origins, coherent.dictionaries⟩
  apply coherent.keys.change selects
  · intro row
    rfl
  · intro row member _ old _ mirrors
    exact mirrors.revoke (coherent.written.revoked row member) now

theorem rotateKey {id oldHash newHash : String} {record : KeyRecord} (coherent : Coherent store)
    (stored : store.keys.lookup oldHash = some record) (sameId : record.id = id)
    (updated : store.pool.updateKeyHash id newHash = some pool) :
    Coherent
      { store with
        pool
        keys := AList.insert newHash (record.rekey newHash) (store.keys.erase oldHash) } := by
  obtain ⟨_, apiKeys, tenants, origins, dictionaries⟩ := Database.updateKeyHash_eq_some updated
  have selects := KeysMirrored.selects coherent.keys store.pool.apiKeys_id_unique
    store.pool.apiKeys_keyHash_unique stored sameId
  refine ⟨coherent.written.updateKeyHash updated, coherent.healthy, ?_, ?_, ?_, ?_⟩
  · rw [apiKeys]
    apply coherent.keys.move selects stored
    · intro row
      rfl
    · intro row _ _ mirrors
      exact mirrors.rekey newHash
  · rw [tenants]
    exact coherent.tenants
  · rw [origins]
    exact coherent.origins
  · rw [dictionaries]
    exact coherent.dictionaries

/-- What `authenticate` loads is what is cached already. -/
theorem loadKey {row : ApiKeyRow} (coherent : Coherent store) (member : row ∈ store.pool.apiKeys) :
    Coherent
      { store with
        keys := AList.insert row.keyHash (keyRecordFromRow row)
          (store.keys.retain fun _ other => other.id ≠ (keyRecordFromRow row).id) } := by
  refine ⟨coherent.written, coherent.healthy, ?_, coherent.tenants, coherent.origins,
    coherent.dictionaries⟩
  apply coherent.keys.refresh member
  · exact .loaded row
  · intro source sourceMember held mirrors dropped
    have sameId : held.id = row.id := by
      by_contra differs
      simp [keyRecordFromRow, differs] at dropped
    exact congrArg ApiKeyRow.keyHash (List.inj_on_of_nodup_map store.pool.apiKeys_id_unique
      sourceMember member (mirrors.id.symm.trans sameId))

theorem touchKey {id keyHash : String} {record : KeyRecord} (coherent : Coherent store)
    (stored : store.keys.lookup keyHash = some record) (sameId : record.id = id) (nowTs : Clock) :
    Coherent
      { store with
        pool := store.pool.updateLastUsedAt id nowTs.seconds.toInt64
        keys := store.keys.modify keyHash (KeyRecord.touch nowTs.seconds) } := by
  have selects := KeysMirrored.selects coherent.keys store.pool.apiKeys_id_unique
    store.pool.apiKeys_keyHash_unique stored sameId
  refine ⟨coherent.written.updateLastUsedAt id _, coherent.healthy, ?_, coherent.tenants,
    coherent.origins, coherent.dictionaries⟩
  apply coherent.keys.change selects
  · intro row
    rfl
  · intro row _ _ old _ mirrors
    exact mirrors.touch nowTs

/-- The write for an unknown id changes no row. -/
theorem touchUnknown {id : String} (coherent : Coherent store)
    (absent : ∀ hash record, store.keys.lookup hash = some record → record.id ≠ id)
    (lastUsedAt : Int64) :
    Coherent { store with pool := store.pool.updateLastUsedAt id lastUsedAt } := by
  have unknown := KeysMirrored.unknown coherent.keys store.pool.apiKeys_keyHash_unique absent
  refine ⟨coherent.written.updateLastUsedAt id _, coherent.healthy, ?_, coherent.tenants,
    coherent.origins, coherent.dictionaries⟩
  have same : (store.pool.updateLastUsedAt id lastUsedAt).apiKeys = store.pool.apiKeys := by
    have kept : ∀ row ∈ store.pool.apiKeys,
        (if row.id = id then { row with lastUsedAt := some lastUsedAt } else row) = row :=
      fun row member => if_neg (unknown row member)
    exact (List.map_congr_left kept).trans (List.map_id _)
  rw [same]
  exact coherent.keys

/-! ### Tenants, origins and dictionaries -/

theorem createTenant {input : Input} {name : String} {language : Option String}
    {quotaLimit periodStart periodEnd : Option UInt64} (coherent : Coherent store)
    (inserted : store.pool.insertTenant
      (newTenantRow (newTenant input name language quotaLimit periodStart periodEnd)) =
        some pool) :
    Coherent
      { store with
        pool
        tenants := store.tenants.insert input.newId.text
          (newTenant input name language quotaLimit periodStart periodEnd) } := by
  obtain ⟨_, tenants, origins, apiKeys, dictionaries⟩ := Database.insertTenant_eq_some inserted
  refine ⟨coherent.written.insertTenant inserted input.newId.nonempty, coherent.healthy,
    ?_, ?_, ?_, ?_⟩
  · rw [apiKeys]
    exact coherent.keys
  · rw [tenants]
    exact coherent.tenants.insert
      (newTenantRow_describes input name language quotaLimit periodStart periodEnd)
  · rw [origins]
    exact coherent.origins
  · rw [dictionaries]
    exact coherent.dictionaries

/-- A change of one tenant's row and a new entry for it. -/
theorem putTenant {id : String} {info snapshot : TenantInfo} {change : TenantRow → TenantRow}
    (coherent : Coherent store) (stored : store.tenants.lookup id = some info)
    (keeps : ∀ row, (change row).id = row.id)
    (describes : ∀ row, row.Describes info → (change row).Describes snapshot) :
    Coherent
      { store with
        pool := store.pool.updateTenants id change keeps
        tenants := store.tenants.insert id snapshot } := by
  refine ⟨coherent.written.updateTenants keeps, coherent.healthy, coherent.keys, ?_,
    coherent.origins, coherent.dictionaries⟩
  apply coherent.tenants.put _ stored keeps
  · intro row _ _ described
    exact describes row described
  · intro row _
    rfl

theorem suspendTenant (coherent : Coherent store) (id : String) (suspendedAt : Option Clock) :
    Coherent
      { store with
        pool := store.pool.updateSuspendedAt id (suspendedAt.map Clock.seconds)
        tenants := store.tenants.modify id fun info =>
          { info with suspendedAt := suspendedAt.map Clock.seconds } } := by
  refine ⟨?_, coherent.healthy, coherent.keys, ?_, coherent.origins, coherent.dictionaries⟩
  · apply coherent.written.updateTenants
    intro row
    rfl
  apply coherent.tenants.change
  · intro row _
    rfl
  · intro row
    rfl
  · intro row _ _ info _ describes
    exact describes.suspend suspendedAt

theorem registerOrigin {info : OriginInfo} (coherent : Coherent store)
    (stamped : readWord info.createdAt.toInt64 = info.createdAt)
    (inserted : store.pool.insertOrigin (newOriginRow info) = some pool) :
    Coherent
      { store with
        pool
        originsAny := insert info.origin store.originsAny
        originsByTenant := insertOriginInfo store.originsByTenant info } := by
  obtain ⟨⟨_, fresh, _⟩, origins, tenants, apiKeys, dictionaries⟩ :=
    Database.insertOrigin_eq_some inserted
  refine ⟨coherent.written.of_same tenants apiKeys, coherent.healthy, ?_, ?_, ?_, ?_⟩
  · rw [apiKeys]
    exact coherent.keys
  · rw [tenants]
    exact coherent.tenants
  · rw [origins]
    exact coherent.origins.insert stamped fresh
  · rw [dictionaries]
    exact coherent.dictionaries

theorem revokeOrigin {row : OriginRow} (coherent : Coherent store)
    (member : row ∈ store.pool.tenantOrigins) :
    Coherent
      { store with
        pool := store.pool.deleteOrigin row.id
        originsAny :=
          if stillOwned (removeOriginInfo store.originsByTenant row.tenantId row.origin)
              row.origin then
            store.originsAny
          else store.originsAny.erase row.origin
        originsByTenant := removeOriginInfo store.originsByTenant row.tenantId row.origin } :=
  { written := coherent.written.of_same rfl rfl
    healthy := coherent.healthy
    keys := coherent.keys
    tenants := coherent.tenants
    origins := coherent.origins.remove store.pool.tenantOrigins_id_unique
      store.pool.tenantOrigins_owned_unique member
    dictionaries := coherent.dictionaries }

/-- After the upsert there is a row for the code; caching it completes the
mirror. -/
theorem registerDictionary (coherent : Coherent store) (row : DictionaryRow) :
    ∃ stored, (store.pool.upsertDictionary row).selectDictionary row.code = some stored ∧
      Coherent
        { store with
          pool := store.pool.upsertDictionary row
          dictionaries := store.dictionaries.insert row.code (dictionaryInfoFromRow stored) } := by
  unfold Database.upsertDictionary
  split
  · rename_i known
    obtain ⟨old, member, sameCode⟩ := List.mem_map.mp known
    obtain ⟨info, found⟩ := Option.isSome_iff_exists.mp (coherent.dictionaries.entry_of old member)
    rw [sameCode] at found
    have selected : findBy DictionaryRow.code row.code store.pool.dictionaries = some old :=
      (findBy_eq_some_iff store.pool.dictionaries_code_unique).mpr ⟨member, sameCode⟩
    refine ⟨{ old with sourceUrl := row.sourceUrl }, ?_, ⟨coherent.written.of_same rfl rfl,
      coherent.healthy, coherent.keys, coherent.tenants, coherent.origins, ?_⟩⟩
    · rw [Database.selectDictionary, findBy_map, selected, Option.map_some, if_pos sameCode]
      intro other
      split <;> rfl
    · apply coherent.dictionaries.put _ found
      · intro other
        rfl
      · intro other otherMember otherCode _
        rw [List.inj_on_of_nodup_map store.pool.dictionaries_code_unique otherMember member
          (otherCode.trans sameCode.symm)]
      · intro other _
        rfl
  · rename_i unknown
    refine ⟨row, ?_, ⟨coherent.written.of_same rfl rfl, coherent.healthy, coherent.keys,
      coherent.tenants, coherent.origins, ?_⟩⟩
    · rw [Database.selectDictionary, findBy_append_singleton row unknown, if_pos rfl]
    · exact coherent.dictionaries.insert rfl

end Coherent

/-! ## The outline -/

/-- Between operations: at most one write is left, and it completes the mirror. -/
def Settled (store : Store) (tasks : List Task) : Prop :=
  (tasks = [] ∧ Coherent store) ∨
    ∃ task, tasks = [task] ∧ Coherent { store with pool := task.run store.pool }

theorem Settled.coherent {store : Store} (settled : Settled store []) : Coherent store := by
  rcases settled with ⟨_, coherent⟩ | ⟨task, impossible, _⟩
  · exact coherent
  · cases impossible

def KeyFrame.Outline (store : Store) : KeyFrame → Prop
  | .createCache created _ =>
      Coherent { store with keys := store.keys.insert created.record.keyHash created.record }
  | .revokeUpdate id keyHash | .rotateUpdate keyHash id _ | .touchMark id keyHash _ =>
      Coherent store ∧ ∃ record, store.keys.lookup keyHash = some record ∧ record.id = id
  | .revokeMark _ keyHash revokedAt =>
      Coherent
        { store with keys := store.keys.modify keyHash (KeyRecord.revoke revokedAt.seconds) }
  | .rotateRekey oldHash newHash _ _ _ =>
      ∃ record, store.keys.lookup oldHash = some record ∧
        Coherent
          { store with
            keys := AList.insert newHash (record.rekey newHash) (store.keys.erase oldHash) }
  | .authStore hash record =>
      Coherent store ∧
        ∃ row ∈ store.pool.apiKeys, row.keyHash = hash ∧ record = keyRecordFromRow row
  | .createInsert .. | .revokeFind .. | .rotateFind .. | .resetFind | .authLookup ..
  | .authLoad .. | .touchFind .. => Coherent store

def TenantFrame.Outline (store : Store) : TenantFrame → Prop
  | .createCache info => Coherent { store with tenants := store.tenants.insert info.id info }
  | .updateApply id _ => Coherent store ∧ (store.tenants.lookup id).isSome = true
  | .updateWrite id snapshot => Coherent { store with pool := store.pool.updateTenant id snapshot }
  | .suspendCache id suspendedAt =>
      Coherent
        { store with
          tenants := store.tenants.modify id fun info =>
            { info with suspendedAt := suspendedAt.map Clock.seconds } }
  | .createInsert .. | .updateCheck .. | .suspendCheck .. | .suspendWrite ..
  | .consumeQuota .. => Coherent store

def OriginFrame.Outline (store : Store) : OriginFrame → Prop
  | .registerAny info =>
      Coherent
        { store with
          originsAny := insert info.origin store.originsAny
          originsByTenant := insertOriginInfo store.originsByTenant info }
  | .registerByTenant info =>
      Coherent { store with originsByTenant := insertOriginInfo store.originsByTenant info }
  | .revokeDelete tenantId id origin =>
      Coherent store ∧
        ∃ row ∈ store.pool.tenantOrigins,
          row.id = id ∧ row.tenantId = tenantId ∧ row.origin = origin
  | .revokeByTenant tenantId origin =>
      Coherent
        { store with
          originsAny :=
            if stillOwned (removeOriginInfo store.originsByTenant tenantId origin) origin then
              store.originsAny
            else store.originsAny.erase origin
          originsByTenant := removeOriginInfo store.originsByTenant tenantId origin }
  | .revokeStillOwned origin =>
      Coherent
        { store with
          originsAny :=
            if stillOwned store.originsByTenant origin then store.originsAny
            else store.originsAny.erase origin }
  | .revokeAny origin => Coherent { store with originsAny := store.originsAny.erase origin }
  | .registerInsert .. | .revokeSelect .. => Coherent store

def DictionaryFrame.Outline (store : Store) : DictionaryFrame → Prop
  | .registerUpsert .. => Coherent store
  | .registerSelect code =>
      ∃ stored, store.pool.selectDictionary code = some stored ∧
        Coherent
          { store with
            dictionaries := store.dictionaries.insert code (dictionaryInfoFromRow stored) }
  | .registerCache code info =>
      Coherent { store with dictionaries := store.dictionaries.insert code info }

def Frame.Outline (store : Store) : Frame → Prop
  | .key frame => frame.Outline store
  | .tenant frame => frame.Outline store
  | .origin frame => frame.Outline store
  | .dictionary frame => frame.Outline store

/-- An action goes on along the outline or leaves the store settled. -/
def Outcome.Keeps (outcome : Outcome) : Prop :=
  (∀ later, outcome.next = .running later → outcome.spawned = [] ∧ later.Outline outcome.store) ∧
    ∀ result, outcome.next = .returned result → Settled outcome.store outcome.spawned

theorem Outcome.keeps_running {store : Store} {frame : Frame} {issued : List (String × String)}
    (outline : frame.Outline store) :
    Outcome.Keeps { store, next := .running frame, spawned := [], issued } := by
  constructor
  · intro later goes
    cases goes
    exact ⟨rfl, outline⟩
  · intro result returns
    cases returns

theorem Outcome.keeps_finish {store : Store} {result : Result} (coherent : Coherent store) :
    (finish store result).Keeps := by
  constructor
  · intro later goes
    cases goes
  · intro later _
    exact Or.inl ⟨rfl, coherent⟩

theorem Outcome.keeps_spawn {store : Store} {result : Result} {task : Task}
    (coherent : Coherent { store with pool := task.run store.pool }) :
    Outcome.Keeps { store, next := .returned result, spawned := [task], issued := [] } := by
  constructor
  · intro later goes
    cases goes
  · intro later _
    exact Or.inr ⟨task, rfl, coherent⟩

section Acting

variable {hashKey : String → String} {input : Input} {store : Store}

theorem KeyFrame.outline_exec {frame : KeyFrame} (outline : frame.Outline store) :
    (frame.exec hashKey input store).Keeps := by
  cases frame with
  | createInsert tenantId label role expiresAt caller =>
      simp only [KeyFrame.exec]
      split
      · exact Outcome.keeps_finish outline
      · rename_i pool executed
        have coherent : Coherent store := outline
        exact Outcome.keeps_running (coherent.createKey (Input.execute_eq_some.mp executed).2)
  | createCache created caller =>
      have healthy : store.keysPoisoned = false := outline.healthy
      simp only [KeyFrame.exec, KeyFrame.withKeys_healthy healthy]
      exact Outcome.keeps_finish outline
  | revokeFind tenantId id =>
      simp only [KeyFrame.exec, KeyFrame.withKeys_healthy outline.healthy]
      split
      · rename_i hash record yields
        obtain ⟨stored, accepted⟩ := Coherent.found outline yields
        exact Outcome.keeps_running ⟨outline, record, stored, (ownedBy_iff.mp accepted).1⟩
      · exact Outcome.keeps_finish outline
  | revokeUpdate id keyHash =>
      obtain ⟨coherent, record, stored, sameId⟩ := outline
      simp only [KeyFrame.exec]
      split
      · exact Outcome.keeps_finish coherent
      · rename_i pool executed
        cases (Input.execute_eq_some.mp executed).2
        exact Outcome.keeps_running (coherent.revokeKey stored sameId input.now)
  | revokeMark id keyHash revokedAt =>
      have healthy : store.keysPoisoned = false := outline.healthy
      simp only [KeyFrame.exec, KeyFrame.withKeys_healthy healthy]
      exact Outcome.keeps_finish outline
  | rotateFind tenantId id =>
      simp only [KeyFrame.exec, KeyFrame.withKeys_healthy outline.healthy]
      split
      · rename_i hash record yields
        obtain ⟨stored, accepted⟩ := Coherent.found outline yields
        exact Outcome.keeps_running ⟨outline, record, stored, (ownedBy_iff.mp accepted).1⟩
      · exact Outcome.keeps_finish outline
  | rotateUpdate oldHash id caller =>
      obtain ⟨coherent, record, stored, sameId⟩ := outline
      simp only [KeyFrame.exec]
      split
      · exact Outcome.keeps_finish coherent
      · rename_i pool executed
        exact Outcome.keeps_running ⟨record, stored,
          coherent.rotateKey stored sameId (Input.execute_eq_some.mp executed).2⟩
  | rotateRekey oldHash newHash rawKey id caller =>
      obtain ⟨record, stored, coherent⟩ := outline
      have healthy : store.keysPoisoned = false := coherent.healthy
      simp only [KeyFrame.exec, KeyFrame.withKeys_healthy healthy, stored]
      exact Outcome.keeps_finish coherent
  | resetFind =>
      simp only [KeyFrame.exec, KeyFrame.withKeys_healthy outline.healthy]
      split
      · exact Outcome.keeps_running outline
      · rename_i record only
        have chosen : record ∈ [record] := List.mem_singleton.mpr rfl
        rw [← only] at chosen
        obtain ⟨hash, stored⟩ := Dict.mem_values_iff.mp (List.mem_of_mem_filter chosen)
        exact Outcome.keeps_running ⟨outline, record, Coherent.filed outline stored, rfl⟩
      · exact Outcome.keeps_finish outline
  | authLookup rawKey =>
      simp only [KeyFrame.exec, KeyFrame.withKeys_healthy outline.healthy]
      split
      · exact Outcome.keeps_finish outline
      · exact Outcome.keeps_running outline
  | authLoad hash now =>
      simp only [KeyFrame.exec]
      split
      · exact Outcome.keeps_finish outline
      · rename_i row executed
        obtain ⟨member, filed⟩ := findBy_mem (Input.execute_eq_some.mp executed).2
        split
        · exact Outcome.keeps_running ⟨outline, row, member, filed, rfl⟩
        · exact Outcome.keeps_finish outline
  | authStore hash record =>
      obtain ⟨coherent, row, member, rfl, rfl⟩ := outline
      simp only [KeyFrame.exec, KeyFrame.withKeys_healthy coherent.healthy]
      exact Outcome.keeps_finish (coherent.loadKey member)
  | touchFind id =>
      simp only [KeyFrame.exec, KeyFrame.withKeys_healthy outline.healthy]
      split
      · rename_i hash record yields
        obtain ⟨stored, accepted⟩ := Coherent.found outline yields
        exact Outcome.keeps_running ⟨outline, record, stored, of_decide_eq_true accepted⟩
      · rename_i missing
        have absent : ∀ hash record, store.keys.lookup hash = some record → record.id ≠ id := by
          intro hash record stored
          simpa using Dict.findEntry_eq_none missing stored
        exact Outcome.keeps_spawn (Coherent.touchUnknown outline absent _)
  | touchMark id keyHash nowTs =>
      obtain ⟨coherent, record, stored, sameId⟩ := outline
      simp only [KeyFrame.exec, KeyFrame.withKeys_healthy coherent.healthy]
      exact Outcome.keeps_spawn (coherent.touchKey stored sameId nowTs)

theorem TenantFrame.outline_exec {frame : TenantFrame} (outline : frame.Outline store)
    (sql : input.sql = true) : (frame.exec input store).Keeps := by
  cases frame with
  | createInsert name language quotaLimit periodStart periodEnd =>
      have coherent : Coherent store := outline
      simp only [TenantFrame.exec]
      split
      · exact Outcome.keeps_finish coherent
      · rename_i pool executed
        exact Outcome.keeps_running (coherent.createTenant (Input.execute_eq_some.mp executed).2)
  | createCache info => exact Outcome.keeps_running outline
  | updateCheck id patch =>
      simp only [TenantFrame.exec]
      split
      · rename_i known
        exact Outcome.keeps_running ⟨outline, known⟩
      · exact Outcome.keeps_finish outline
  | updateApply id patch =>
      obtain ⟨coherent, known⟩ := outline
      obtain ⟨info, stored⟩ := Option.isSome_iff_exists.mp known
      simp only [TenantFrame.exec, stored]
      apply Outcome.keeps_running
      apply coherent.putTenant stored
      intro row describes
      exact describes.patch patch
  | updateWrite id snapshot =>
      simp only [TenantFrame.exec, Input.execute, sql, if_true]
      exact Outcome.keeps_finish outline
  | suspendCheck id suspended =>
      simp only [TenantFrame.exec]
      split
      · exact Outcome.keeps_running outline
      · exact Outcome.keeps_finish outline
  | suspendWrite id suspended =>
      have coherent : Coherent store := outline
      simp only [TenantFrame.exec]
      split
      · exact Outcome.keeps_finish coherent
      · rename_i pool executed
        cases (Input.execute_eq_some.mp executed).2
        exact Outcome.keeps_running (coherent.suspendTenant id _)
  | suspendCache id suspendedAt => exact Outcome.keeps_finish outline
  | consumeQuota tenantId =>
      have coherent : Coherent store := outline
      simp only [TenantFrame.exec]
      split
      · exact Outcome.keeps_finish coherent
      · rename_i info stored
        split
        · exact Outcome.keeps_finish coherent
        · apply Outcome.keeps_spawn
          apply coherent.putTenant stored
          · intro row
            rfl
          · intro row describes
            exact describes.consume

theorem OriginFrame.outline_exec {frame : OriginFrame} (outline : frame.Outline store) :
    (frame.exec input store).Keeps := by
  cases frame with
  | registerInsert tenantId origin =>
      have coherent : Coherent store := outline
      simp only [OriginFrame.exec]
      split
      · exact Outcome.keeps_finish coherent
      · rename_i pool executed
        exact Outcome.keeps_running
          (coherent.registerOrigin (readWord_clock _) (Input.execute_eq_some.mp executed).2)
  | registerAny info => exact Outcome.keeps_running outline
  | registerByTenant info => exact Outcome.keeps_finish outline
  | revokeSelect tenantId id =>
      simp only [OriginFrame.exec]
      split
      · split
        · exact Outcome.keeps_finish outline
        · rename_i origin selected
          obtain ⟨row, found, rfl⟩ := Option.map_eq_some_iff.mp selected
          have matching := List.find?_some found
          obtain ⟨sameId, sameTenant⟩ : row.id = id ∧ row.tenantId = tenantId := by
            simpa using matching
          exact Outcome.keeps_running
            ⟨outline, row, List.mem_of_find?_eq_some found, sameId, sameTenant, rfl⟩
      · exact Outcome.keeps_finish outline
  | revokeDelete tenantId id origin =>
      obtain ⟨coherent, row, member, rfl, rfl, rfl⟩ := outline
      simp only [OriginFrame.exec]
      split
      · exact Outcome.keeps_finish coherent
      · rename_i pool executed
        cases (Input.execute_eq_some.mp executed).2
        exact Outcome.keeps_running (coherent.revokeOrigin member)
  | revokeByTenant tenantId origin => exact Outcome.keeps_running outline
  | revokeStillOwned origin =>
      simp only [OriginFrame.exec]
      split
      · rename_i owned
        simp only [OriginFrame.Outline, owned, if_true] at outline
        exact Outcome.keeps_finish outline
      · rename_i free
        simp only [OriginFrame.Outline, free] at outline
        exact Outcome.keeps_running outline
  | revokeAny origin => exact Outcome.keeps_finish outline

theorem DictionaryFrame.outline_exec {frame : DictionaryFrame} (outline : frame.Outline store)
    (sql : input.sql = true) : (frame.exec input store).Keeps := by
  cases frame with
  | registerUpsert code sourceUrl =>
      have coherent : Coherent store := outline
      simp only [DictionaryFrame.exec]
      split
      · exact Outcome.keeps_finish coherent
      · rename_i pool executed
        cases (Input.execute_eq_some.mp executed).2
        exact Outcome.keeps_running (coherent.registerDictionary _)
  | registerSelect code =>
      obtain ⟨stored, selected, coherent⟩ := outline
      simp only [DictionaryFrame.exec, Input.execute, sql, if_true, selected]
      exact Outcome.keeps_running coherent
  | registerCache code info => exact Outcome.keeps_finish outline

theorem Frame.outline_exec {frame : Frame} (outline : frame.Outline store)
    (sql : input.sql = true) : (frame.exec hashKey input store).Keeps := by
  cases frame with
  | key frame => exact KeyFrame.outline_exec outline
  | tenant frame => exact TenantFrame.outline_exec outline sql
  | origin frame => exact OriginFrame.outline_exec outline
  | dictionary frame => exact DictionaryFrame.outline_exec outline sql

end Acting

theorem Coherent.reopened {hashKey : String → String} {now : Clock} {input : Input}
    {pool : Database} {opened : Opened} (written : pool.Written)
    (success : Store.open hashKey now input pool = some opened) : Coherent opened.store := by
  have loaded := Coherent.reload written
  rcases Store.open_cases success with rfl | ⟨inserted, accepted, rfl⟩
  · exact loaded
  · exact loaded.createKey accepted

/-- Follow the outline through a run. -/
abbrev World.Coherently (world : World) : Prop :=
  Follows Settled (fun _ frame store => frame.Outline store) world

theorem World.Coherently.step {hashKey : String → String} {world next : World} {event : Event}
    (coherently : world.Coherently) (allowed : sequential world event = true)
    (taken : world.step hashKey event = some next) : next.Coherently := by
  refine Follows.step coherently allowed taken ?_ ?_ ?_ ?_
  · intro ticket op _ rest
    have coherent := rest.coherent
    cases op <;> exact coherent
  · intro ticket op input frame _ _ _ sql outline
    exact Frame.outline_exec outline sql
  · intro position task _ pending rest
    rcases rest with ⟨none, _⟩ | ⟨only, one, coherent⟩
    · rw [none] at pending
      cases pending
    · rw [one] at pending ⊢
      cases position with
      | zero =>
          cases pending
          exact Or.inl ⟨rfl, coherent⟩
      | succ position => cases pending
  · intro now input opened _ _ rest success
    exact Or.inl ⟨rfl, Coherent.reopened rest.coherent.written success⟩

/-! ## The comparison with a reload -/

/-- The caches, entry by entry, are those `reload_caches` would build.  A counter of a
tenant is the one it would read exactly if the driver hands the number back. -/
structure MatchesReload (store : Store) : Prop where
  keys : ∀ hash, (store.keys.lookup hash).map KeyRecord.withoutExpiry =
    ((Store.reload store.pool).keys.lookup hash).map KeyRecord.withoutExpiry
  tenants : ∀ id, (store.tenants.lookup id).map TenantInfo.withoutNumbers =
    ((Store.reload store.pool).tenants.lookup id).map TenantInfo.withoutNumbers
  quotaLimit : ∀ id info read, store.tenants.lookup id = some info →
    (Store.reload store.pool).tenants.lookup id = some read →
    (read.quotaLimit = info.quotaLimit ↔ Driver.Holds info.quotaLimit.toInt64)
  requestCount : ∀ id info read, store.tenants.lookup id = some info →
    (Store.reload store.pool).tenants.lookup id = some read →
    (read.requestCount = info.requestCount ↔ Driver.Holds info.requestCount.toInt64)
  originsAny : store.originsAny = (Store.reload store.pool).originsAny
  originsByTenant : ∀ tenantId origin, originOf store.originsByTenant tenantId origin =
    originOf (Store.reload store.pool).originsByTenant tenantId origin
  dictionaries : ∀ code, store.dictionaries.lookup code =
    (Store.reload store.pool).dictionaries.lookup code
  union : ∀ origin, origin ∈ store.originsAny ↔
    ∃ tenantId, (originOf store.originsByTenant tenantId origin).isSome = true
  present : ∀ hash record tenantId, store.keys.lookup hash = some record →
    record.tenantId = some tenantId → (store.tenants.lookup tenantId).isSome = true

/-- `origins_by_tenant` has an inner map for the tenants it would have one for. -/
def InnerMapsEqual (store : Store) : Prop :=
  ∀ tenantId, (store.originsByTenant.lookup tenantId).isSome =
    ((Store.reload store.pool).originsByTenant.lookup tenantId).isSome

def CountersEqual (store : Store) : Prop :=
  ∀ id info read, store.tenants.lookup id = some info →
    (Store.reload store.pool).tenants.lookup id = some read →
    read.quotaLimit = info.quotaLimit ∧ read.requestCount = info.requestCount

/-- The caches are those `reload_caches` would build, the inner maps and the counters too. -/
structure EqualsReload (store : Store) : Prop extends MatchesReload store where
  innerMaps : InnerMapsEqual store
  counters : CountersEqual store

/-- What holds whenever operations have followed one another since a start. -/
def HoldsSequentially (property : Store → Prop) : Prop :=
  ∀ hashKey earlier start world now input events, World.Reachable hashKey earlier →
    earlier.step hashKey (.restart now input) = some start →
    World.RunWhen hashKey (fun before event => sequential before event = true)
      start events world →
    world.calls.Quiescent → world.tasks = [] → property world.store

theorem tenantId_of_loaded {row : ApiKeyRow} {tenantId : String}
    (loaded : (keyRecordFromRow row).tenantId = some tenantId) : row.tenantId = some tenantId := by
  simp only [keyRecordFromRow] at loaded
  split at loaded
  · cases loaded
  · rename_i named
    cases column : row.tenantId with
    | none => simp [column] at named
    | some value => simpa [column] using loaded

/-- The row of a cached tenant is the one a reload decodes. -/
theorem Coherent.describes_of_reload {store : Store} (coherent : Coherent store)
    {id : String} {info read : TenantInfo} (stored : store.tenants.lookup id = some info)
    (reloaded : (Store.reload store.pool).tenants.lookup id = some read) :
    ∃ row : TenantRow, row.Describes info ∧ read = tenantInfoFromRow row := by
  obtain ⟨row, member, same, describes⟩ := coherent.tenants.row_of stored
  have selected : findBy TenantRow.id id store.pool.tenants = some row :=
    (findBy_eq_some_iff store.pool.tenants_id_unique).mpr ⟨member, same⟩
  rw [Store.reload_tenants_lookup, selected, Option.map_some] at reloaded
  cases reloaded
  exact ⟨row, describes, rfl⟩

theorem Coherent.matchesReload {store : Store} (coherent : Coherent store) :
    MatchesReload store := by
  constructor
  · intro hash
    rw [Store.reload_keys_lookup]
    exact coherent.keys.lookup store.pool.apiKeys_keyHash_unique
      (fun _ _ mirrors => mirrors.lasting) hash
  · intro id
    rw [Store.reload_tenants_lookup]
    exact coherent.tenants.lookup store.pool.tenants_id_unique (fun _ _ agreed => agreed.lasting) id
  · intro id info read stored reloaded
    obtain ⟨row, describes, rfl⟩ := coherent.describes_of_reload stored reloaded
    exact describes.quotaLimit.reads_iff
  · intro id info read stored reloaded
    obtain ⟨row, describes, rfl⟩ := coherent.describes_of_reload stored reloaded
    exact describes.requestCount.reads_iff
  · ext origin
    rw [coherent.origins.any, Store.mem_reload_originsAny]
  · intro tenantId origin
    rw [coherent.origins.byTenant, Store.reload_originOf]
  · intro code
    have same : (store.dictionaries.lookup code).map id =
        ((findBy DictionaryRow.code code store.pool.dictionaries).map dictionaryInfoFromRow).map
          id :=
      coherent.dictionaries.lookup store.pool.dictionaries_code_unique
        (fun _ _ agreed => agreed) code
    rw [Store.reload_dictionaries_lookup]
    simpa using same
  · exact coherent.origins.union
  · intro hash record tenantId stored belongs
    obtain ⟨row, member, _, mirrors⟩ := coherent.keys.row_of stored
    rw [mirrors.tenantId] at belongs
    have known := store.pool.apiKeys_references row member tenantId (tenantId_of_loaded belongs)
    obtain ⟨tenant, tenantMember, rfl⟩ := List.mem_map.mp known
    exact coherent.tenants.entry_of tenant tenantMember

/-- After any run and a start of the process, sequential operations keep caches
and tables in step. -/
theorem World.sequential_coherent {hashKey : String → String} {earlier start world : World}
    {now : Clock} {input : Input} {events : List Event}
    (reached : World.Reachable hashKey earlier)
    (opened : earlier.step hashKey (.restart now input) = some start)
    (run : World.RunWhen hashKey (fun before event => sequential before event = true)
      start events world)
    (quiescent : world.calls.Quiescent) (settled : world.tasks = []) : Coherent world.store := by
  have started : start.Coherently := by
    rcases World.step_cases opened with ⟨_, _, same, _⟩ | ⟨_, _, _, same, _⟩ |
      ⟨_, _, _, same, _⟩ | ⟨_, _, store, same, _, success, rfl⟩
    · cases same
    · cases same
    · cases same
    · refine .idle (Calls.frameAt_dropRunning _) (Or.inl ⟨rfl, ?_⟩)
      exact Coherent.reopened (World.reachable_written reached) success
  have coherently : world.Coherently :=
    run.invariant (fun _ _ _ before allowed taken => before.step allowed taken) started
  have rest := coherently.at_rest quiescent
  rw [settled] at rest
  exact rest.coherent

/-- After any run and a start of the process, sequential operations leave the
caches as a reload would build them, entry by entry. -/
theorem sequential_caches_match_reload {hashKey : String → String} {earlier start world : World}
    {now : Clock} {input : Input} {events : List Event}
    (reached : World.Reachable hashKey earlier)
    (opened : earlier.step hashKey (.restart now input) = some start)
    (run : World.RunWhen hashKey (fun before event => sequential before event = true)
      start events world)
    (quiescent : world.calls.Quiescent) (settled : world.tasks = []) :
    MatchesReload world.store :=
  (World.sequential_coherent reached opened run quiescent settled).matchesReload

end

open scoped DefaultBackend

/-- A tenant registers an origin and revokes it. -/
def revokedOrigin : List Event :=
  [.call 1 (.registerOrigin (sampleId 1).text "https://acme.example"),
    .act 1 (sampleInput 3 4), .act 1 (sampleInput 0 4), .act 1 (sampleInput 0 4),
    .call 2 (.revokeOrigin (sampleId 1).text (sampleId 3).text),
    .act 2 (sampleInput 0 4), .act 2 (sampleInput 0 4), .act 2 (sampleInput 0 4),
    .act 2 (sampleInput 0 4), .act 2 (sampleInput 0 4)]

theorem empty_origin_map_stays : ¬HoldsSequentially InnerMapsEqual := by
  intro claim
  obtain ⟨start, world, first, second, outcome⟩ :=
    World.exists_runs sampleHash sequential sequential
      [.restart (sampleInput 0 0).now (sampleInput 0 0)]
      (tenantSetup.tail ++ revokedOrigin)
      (fun _ world => decide world.calls.Quiescent && world.tasks.isEmpty &&
        (world.store.originsByTenant.lookup (sampleId 1).text).isSome &&
        (world.store.pool.tenantOrigins.isEmpty))
      (by decide +kernel)
  have opened := first.of_singleton
  obtain ⟨⟨⟨quiescent, settled⟩, stays⟩, deleted⟩ : ((_ ∧ _) ∧ _) ∧ _ := by
    simpa only [Bool.and_eq_true, decide_eq_true_eq, List.isEmpty_iff] using outcome
  have same := claim sampleHash World.blank start world _ _ _ ⟨_, .nil _⟩ opened second quiescent
    settled (sampleId 1).text
  rw [stays, Store.reload, deleted] at same
  cases same

/-- A tenant is created with a limit of three thousand million requests. -/
def largeLimit : List Event :=
  [.call 0 (.createTenant "acme" none (some 3000000000) none none),
    .act 0 (sampleInput 1 4), .act 0 (sampleInput 0 4),
    .act 0 (sampleInput 2 1), .act 0 (sampleInput 0 4)]

theorem large_limit_read_otherwise : ¬HoldsSequentially CountersEqual := by
  intro claim
  obtain ⟨start, world, first, second, outcome⟩ :=
    World.exists_runs sampleHash sequential sequential
      [.restart (sampleInput 0 0).now (sampleInput 0 0)] largeLimit
      (fun _ world => decide world.calls.Quiescent && world.tasks.isEmpty &&
        decide ((world.store.tenants.lookup (sampleId 1).text).map TenantInfo.quotaLimit =
          some 3000000000) &&
        decide (((Store.reload world.store.pool).tenants.lookup (sampleId 1).text).map
          TenantInfo.quotaLimit = some 18446744072414584320))
      (by decide +kernel)
  have opened := first.of_singleton
  obtain ⟨⟨⟨quiescent, settled⟩, cached⟩, reloaded⟩ : ((_ ∧ _) ∧ _) ∧ _ := by
    simpa only [Bool.and_eq_true, decide_eq_true_eq, List.isEmpty_iff] using outcome
  obtain ⟨info, stored, given⟩ := Option.map_eq_some_iff.mp cached
  obtain ⟨read, found, other⟩ := Option.map_eq_some_iff.mp reloaded
  have same := (claim sampleHash World.blank start world _ _ _ ⟨_, .nil _⟩ opened second quiescent
    settled _ info read stored found).1
  rw [given, other] at same
  exact absurd same (by decide)

/-- Two fields of the caches keep a reload from being equal. -/
theorem caches_not_equal_to_reload :
    ¬HoldsSequentially EqualsReload ∧ ¬HoldsSequentially InnerMapsEqual ∧
      ¬HoldsSequentially CountersEqual := by
  refine ⟨?_, empty_origin_map_stays, large_limit_read_otherwise⟩
  intro claim
  apply empty_origin_map_stays
  intro hashKey earlier start world now input events reached opened run quiescent settled
  exact (claim hashKey earlier start world now input events reached opened run quiescent
    settled).innerMaps

theorem sequential_caches_match_reload_after_revocation :
    ∃ world : World, MatchesReload world.store ∧
      world.store.isRegisteredOrigin "https://acme.example" = false ∧
      (world.store.getTenant (sampleId 1).text).map TenantInfo.name = some "acme" := by
  obtain ⟨start, world, first, second, outcome⟩ :=
    World.exists_runs sampleHash sequential sequential
      [.restart (sampleInput 0 0).now (sampleInput 0 0)]
      (tenantSetup.tail ++ revokedOrigin)
      (fun _ world => decide world.calls.Quiescent && world.tasks.isEmpty &&
        decide (world.store.isRegisteredOrigin "https://acme.example" = false) &&
        decide ((world.store.getTenant (sampleId 1).text).map TenantInfo.name = some "acme"))
      (by decide +kernel)
  have opened := first.of_singleton
  obtain ⟨⟨⟨quiescent, settled⟩, unregistered⟩, named⟩ : ((_ ∧ _) ∧ _) ∧ _ := by
    simpa only [Bool.and_eq_true, decide_eq_true_eq, List.isEmpty_iff] using outcome
  exact ⟨world, sequential_caches_match_reload ⟨_, .nil World.blank⟩ opened second quiescent
    settled, unregistered, named⟩

end SpellServer
