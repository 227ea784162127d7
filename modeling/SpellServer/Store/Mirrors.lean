import SpellServer.Library.Mirror
import SpellServer.Store.KeyMoves

/-!
# Caches that mirror their tables

What it means for one cache to hold what `reload_caches` would read from its
table, and how the changes that operations make to both sides keep it so.  The
numbers that clients supply are compared with their columns: what the driver reads
back may be another number.
-/

namespace SpellServer

open Library

variable [Driver]

def KeyRecord.withoutExpiry (record : KeyRecord) : KeyRecord :=
  { record with expiresAt := none }

def TenantInfo.withoutNumbers (info : TenantInfo) : TenantInfo :=
  { info with quotaLimit := 0, requestCount := 0, periodStart := none, periodEnd := none }

/-! ## What the program writes into its tables -/

/-- What every run leaves in the tables, even one that was cut short. -/
structure Database.Written (pool : Database) : Prop where
  tenantIds : ∀ row ∈ pool.tenants, row.id ≠ ""
  revoked : ∀ row ∈ pool.apiKeys, row.revokedAt.isSome = true →
    (readNullable row.revokedAt).isSome = true

namespace Database.Written

variable {pool later : Database}

theorem of_same (written : pool.Written) (tenants : later.tenants = pool.tenants)
    (apiKeys : later.apiKeys = pool.apiKeys) : later.Written := by
  constructor
  · rw [tenants]
    exact written.tenantIds
  · rw [apiKeys]
    exact written.revoked

theorem insertTenant {row : TenantRow} (written : pool.Written)
    (inserted : pool.insertTenant row = some later) (named : row.id ≠ "") : later.Written := by
  obtain ⟨_, tenants, _, apiKeys, _⟩ := Database.insertTenant_eq_some inserted
  constructor
  · intro other member
    rw [tenants, List.mem_append, List.mem_singleton] at member
    rcases member with old | rfl
    · exact written.tenantIds other old
    · exact named
  · rw [apiKeys]
    exact written.revoked

theorem updateTenants {id : String} {change : TenantRow → TenantRow}
    (written : pool.Written) (keeps : ∀ row, (change row).id = row.id) :
    (pool.updateTenants id change keeps).Written := by
  constructor
  · intro row member
    obtain ⟨old, oldMember, rfl⟩ := List.mem_map.mp member
    split
    · rw [keeps]
      exact written.tenantIds old oldMember
    · exact written.tenantIds old oldMember
  · exact written.revoked

theorem insertApiKey {row : ApiKeyRow} (written : pool.Written)
    (inserted : pool.insertApiKey row = some later) (unrevoked : row.revokedAt = none) :
    later.Written := by
  obtain ⟨_, _, tenants, _⟩ := Database.insertApiKey_eq_some inserted
  constructor
  · rw [tenants]
    exact written.tenantIds
  · apply Database.forall_insertApiKey written.revoked inserted
    intro stamped
    rw [unrevoked] at stamped
    cases stamped

theorem updateRevokedAt (written : pool.Written) (id : String) (now : Clock) :
    (pool.updateRevokedAt id now.seconds.toInt64).Written := by
  refine ⟨written.tenantIds, Database.forall_changeApiKeys written.revoked rfl ?_⟩
  intro old read _
  cases before : old.revokedAt with
  | none => simp
  | some stamp =>
      rw [before] at read
      exact read rfl

theorem updateLastUsedAt (written : pool.Written) (id : String) (lastUsedAt : Int64) :
    (pool.updateLastUsedAt id lastUsedAt).Written :=
  ⟨written.tenantIds, Database.forall_changeApiKeys written.revoked rfl fun _ read => read⟩

theorem updateKeyHash {id newHash : String} (written : pool.Written)
    (updated : pool.updateKeyHash id newHash = some later) : later.Written := by
  obtain ⟨_, apiKeys, tenants, _⟩ := Database.updateKeyHash_eq_some updated
  constructor
  · rw [tenants]
    exact written.tenantIds
  · exact Database.forall_changeApiKeys written.revoked apiKeys fun _ read => read

theorem task (written : pool.Written) (task : Task) : (task.run pool).Written := by
  cases task with
  | lastUsedAt id nowTs => exact written.updateLastUsedAt id _
  | requestCount tenantId newCount =>
      apply written.updateTenants
      intro row
      rfl

theorem keyFrame {hashKey : String → String} {input : Input} {store : Store}
    (written : store.pool.Written) (frame : KeyFrame) :
    (frame.exec hashKey input store).store.pool.Written := by
  have writes : frame.Writes hashKey input store.pool (frame.exec hashKey input store).store.pool :=
    frame.exec_writes
  generalize (frame.exec hashKey input store).store.pool = later at writes ⊢
  cases writes with
  | nothing => exact written
  | inserts inserted => exact written.insertApiKey inserted rfl
  | revokes id keyHash => exact written.updateRevokedAt id input.now
  | rekeys updated => exact written.updateKeyHash updated

theorem tenantFrame {input : Input} {store : Store} (written : store.pool.Written)
    (frame : TenantFrame) : (frame.exec input store).store.pool.Written := by
  cases frame with
  | createInsert name language quotaLimit periodStart periodEnd =>
      simp only [TenantFrame.exec]
      split
      · exact written
      · rename_i pool executed
        exact written.insertTenant (Input.execute_eq_some.mp executed).2 input.newId.nonempty
  | updateWrite id snapshot | suspendWrite id suspended =>
      simp only [TenantFrame.exec]
      split
      · exact written
      · rename_i pool executed
        cases (Input.execute_eq_some.mp executed).2
        apply written.updateTenants
        intro row
        rfl
  | _ =>
      simp only [TenantFrame.exec]
      (repeat' split) <;> exact written

theorem exec {hashKey : String → String} {input : Input} {store : Store}
    (written : store.pool.Written) (frame : Frame) :
    (frame.exec hashKey input store).store.pool.Written := by
  cases frame with
  | key frame => exact written.keyFrame frame
  | tenant frame => exact written.tenantFrame frame
  | origin frame =>
      have others := frame.exec_local input store
      exact written.of_same others.tenants.rows others.keys.apiKeys
  | dictionary frame =>
      have others := frame.exec_local input store
      exact written.of_same others.tenants.rows others.keys.apiKeys

theorem reopened {hashKey : String → String} {now : Clock} {input : Input} {opened : Opened}
    (written : pool.Written) (success : Store.open hashKey now input pool = some opened) :
    opened.store.pool.Written := by
  rcases Store.open_cases success with rfl | ⟨inserted, accepted, rfl⟩
  · exact written
  · exact written.insertApiKey accepted rfl

theorem step {hashKey : String → String} {world next : World} {event : Event}
    (written : world.store.pool.Written) (taken : world.step hashKey event = some next) :
    next.store.pool.Written := by
  rcases World.step_cases taken with ⟨_, _, _, _, rfl⟩ | ⟨ticket, input, frame, _, _, _, rfl⟩ |
    ⟨position, succeeds, task, _, _, rfl⟩ | ⟨now, input, opened, _, _, success, rfl⟩
  · exact written
  · exact written.exec frame
  · cases succeeds with
    | true => exact written.task task
    | false => exact written
  · exact written.reopened success

theorem empty : Database.empty.Written :=
  ⟨fun _ member => absurd member List.not_mem_nil, fun _ member => absurd member List.not_mem_nil⟩

/-- An empty text in the column would read as an absent tenant. -/
theorem tenantId_loaded (written : pool.Written) {row : ApiKeyRow} (member : row ∈ pool.apiKeys) :
    (keyRecordFromRow row).tenantId = row.tenantId := by
  cases column : row.tenantId with
  | none => simp [keyRecordFromRow, column]
  | some tenantId =>
      have known := pool.apiKeys_references row member tenantId column
      obtain ⟨tenant, tenantMember, rfl⟩ := List.mem_map.mp known
      have named := written.tenantIds tenant tenantMember
      simp [keyRecordFromRow, column, named]

end Database.Written

/-- Whatever the schedule was, and wherever the process stopped. -/
theorem World.reachable_written {hashKey : String → String} {world : World}
    (reached : Reachable hashKey world) : world.store.pool.Written := by
  obtain ⟨events, run⟩ := reached
  have preserved : ∀ before event after, before.store.pool.Written → True →
      step hashKey before event = some after → after.store.pool.Written := by
    intro before event after written _ taken
    exact written.step taken
  exact run.invariant preserved Database.Written.empty

/-! ## Keys -/

/-- The expiry comes from a client and may not survive its column. -/
structure ApiKeyRow.Mirrors (row : ApiKeyRow) (record : KeyRecord) : Prop where
  lasting : record.withoutExpiry = (keyRecordFromRow row).withoutExpiry
  expiry : ColumnMirrors row.expiresAt record.expiresAt

namespace ApiKeyRow.Mirrors

variable {row : ApiKeyRow} {record : KeyRecord}

theorem loaded (row : ApiKeyRow) : row.Mirrors (keyRecordFromRow row) :=
  ⟨rfl, Or.inr rfl⟩

theorem id (mirrors : row.Mirrors record) : record.id = row.id :=
  congrArg KeyRecord.id mirrors.lasting

theorem keyHash (mirrors : row.Mirrors record) : record.keyHash = row.keyHash :=
  congrArg KeyRecord.keyHash mirrors.lasting

theorem tenantId (mirrors : row.Mirrors record) :
    record.tenantId = (keyRecordFromRow row).tenantId := by
  have same := congrArg KeyRecord.tenantId mirrors.lasting
  exact same

theorem revokedAt (mirrors : row.Mirrors record) :
    record.revokedAt = readNullable row.revokedAt := by
  have same := congrArg KeyRecord.revokedAt mirrors.lasting
  exact same

end ApiKeyRow.Mirrors

abbrev KeysMirrored (rows : List ApiKeyRow) (keys : Dict String KeyRecord) : Prop :=
  Mirrors ApiKeyRow.keyHash ApiKeyRow.Mirrors rows keys

namespace KeysMirrored

variable {rows : List ApiKeyRow} {keys : Dict String KeyRecord} {id hash : String}

/-- The row of an id is the one under the hash of its entry. -/
theorem selects {record : KeyRecord} (mirrored : KeysMirrored rows keys)
    (ids : (rows.map ApiKeyRow.id).Nodup) (hashes : (rows.map ApiKeyRow.keyHash).Nodup)
    (stored : keys.lookup hash = some record) (sameId : record.id = id) :
    ∀ row ∈ rows, row.id = id ↔ row.keyHash = hash := by
  obtain ⟨mine, mineMember, mineHash, mirrors⟩ := mirrored.row_of stored
  have mineId : mine.id = id := mirrors.id.symm.trans sameId
  intro row member
  constructor
  · intro same
    rw [List.inj_on_of_nodup_map ids member mineMember (same.trans mineId.symm), mineHash]
  · intro same
    rw [List.inj_on_of_nodup_map hashes member mineMember (same.trans mineHash.symm), mineId]

/-- An id without an entry has no row. -/
theorem unknown (mirrored : KeysMirrored rows keys)
    (hashes : (rows.map ApiKeyRow.keyHash).Nodup)
    (absent : ∀ hash record, keys.lookup hash = some record → record.id ≠ id) :
    ∀ row ∈ rows, row.id ≠ id := by
  intro row member same
  obtain ⟨record, found⟩ := Option.isSome_iff_exists.mp (mirrored.entry_of row member)
  obtain ⟨source, sourceMember, filed, mirrors⟩ := mirrored.row_of found
  have equal : source = row := List.inj_on_of_nodup_map hashes sourceMember member filed
  exact absent _ record found (mirrors.id.trans (equal ▸ same))

end KeysMirrored

/-- A key as it is inserted and cached. -/
theorem newApiKeyRow_mirrors (hashKey : String → String) (input : Input)
    {tenantId : Option String} (label : String) (role : Role) (expiresAt : Option UInt64)
    (named : tenantId ≠ some "") :
    (newApiKeyRow (newApiKey hashKey input tenantId label role expiresAt).record).Mirrors
      (newApiKey hashKey input tenantId label role expiresAt).record := by
  refine ⟨?_, Or.inl rfl⟩
  cases tenantId with
  | none => simp [KeyRecord.withoutExpiry, keyRecordFromRow, newApiKeyRow, newApiKey]
  | some tenantId =>
      have named : tenantId ≠ "" := by simpa using named
      simp [KeyRecord.withoutExpiry, keyRecordFromRow, newApiKeyRow, newApiKey, named]

namespace ApiKeyRow.Mirrors

variable {row : ApiKeyRow} {record : KeyRecord}

theorem revoke (mirrors : row.Mirrors record)
    (readable : row.revokedAt.isSome = true → (readNullable row.revokedAt).isSome = true)
    (now : Clock) :
    ({ row with revokedAt := row.revokedAt.or (some now.seconds.toInt64) } : ApiKeyRow).Mirrors
      (record.revoke now.seconds) := by
  have merged : readNullable (row.revokedAt.or (some now.seconds.toInt64)) =
      record.revokedAt.or (some now.seconds) := by
    rw [mirrors.revokedAt]
    cases column : row.revokedAt with
    | none => simp
    | some value =>
        rw [column] at readable
        obtain ⟨read, same⟩ := Option.isSome_iff_exists.mp (readable rfl)
        simp [same]
  refine ⟨?_, mirrors.expiry⟩
  have lasting := mirrors.lasting
  simp only [KeyRecord.withoutExpiry, keyRecordFromRow, KeyRecord.revoke, KeyRecord.mk.injEq,
    merged] at lasting ⊢
  simp [lasting]

theorem touch (mirrors : row.Mirrors record) (nowTs : Clock) :
    ({ row with lastUsedAt := some nowTs.seconds.toInt64 } : ApiKeyRow).Mirrors
      (record.touch nowTs.seconds) := by
  refine ⟨?_, mirrors.expiry⟩
  have lasting := mirrors.lasting
  simp only [KeyRecord.withoutExpiry, keyRecordFromRow, KeyRecord.touch, KeyRecord.mk.injEq,
    readNullable_clock] at lasting ⊢
  simp [lasting]

theorem rekey (mirrors : row.Mirrors record) (newHash : String) :
    ({ row with keyHash := newHash, lastUsedAt := none } : ApiKeyRow).Mirrors
      (record.rekey newHash) := by
  refine ⟨?_, mirrors.expiry⟩
  have lasting := mirrors.lasting
  simp only [KeyRecord.withoutExpiry, keyRecordFromRow, KeyRecord.rekey, KeyRecord.mk.injEq,
    readNullable_none] at lasting ⊢
  simp [lasting]

end ApiKeyRow.Mirrors

/-! ## Tenants and dictionaries -/

/-- The counters may not survive their columns; the period is left out. -/
structure TenantRow.Describes (row : TenantRow) (info : TenantInfo) : Prop where
  lasting : info.withoutNumbers = (tenantInfoFromRow row).withoutNumbers
  quotaLimit : WordMirrors row.quotaLimit info.quotaLimit
  requestCount : WordMirrors row.requestCount info.requestCount

abbrev TenantsMirrored (rows : List TenantRow) (tenants : Dict String TenantInfo) : Prop :=
  Mirrors TenantRow.id TenantRow.Describes rows tenants

abbrev DictionariesMirrored (rows : List DictionaryRow)
    (dictionaries : Dict String DictionaryInfo) : Prop :=
  Mirrors DictionaryRow.code (fun row info => info = dictionaryInfoFromRow row) rows dictionaries

theorem newTenantRow_describes (input : Input) (name : String) (language : Option String)
    (quotaLimit periodStart periodEnd : Option UInt64) :
    (newTenantRow (newTenant input name language quotaLimit periodStart periodEnd)).Describes
      (newTenant input name language quotaLimit periodStart periodEnd) := by
  refine ⟨?_, Or.inl rfl, Or.inl rfl⟩
  simp [TenantInfo.withoutNumbers, tenantInfoFromRow, newTenantRow, newTenant]

namespace TenantRow.Describes

variable {row : TenantRow} {info : TenantInfo}

theorem loaded (row : TenantRow) : row.Describes (tenantInfoFromRow row) :=
  ⟨rfl, Or.inr rfl, Or.inr rfl⟩

theorem id (describes : row.Describes info) : info.id = row.id :=
  congrArg TenantInfo.id describes.lasting

/-- The full-row statement writes all a patch can change. -/
theorem patch (describes : row.Describes info) (patch : TenantPatch) :
    ({ row with
        name := (patch.apply info).name
        language := (patch.apply info).language
        quotaLimit := (patch.apply info).quotaLimit.toInt64
        requestCount := (patch.apply info).requestCount.toInt64
        periodStart := (patch.apply info).periodStart.map UInt64.toInt64
        periodEnd := (patch.apply info).periodEnd.map UInt64.toInt64 } : TenantRow).Describes
      (patch.apply info) := by
  refine ⟨?_, Or.inl rfl, Or.inl rfl⟩
  have lasting := describes.lasting
  simp only [TenantInfo.withoutNumbers, tenantInfoFromRow, TenantInfo.mk.injEq] at lasting ⊢
  simp [lasting, TenantPatch.apply]

theorem suspend (describes : row.Describes info) (suspendedAt : Option Clock) :
    ({ row with suspendedAt := (suspendedAt.map Clock.seconds).map UInt64.toInt64 } :
      TenantRow).Describes { info with suspendedAt := suspendedAt.map Clock.seconds } := by
  refine ⟨?_, describes.quotaLimit, describes.requestCount⟩
  have lasting := describes.lasting
  simp only [TenantInfo.withoutNumbers, tenantInfoFromRow, TenantInfo.mk.injEq] at lasting ⊢
  cases suspendedAt <;> simp [lasting]

theorem consume (describes : row.Describes info) :
    ({ row with requestCount := info.consume.requestCount.toInt64 } : TenantRow).Describes
      info.consume := by
  refine ⟨?_, describes.quotaLimit, Or.inl rfl⟩
  have lasting := describes.lasting
  simp only [TenantInfo.withoutNumbers, tenantInfoFromRow, TenantInfo.mk.injEq,
    TenantInfo.consume] at lasting ⊢
  simp [lasting]

end TenantRow.Describes

/-! ## Origins -/

structure OriginsMirrored (rows : List OriginRow) (originsAny : Finset String)
    (originsByTenant : Dict String (Dict String OriginInfo)) : Prop where
  any : ∀ origin, origin ∈ originsAny ↔ ∃ row ∈ rows, row.origin = origin
  byTenant : ∀ tenantId origin, originOf originsByTenant tenantId origin =
    (findBy OriginRow.owned (tenantId, origin) rows).map originInfoFromRow

theorem exists_owner_iff {rows : List OriginRow}
    {originsByTenant : Dict String (Dict String OriginInfo)}
    (byTenant : ∀ tenantId origin, originOf originsByTenant tenantId origin =
      (findBy OriginRow.owned (tenantId, origin) rows).map originInfoFromRow) (origin : String) :
    (∃ tenantId, (originOf originsByTenant tenantId origin).isSome = true) ↔
      ∃ row ∈ rows, row.origin = origin := by
  constructor
  · intro ⟨tenantId, owned⟩
    rw [byTenant, Option.isSome_map] at owned
    obtain ⟨row, found⟩ := Option.isSome_iff_exists.mp owned
    obtain ⟨member, same⟩ := findBy_mem found
    exact ⟨row, member, congrArg Prod.snd same⟩
  · intro ⟨row, member, sameOrigin⟩
    refine ⟨row.tenantId, ?_⟩
    rw [byTenant, Option.isSome_map]
    cases found : findBy OriginRow.owned (row.tenantId, origin) rows with
    | some _ => rfl
    | none =>
        have absent := findBy_eq_none_iff.mp found
        exact absurd (List.mem_map.mpr ⟨row, member, by rw [OriginRow.owned, sameOrigin]⟩) absent

namespace OriginsMirrored

variable {rows : List OriginRow} {originsAny : Finset String}
  {originsByTenant : Dict String (Dict String OriginInfo)}

theorem reload (pool : Database) :
    OriginsMirrored pool.tenantOrigins (Store.reload pool).originsAny
      (Store.reload pool).originsByTenant :=
  ⟨Store.mem_reload_originsAny pool, Store.reload_originOf pool⟩

/-- The union set holds what some tenant owns. -/
theorem union (mirrored : OriginsMirrored rows originsAny originsByTenant) (origin : String) :
    origin ∈ originsAny ↔
      ∃ tenantId, (originOf originsByTenant tenantId origin).isSome = true :=
  (mirrored.any origin).trans (exists_owner_iff mirrored.byTenant origin).symm

theorem insert {info : OriginInfo}
    (mirrored : OriginsMirrored rows originsAny originsByTenant)
    (stamped : readWord info.createdAt.toInt64 = info.createdAt)
    (fresh : (newOriginRow info).owned ∉ rows.map OriginRow.owned) :
    OriginsMirrored (rows ++ [newOriginRow info]) (Insert.insert info.origin originsAny)
      (insertOriginInfo originsByTenant info) := by
  constructor
  · intro origin
    rw [Finset.mem_insert, mirrored.any]
    constructor
    · intro known
      rcases known with rfl | ⟨row, member, same⟩
      · exact ⟨newOriginRow info, List.mem_append_right _ (List.mem_singleton.mpr rfl), rfl⟩
      · exact ⟨row, List.mem_append_left _ member, same⟩
    · intro ⟨row, member, same⟩
      rw [List.mem_append, List.mem_singleton] at member
      rcases member with old | rfl
      · exact Or.inr ⟨row, old, same⟩
      · exact Or.inl same.symm
  · intro tenantId origin
    rw [originOf_insertOriginInfo, findBy_append_singleton (newOriginRow info) fresh,
      mirrored.byTenant]
    have owned : (newOriginRow info).owned = (info.tenantId, info.origin) := rfl
    rw [owned]
    split
    · simp [originInfoFromRow, newOriginRow, stamped]
    · rfl

theorem remove {row : OriginRow}
    (mirrored : OriginsMirrored rows originsAny originsByTenant)
    (ids : (rows.map OriginRow.id).Nodup) (owners : (rows.map OriginRow.owned).Nodup)
    (member : row ∈ rows) :
    OriginsMirrored (rows.filter fun other => other.id ≠ row.id)
      (if stillOwned (removeOriginInfo originsByTenant row.tenantId row.origin) row.origin then
        originsAny
      else originsAny.erase row.origin)
      (removeOriginInfo originsByTenant row.tenantId row.origin) := by
  have stays : ∀ other ∈ rows, decide (other.id ≠ row.id) = decide (other.owned ≠ row.owned) := by
    intro other otherMember
    refine decide_eq_decide.mpr (not_congr ⟨?_, ?_⟩)
    · intro same
      exact congrArg OriginRow.owned (List.inj_on_of_nodup_map ids otherMember member same)
    · intro same
      exact congrArg OriginRow.id (List.inj_on_of_nodup_map owners otherMember member same)
  have byTenant : ∀ tenantId origin,
      originOf (removeOriginInfo originsByTenant row.tenantId row.origin) tenantId origin =
        (findBy OriginRow.owned (tenantId, origin)
          (rows.filter fun other => other.id ≠ row.id)).map originInfoFromRow := by
    intro tenantId origin
    rw [originOf_removeOriginInfo, mirrored.byTenant, List.filter_congr stays,
      findBy_filter_ne]
    have owned : row.owned = (row.tenantId, row.origin) := rfl
    rw [owned]
    split <;> rfl
  refine ⟨?_, byTenant⟩
  intro origin
  rw [← exists_owner_iff byTenant]
  by_cases same : origin = row.origin
  · subst origin
    rw [← stillOwned_iff]
    split
    · rename_i owned
      simp only [owned, iff_true]
      exact (mirrored.any row.origin).mpr ⟨row, member, rfl⟩
    · rename_i free
      simp [free]
  · -- Rows of another origin are all kept.
    have unchanged : ∀ tenantId,
        originOf (removeOriginInfo originsByTenant row.tenantId row.origin) tenantId origin =
          originOf originsByTenant tenantId origin := by
      intro tenantId
      rw [originOf_removeOriginInfo, if_neg]
      intro pair
      exact same (congrArg Prod.snd pair)
    simp only [unchanged]
    rw [← mirrored.union]
    split
    · rfl
    · simp [same]

end OriginsMirrored

end SpellServer
