import SpellServer.Library.Dict
import SpellServer.Store.Records

/-!
# The database schema

The tables of `init_schema` with the constraints SQLite and PostgreSQL enforce
on them, and the statements `store.rs` runs.  A `Database` carries its
constraints, so a statement that would break one has no result: that is the
`Err` the driver returns.  Integer columns are `BIGINT`, that is `i64`.
-/

namespace SpellServer

open Library

structure TenantRow where
  id : String
  name : String
  language : String
  quotaLimit : Int64
  requestCount : Int64
  periodStart : Option Int64
  periodEnd : Option Int64
  suspendedAt : Option Int64
  createdAt : Int64
deriving DecidableEq

structure OriginRow where
  id : String
  tenantId : String
  origin : String
  createdAt : Int64
deriving DecidableEq

/-- The `role` column is text under `CHECK (role IN ('platform', 'admin',
'standard'))`, which is the enumeration. -/
structure ApiKeyRow where
  id : String
  tenantId : Option String
  label : String
  role : Role
  keyHash : String
  createdAt : Int64
  expiresAt : Option Int64
  lastUsedAt : Option Int64
  revokedAt : Option Int64
deriving DecidableEq

structure DictionaryRow where
  code : String
  sourceUrl : String
  createdAt : Int64
deriving DecidableEq

/-- The columns of `UNIQUE(tenant_id, origin)`. -/
def OriginRow.owned (row : OriginRow) : String × String := (row.tenantId, row.origin)

structure Database where
  tenants : List TenantRow
  tenantOrigins : List OriginRow
  apiKeys : List ApiKeyRow
  dictionaries : List DictionaryRow
  tenants_id_unique : (tenants.map TenantRow.id).Nodup
  tenantOrigins_id_unique : (tenantOrigins.map OriginRow.id).Nodup
  tenantOrigins_owned_unique : (tenantOrigins.map OriginRow.owned).Nodup
  tenantOrigins_references :
    ∀ row ∈ tenantOrigins, row.tenantId ∈ tenants.map TenantRow.id
  apiKeys_id_unique : (apiKeys.map ApiKeyRow.id).Nodup
  apiKeys_keyHash_unique : (apiKeys.map ApiKeyRow.keyHash).Nodup
  apiKeys_references :
    ∀ row ∈ apiKeys, ∀ tenantId ∈ row.tenantId, tenantId ∈ tenants.map TenantRow.id
  dictionaries_code_unique : (dictionaries.map DictionaryRow.code).Nodup

namespace Database

/-- The database right after `init_schema` on an empty file. -/
def empty : Database :=
  { tenants := []
    tenantOrigins := []
    apiKeys := []
    dictionaries := []
    tenants_id_unique := List.nodup_nil
    tenantOrigins_id_unique := List.nodup_nil
    tenantOrigins_owned_unique := List.nodup_nil
    tenantOrigins_references := fun _ member => absurd member List.not_mem_nil
    apiKeys_id_unique := List.nodup_nil
    apiKeys_keyHash_unique := List.nodup_nil
    apiKeys_references := fun _ member => absurd member List.not_mem_nil
    dictionaries_code_unique := List.nodup_nil }

/-! ## Tenants -/

/-- `INSERT INTO tenants`. -/
def insertTenant (database : Database) (row : TenantRow) : Option Database :=
  if fresh : row.id ∉ database.tenants.map TenantRow.id then
    some
      { database with
        tenants := database.tenants ++ [row]
        tenants_id_unique := nodup_map_append_singleton database.tenants_id_unique fresh
        tenantOrigins_references := by
          intro origin member
          have old := database.tenantOrigins_references origin member
          simp only [List.map_append, List.mem_append]
          exact Or.inl old
        apiKeys_references := by
          intro apiKey member tenantId belongs
          have old := database.apiKeys_references apiKey member tenantId belongs
          simp only [List.map_append, List.mem_append]
          exact Or.inl old }
  else none

/-- `UPDATE tenants SET … WHERE id = ?` for columns other than the key. -/
def updateTenants (database : Database) (id : String) (change : TenantRow → TenantRow)
    (keeps : ∀ row, (change row).id = row.id) : Database :=
  have sameIds : (database.tenants.map fun row => if row.id = id then change row else row).map
      TenantRow.id = database.tenants.map TenantRow.id :=
    map_key_map fun row => by
      by_cases selected : row.id = id
      · simp [selected, keeps]
      · simp [selected]
  { database with
    tenants := database.tenants.map fun row => if row.id = id then change row else row
    tenants_id_unique := by
      rw [sameIds]
      exact database.tenants_id_unique
    tenantOrigins_references := by
      rw [sameIds]
      exact database.tenantOrigins_references
    apiKeys_references := by
      rw [sameIds]
      exact database.apiKeys_references }

/-- The full-row statement of `update_tenant`. -/
def updateTenant (database : Database) (id : String) (snapshot : TenantInfo) : Database :=
  database.updateTenants id
    (fun row =>
      { row with
        name := snapshot.name
        language := snapshot.language
        quotaLimit := snapshot.quotaLimit.toInt64
        requestCount := snapshot.requestCount.toInt64
        periodStart := snapshot.periodStart.map UInt64.toInt64
        periodEnd := snapshot.periodEnd.map UInt64.toInt64 })
    (fun _ => rfl)

/-- `UPDATE tenants SET request_count = ? WHERE id = ?`. -/
def updateRequestCount (database : Database) (id : String) (count : UInt64) : Database :=
  database.updateTenants id (fun row => { row with requestCount := count.toInt64 })
    (fun _ => rfl)

/-- `UPDATE tenants SET suspended_at = ? WHERE id = ?`. -/
def updateSuspendedAt (database : Database) (id : String) (suspendedAt : Option UInt64) :
    Database :=
  database.updateTenants id
    (fun row => { row with suspendedAt := suspendedAt.map UInt64.toInt64 })
    (fun _ => rfl)

/-! ## API keys -/

/-- `INSERT INTO api_keys`. -/
def insertApiKey (database : Database) (row : ApiKeyRow) : Option Database :=
  if fresh : row.id ∉ database.apiKeys.map ApiKeyRow.id ∧
      row.keyHash ∉ database.apiKeys.map ApiKeyRow.keyHash ∧
      ∀ tenantId ∈ row.tenantId, tenantId ∈ database.tenants.map TenantRow.id then
    some
      { database with
        apiKeys := database.apiKeys ++ [row]
        apiKeys_id_unique :=
          nodup_map_append_singleton database.apiKeys_id_unique fresh.1
        apiKeys_keyHash_unique :=
          nodup_map_append_singleton database.apiKeys_keyHash_unique fresh.2.1
        apiKeys_references := by
          intro apiKey member
          rcases List.mem_append.mp member with old | new
          · exact database.apiKeys_references apiKey old
          · cases List.mem_singleton.mp new
            exact fresh.2.2 }
  else none

/-- `UPDATE api_keys SET … WHERE id = ?` for columns without a constraint. -/
def updateApiKeys (database : Database) (id : String) (change : ApiKeyRow → ApiKeyRow)
    (keeps : ∀ row, (change row).id = row.id ∧ (change row).keyHash = row.keyHash ∧
      (change row).tenantId = row.tenantId) : Database :=
  { database with
    apiKeys := database.apiKeys.map fun row => if row.id = id then change row else row
    apiKeys_id_unique := by
      rw [map_key_map]
      · exact database.apiKeys_id_unique
      · intro row
        by_cases selected : row.id = id
        · simp [selected, keeps]
        · simp [selected]
    apiKeys_keyHash_unique := by
      rw [map_key_map]
      · exact database.apiKeys_keyHash_unique
      · intro row
        by_cases selected : row.id = id
        · simp [selected, keeps]
        · simp [selected]
    apiKeys_references := by
      intro apiKey member tenantId belongs
      obtain ⟨old, oldMember, rfl⟩ := List.mem_map.mp member
      apply database.apiKeys_references old oldMember
      by_cases selected : old.id = id
      · simpa [selected, keeps] using belongs
      · simpa [selected] using belongs }

/-- `UPDATE api_keys SET revoked_at = ? WHERE id = ? AND revoked_at IS NULL`. -/
def updateRevokedAt (database : Database) (id : String) (revokedAt : Int64) : Database :=
  database.updateApiKeys id
    (fun row => { row with revokedAt := row.revokedAt.or (some revokedAt) })
    (fun _ => ⟨rfl, rfl, rfl⟩)

/-- `UPDATE api_keys SET last_used_at = ? WHERE id = ?`. -/
def updateLastUsedAt (database : Database) (id : String) (lastUsedAt : Int64) : Database :=
  database.updateApiKeys id (fun row => { row with lastUsedAt := some lastUsedAt })
    (fun _ => ⟨rfl, rfl, rfl⟩)

private theorem nodup_map_of_unique_change {rows : List ApiKeyRow} {id newHash : String}
    (ids : (rows.map ApiKeyRow.id).Nodup) (hashes : (rows.map ApiKeyRow.keyHash).Nodup)
    (free : ∀ row ∈ rows, row.keyHash = newHash → row.id = id) :
    ((rows.map fun row =>
      if row.id = id then { row with keyHash := newHash, lastUsedAt := none } else row).map
        ApiKeyRow.keyHash).Nodup := by
  rw [List.map_map]
  refine List.Nodup.map_on ?_ (List.Nodup.of_map _ ids)
  intro first firstMember second secondMember same
  by_cases firstSelected : first.id = id
  · by_cases secondSelected : second.id = id
    · exact List.inj_on_of_nodup_map ids firstMember secondMember
        (firstSelected.trans secondSelected.symm)
    · simp only [Function.comp_apply, firstSelected, secondSelected, if_true, if_false] at same
      exact absurd (free second secondMember same.symm) secondSelected
  · by_cases secondSelected : second.id = id
    · simp only [Function.comp_apply, firstSelected, secondSelected, if_true, if_false] at same
      exact absurd (free first firstMember same) firstSelected
    · simp only [Function.comp_apply, firstSelected, secondSelected, if_false] at same
      exact List.inj_on_of_nodup_map hashes firstMember secondMember same

/-- `UPDATE api_keys SET key_hash = ?, last_used_at = NULL WHERE id = ?`, which
`UNIQUE` refuses when another key has the hash. -/
def updateKeyHash (database : Database) (id newHash : String) : Option Database :=
  if free : ∀ row ∈ database.apiKeys, row.keyHash = newHash → row.id = id then
    some
      { database with
        apiKeys := database.apiKeys.map fun row =>
          if row.id = id then { row with keyHash := newHash, lastUsedAt := none } else row
        apiKeys_id_unique := by
          rw [map_key_map]
          · exact database.apiKeys_id_unique
          · intro row
            by_cases selected : row.id = id <;> simp [selected]
        apiKeys_keyHash_unique :=
          nodup_map_of_unique_change database.apiKeys_id_unique
            database.apiKeys_keyHash_unique free
        apiKeys_references := by
          intro apiKey member tenantId belongs
          obtain ⟨old, oldMember, rfl⟩ := List.mem_map.mp member
          apply database.apiKeys_references old oldMember
          by_cases selected : old.id = id
          · simpa [selected] using belongs
          · simpa [selected] using belongs }
  else none

/-- `SELECT … FROM api_keys WHERE key_hash = ?`. -/
def selectApiKey (database : Database) (keyHash : String) : Option ApiKeyRow :=
  findBy ApiKeyRow.keyHash keyHash database.apiKeys

/-! ## Origins and dictionaries -/

/-- `INSERT INTO tenant_origins`. -/
def insertOrigin (database : Database) (row : OriginRow) : Option Database :=
  if fresh : row.id ∉ database.tenantOrigins.map OriginRow.id ∧
      row.owned ∉ database.tenantOrigins.map OriginRow.owned ∧
      row.tenantId ∈ database.tenants.map TenantRow.id then
    some
      { database with
        tenantOrigins := database.tenantOrigins ++ [row]
        tenantOrigins_id_unique :=
          nodup_map_append_singleton database.tenantOrigins_id_unique fresh.1
        tenantOrigins_owned_unique :=
          nodup_map_append_singleton database.tenantOrigins_owned_unique fresh.2.1
        tenantOrigins_references := by
          intro origin member
          rcases List.mem_append.mp member with old | new
          · exact database.tenantOrigins_references origin old
          · cases List.mem_singleton.mp new
            exact fresh.2.2 }
  else none

/-- `SELECT origin FROM tenant_origins WHERE id = ? AND tenant_id = ?`. -/
def selectOrigin (database : Database) (id tenantId : String) : Option String :=
  (database.tenantOrigins.find? fun row => row.id = id ∧ row.tenantId = tenantId).map
    OriginRow.origin

/-- `DELETE FROM tenant_origins WHERE id = ?`. -/
def deleteOrigin (database : Database) (id : String) : Database :=
  { database with
    tenantOrigins := database.tenantOrigins.filter fun row => row.id ≠ id
    tenantOrigins_id_unique :=
      database.tenantOrigins_id_unique.sublist (List.filter_sublist.map _)
    tenantOrigins_owned_unique :=
      database.tenantOrigins_owned_unique.sublist (List.filter_sublist.map _)
    tenantOrigins_references := fun row member =>
      database.tenantOrigins_references row (List.mem_of_mem_filter member) }

/-- `INSERT INTO dictionaries … ON CONFLICT (code) DO UPDATE SET source_url =
excluded.source_url`. -/
def upsertDictionary (database : Database) (row : DictionaryRow) : Database :=
  if known : row.code ∈ database.dictionaries.map DictionaryRow.code then
    { database with
      dictionaries := database.dictionaries.map fun old =>
        if old.code = row.code then { old with sourceUrl := row.sourceUrl } else old
      dictionaries_code_unique := by
        rw [map_key_map]
        · exact database.dictionaries_code_unique
        · intro old
          by_cases selected : old.code = row.code <;> simp [selected] }
  else
    { database with
      dictionaries := database.dictionaries ++ [row]
      dictionaries_code_unique :=
        nodup_map_append_singleton database.dictionaries_code_unique known }

/-- `SELECT code, source_url, created_at FROM dictionaries WHERE code = ?`. -/
def selectDictionary (database : Database) (code : String) : Option DictionaryRow :=
  findBy DictionaryRow.code code database.dictionaries

end Database

end SpellServer
