import SpellServer.Store.Calls

/-!
# Key operations

The actions of `create_key_internal`, `revoke_key`, `rotate_key`,
`reset_bootstrap_platform_key`, `rotate_key_by_hash`, `authenticate` and
`touch_last_used`.  `hashKey` is `hash_key`, the SHA-256 digest of the raw key.
-/

namespace SpellServer

open Library

/-- The value a public function builds from the key it awaited. -/
def Caller.result : Caller → CreatedApiKey → Result
  | .createKey, created => .createdKey created
  | .rotateKey, created => .rotatedKey (some created)
  | .resetBootstrapPlatformKey, created => .resetKey created
  | .createTenant info, created => .createdTenant info created

/-- The record and raw value `create_key_internal` generates. -/
def newApiKey [Driver] (hashKey : String → String) (input : Input) (tenantId : Option String)
    (label : String) (role : Role) (expiresAt : Option UInt64) : CreatedApiKey :=
  { record :=
      { id := input.newId.text
        tenantId
        label
        role
        keyHash := hashKey input.rawKey
        createdAt := input.now.seconds
        expiresAt
        lastUsedAt := none
        revokedAt := none }
    rawKey := input.rawKey }

/-- The values bound by `INSERT INTO api_keys`. -/
def newApiKeyRow (record : KeyRecord) : ApiKeyRow :=
  { id := record.id
    tenantId := record.tenantId
    label := record.label
    role := record.role
    keyHash := record.keyHash
    createdAt := record.createdAt.toInt64
    expiresAt := record.expiresAt.map UInt64.toInt64
    lastUsedAt := none
    revokedAt := none }

def ownedBy (tenantId id : String) (record : KeyRecord) : Bool :=
  record.id = id && record.tenantId = some tenantId

theorem ownedBy_iff {tenantId id : String} {record : KeyRecord} :
    ownedBy tenantId id record = true ↔ record.id = id ∧ record.tenantId = some tenantId := by
  simp [ownedBy]

def isBootstrap (now : UInt64) (record : KeyRecord) : Bool :=
  record.role = .platform && record.label = "bootstrap" && record.tenantId.isNone &&
    record.isActive now

/-- A first revocation is recorded, a later one is not. -/
def KeyRecord.revoke (revokedAt : UInt64) (record : KeyRecord) : KeyRecord :=
  { record with revokedAt := record.revokedAt.or (some revokedAt) }

def KeyRecord.touch (nowTs : UInt64) (record : KeyRecord) : KeyRecord :=
  { record with lastUsedAt := some nowTs }

def KeyRecord.rekey (newHash : String) (record : KeyRecord) : KeyRecord :=
  { record with keyHash := newHash, lastUsedAt := none }

namespace KeyFrame

/-- Enter a critical section on the `keys` lock. -/
def withKeys [Driver] (store : Store) (body : Outcome) : Outcome :=
  if store.keysPoisoned then .finish store .panicked else body

theorem withKeys_healthy [Driver] {store : Store} (healthy : store.keysPoisoned = false)
    (body : Outcome) : withKeys store body = body := by
  simp [withKeys, healthy]

def exec [Driver] (hashKey : String → String) (input : Input) (store : Store) : KeyFrame → Outcome
  | .createInsert tenantId label role expiresAt caller =>
      let created := newApiKey hashKey input tenantId label role expiresAt
      match input.execute (store.pool.insertApiKey (newApiKeyRow created.record)) with
      | none => .finish store .err
      | some pool =>
          { store := { store with pool }
            next := .running (.key (.createCache created caller))
            spawned := []
            issued := [(created.record.id, created.rawKey)] }
  | .createCache created caller =>
      withKeys store <|
        .finish
          { store with keys := store.keys.insert created.record.keyHash created.record }
          (caller.result created)
  | .revokeFind tenantId id =>
      withKeys store <|
        match store.keys.findEntry (ownedBy tenantId id) input.hint with
        | some (_, record) => .goto store (.key (.revokeUpdate id record.keyHash))
        | none => .finish store (.revokedKey false)
  | .revokeUpdate id keyHash =>
      match input.execute (some (store.pool.updateRevokedAt id input.now.seconds.toInt64)) with
      | none => .finish store .err
      | some pool => .goto { store with pool } (.key (.revokeMark id keyHash input.now))
  | .revokeMark _ keyHash revokedAt =>
      withKeys store <|
        .finish
          { store with keys := store.keys.modify keyHash (KeyRecord.revoke revokedAt.seconds) }
          (.revokedKey true)
  | .rotateFind tenantId id =>
      withKeys store <|
        match store.keys.findEntry (ownedBy tenantId id) input.hint with
        | some (_, record) => .goto store (.key (.rotateUpdate record.keyHash id .rotateKey))
        | none => .finish store (.rotatedKey none)
  | .rotateUpdate oldHash id caller =>
      let newHash := hashKey input.rawKey
      match input.execute (store.pool.updateKeyHash id newHash) with
      | none => .finish store .err
      | some pool =>
          { store := { store with pool }
            next := .running (.key (.rotateRekey oldHash newHash input.rawKey id caller))
            spawned := []
            issued := [(id, input.rawKey)] }
  | .rotateRekey oldHash newHash rawKey _ caller =>
      withKeys store <|
        match store.keys.lookup oldHash with
        | none => .finish { store with keysPoisoned := true } .panicked
        | some old =>
            let record := old.rekey newHash
            .finish
              { store with keys := AList.insert newHash record (store.keys.erase oldHash) }
              (caller.result { record, rawKey })
  | .resetFind =>
      withKeys store <|
        match store.keys.values.filter (isBootstrap input.now.seconds) with
        | [] =>
            .goto store
              (.key (.createInsert none "bootstrap" .platform none .resetBootstrapPlatformKey))
        | [record] =>
            .goto store
              (.key (.rotateUpdate record.keyHash record.id .resetBootstrapPlatformKey))
        | _ => .finish store .err
  | .authLookup rawKey =>
      let hash := hashKey rawKey
      withKeys store <|
        match (store.keys.lookup hash).filter (KeyRecord.isActive · input.now.seconds) with
        | some record => .finish store (.authenticated (some record))
        | none => .goto store (.key (.authLoad hash input.now))
  | .authLoad hash now =>
      match input.execute (store.pool.selectApiKey hash) with
      | none => .finish store (.authenticated none)
      | some row =>
          let record := keyRecordFromRow row
          if record.isActive now.seconds then .goto store (.key (.authStore hash record))
          else .finish store (.authenticated none)
  | .authStore hash record =>
      withKeys store <|
        .finish
          { store with
            keys := AList.insert hash record
              (store.keys.retain fun _ other => other.id ≠ record.id) }
          (.authenticated (some record))
  | .touchFind id =>
      withKeys store <|
        match store.keys.findEntry (fun record => record.id = id) input.hint with
        | some (_, record) => .goto store (.key (.touchMark id record.keyHash input.now))
        | none =>
            { store
              next := .returned .touched
              spawned := [.lastUsedAt id input.now]
              issued := [] }
  | .touchMark id keyHash nowTs =>
      withKeys store
        { store :=
            { store with keys := store.keys.modify keyHash (KeyRecord.touch nowTs.seconds) }
          next := .returned .touched
          spawned := [.lastUsedAt id nowTs]
          issued := [] }

end KeyFrame

end SpellServer
