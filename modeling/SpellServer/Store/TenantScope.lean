import SpellServer.Library.Solo
import SpellServer.Store.KeyOwnership
import SpellServer.Store.KeyTenants
import SpellServer.Store.OriginRaces
import SpellServer.Store.Sequential
import SpellServer.Store.TenantPresence

/-!
# What an operation for one tenant leaves alone

An operation for a tenant is carried to its end on a store of some run, whatever
calls are suspended there.  `World.UnchangedFor` lists what belongs to another
tenant; the frame condition says that all of it stays as it was, with one
exception about the union set of origins.
-/

namespace SpellServer

open Library

/-! ## The operations -/

namespace Store

/-- `none` is the panic of a poisoned lock. -/
def listKeys (store : Store) (tenantId : String) : Option (List KeyRecord) :=
  if store.keysPoisoned then none
  else some (store.keys.values.filter fun record => record.tenantId = some tenantId)

def listOrigins (store : Store) (tenantId : String) : List OriginInfo :=
  ((store.originsByTenant.lookup tenantId).map Dict.values).getD []

end Store

inductive TenantOp where
  | listKeys
  | createKey (label : String) (role : Role) (expiresAt : Option UInt64)
  | revokeKey (id : String)
  | rotateKey (id : String)
  | listOrigins
  | registerOrigin (origin : String)
  | revokeOrigin (id : String)
  | tryConsumeQuota
deriving DecidableEq, Repr

/-- What the tenant gets back.  A list comes in the order of a hash map, which
is none. -/
inductive Answer where
  | keys (records : Option (Multiset KeyRecord))
  | origins (records : Multiset OriginInfo)
  | result (result : Result)

/-- The store after an action and, when they reach the database, the writes it
spawned. -/
def Outcome.settle [Driver] (writes : Bool) (outcome : Outcome) : Store :=
  { outcome.store with
    pool :=
      if writes then outcome.spawned.foldl (fun pool task => task.run pool) outcome.store.pool
      else outcome.store.pool }

def Frame.settled [Driver] (hashKey : String → String) (writes : Bool) (input : Input)
    (store : Store) (frame : Frame) : Store × Status Frame Result :=
  let outcome := frame.exec hashKey input store
  (outcome.settle writes, outcome.next)

/-- Carry out an operation and the write it leaves to a task. -/
def Store.perform [Driver] (hashKey : String → String) (writes : Bool) (inputs : List Input)
    (store : Store) (op : Op) : Option (Store × Answer) :=
  (solo (Frame.settled hashKey writes) inputs store op.entry).map fun outcome =>
    (outcome.1, .result outcome.2)

def TenantOp.perform [Driver] (hashKey : String → String) (writes : Bool) (inputs : List Input)
    (tenantId : String) (store : Store) : TenantOp → Option (Store × Answer)
  | .listKeys => some (store, .keys ((store.listKeys tenantId).map Multiset.ofList))
  | .createKey label role expiresAt =>
      store.perform hashKey writes inputs (.createKey tenantId label role expiresAt)
  | .revokeKey id => store.perform hashKey writes inputs (.revokeKey tenantId id)
  | .rotateKey id => store.perform hashKey writes inputs (.rotateKey tenantId id)
  | .listOrigins => some (store, .origins (.ofList (store.listOrigins tenantId)))
  | .registerOrigin origin =>
      store.perform hashKey writes inputs (.registerOrigin tenantId origin)
  | .revokeOrigin id => store.perform hashKey writes inputs (.revokeOrigin tenantId id)
  | .tryConsumeQuota => store.perform hashKey writes inputs (.tryConsumeQuota tenantId)

/-! ## What belongs to a tenant -/

/-- A value that a key of the tenant has, or had before a rotation. -/
def World.IsRawKeyOf [Driver] (world : World) (tenantId rawKey : String) : Prop :=
  ∃ id, (id, rawKey) ∈ world.issued ∧ world.store.pool.Places id (some tenantId)

/-- The two stores have the same keys, origins and record of the tenant, in the
caches and in the tables. -/
structure Store.AgreeOn (tenantId : String) (store other : Store) : Prop where
  cachedKeys : ∀ hash record, record.tenantId = some tenantId →
    (other.keys.lookup hash = some record ↔ store.keys.lookup hash = some record)
  keyRows : ∀ row, row.tenantId = some tenantId →
    (row ∈ other.pool.apiKeys ↔ row ∈ store.pool.apiKeys)
  cachedOrigins : ∀ origin, originOf other.originsByTenant tenantId origin =
    originOf store.originsByTenant tenantId origin
  originRows : ∀ row, row.tenantId = tenantId →
    (row ∈ other.pool.tenantOrigins ↔ row ∈ store.pool.tenantOrigins)
  cachedTenant : other.getTenant tenantId = store.getTenant tenantId
  tenantRows : ∀ row, row.id = tenantId →
    (row ∈ other.pool.tenants ↔ row ∈ store.pool.tenants)

/-- The tenant finds everything of its own as it was in the world. -/
structure World.UnchangedFor [Driver] (hashKey : String → String) (world : World)
    (tenantId : String) (after : Store) : Prop where
  agree : world.store.AgreeOn tenantId after
  authenticates : ∀ rawKey, world.IsRawKeyOf tenantId rawKey → ∀ inputs,
    (after.runAlone hashKey inputs (Op.authenticate rawKey).entry).map Prod.snd =
      (world.store.runAlone hashKey inputs (Op.authenticate rawKey).entry).map Prod.snd
  owns : ∀ origin, after.tenantOwnsOrigin tenantId origin =
    world.store.tenantOwnsOrigin tenantId origin
  registered : ∀ origin, world.store.tenantOwnsOrigin tenantId origin = true →
    after.isRegisteredOrigin origin = world.store.isRegisteredOrigin origin

/-- The operation for the first tenant changes nothing of the other one. -/
def TenantOp.Spares [Driver] (hashKey : String → String) (world : World) (tenantId other : String)
    (op : TenantOp) : Prop :=
  ∀ writes inputs, (∀ input ∈ inputs, world.RawKeyFresh input) →
    ∀ after answer, op.perform hashKey writes inputs tenantId world.store = some (after, answer) →
      world.UnchangedFor hashKey other after

/-- The origin is the other tenant's and missing in the union set, and the tenant
can register it too, which would list it. -/
def Store.Relists (store : Store) (tenantId other origin : String) : Prop :=
  store.tenantOwnsOrigin other origin = true ∧ store.isRegisteredOrigin origin = false ∧
    tenantId ∈ store.pool.tenantIds ∧ ¬store.pool.HasOrigin tenantId origin

def TenantOp.Relists (store : Store) (tenantId other : String) : TenantOp → Prop
  | .registerOrigin origin => store.Relists tenantId other origin
  | _ => False

/-! ## The frame condition of one action -/

/-- What one store keeps of another for a tenant whose raw keys have the hashes
`mine`. -/
structure Store.LeavesAlone (mine : String → Prop) (tenantId : String) (before after : Store) :
    Prop where
  cached : ∀ hash record, record.tenantId = some tenantId ∨ mine hash →
    (after.keys.lookup hash = some record ↔ before.keys.lookup hash = some record)
  rows : ∀ row, row.tenantId = some tenantId ∨ mine row.keyHash →
    (row ∈ after.pool.apiKeys ↔ row ∈ before.pool.apiKeys)
  poisoned : after.keysPoisoned = before.keysPoisoned
  origins : ∀ origin, originOf after.originsByTenant tenantId origin =
    originOf before.originsByTenant tenantId origin
  originRows : ∀ row, row.tenantId = tenantId →
    (row ∈ after.pool.tenantOrigins ↔ row ∈ before.pool.tenantOrigins)
  registered : ∀ origin, before.tenantOwnsOrigin tenantId origin = true →
    (origin ∈ after.originsAny ↔ origin ∈ before.originsAny)
  tenant : after.tenants.lookup tenantId = before.tenants.lookup tenantId
  tenantRows : ∀ row, row.id = tenantId →
    (row ∈ after.pool.tenants ↔ row ∈ before.pool.tenants)

/-- The keys of the tenant, and no others, are filed under the hashes `mine`. -/
structure Store.Guards (mine : String → Prop) (tenantId : String) (store : Store) : Prop where
  cached : ∀ hash record, store.keys.lookup hash = some record →
    (record.tenantId = some tenantId ↔ mine hash)
  rows : ∀ row ∈ store.pool.apiKeys, row.tenantId = some tenantId ↔ mine row.keyHash

namespace Store.LeavesAlone

variable {mine : String → Prop} {tenantId : String} {store later last : Store}

theorem owns (leaves : store.LeavesAlone mine tenantId later) (origin : String) :
    later.tenantOwnsOrigin tenantId origin = store.tenantOwnsOrigin tenantId origin := by
  rw [tenantOwnsOrigin, leaves.origins, tenantOwnsOrigin]

theorem refl (store : Store) : store.LeavesAlone mine tenantId store :=
  { cached := fun _ _ _ => Iff.rfl
    rows := fun _ _ => Iff.rfl
    poisoned := rfl
    origins := fun _ => rfl
    originRows := fun _ _ => Iff.rfl
    registered := fun _ _ => Iff.rfl
    tenant := rfl
    tenantRows := fun _ _ => Iff.rfl }

theorem trans (first : store.LeavesAlone mine tenantId later)
    (second : later.LeavesAlone mine tenantId last) : store.LeavesAlone mine tenantId last := by
  constructor
  · intro hash record belongs
    exact (second.cached hash record belongs).trans (first.cached hash record belongs)
  · intro row belongs
    exact (second.rows row belongs).trans (first.rows row belongs)
  · exact second.poisoned.trans first.poisoned
  · intro origin
    exact (second.origins origin).trans (first.origins origin)
  · intro row belongs
    exact (second.originRows row belongs).trans (first.originRows row belongs)
  · intro origin owner
    have stillOwner : later.tenantOwnsOrigin tenantId origin = true := by
      rw [first.owns, owner]
    exact (second.registered origin stillOwner).trans (first.registered origin owner)
  · exact second.tenant.trans first.tenant
  · intro row belongs
    exact (second.tenantRows row belongs).trans (first.tenantRows row belongs)

theorem guards (leaves : store.LeavesAlone mine tenantId later)
    (guarded : store.Guards mine tenantId) : later.Guards mine tenantId := by
  constructor
  · intro hash record stored
    constructor
    · intro belongs
      exact (guarded.cached hash record
        ((leaves.cached hash record (Or.inl belongs)).mp stored)).mp belongs
    · intro hashed
      exact (guarded.cached hash record
        ((leaves.cached hash record (Or.inr hashed)).mp stored)).mpr hashed
  · intro row member
    constructor
    · intro belongs
      exact (guarded.rows row ((leaves.rows row (Or.inl belongs)).mp member)).mp belongs
    · intro hashed
      exact (guarded.rows row ((leaves.rows row (Or.inr hashed)).mp member)).mpr hashed

/-- An action on the keys is judged by the cache and the table of keys. -/
theorem of_keys (only : OnlyKeys store later)
    (cached : ∀ hash record, record.tenantId = some tenantId ∨ mine hash →
      (later.keys.lookup hash = some record ↔ store.keys.lookup hash = some record))
    (rows : ∀ row, row.tenantId = some tenantId ∨ mine row.keyHash →
      (row ∈ later.pool.apiKeys ↔ row ∈ store.pool.apiKeys))
    (poisoned : later.keysPoisoned = store.keysPoisoned) :
    store.LeavesAlone mine tenantId later :=
  { cached
    rows
    poisoned
    origins := fun origin => by rw [only.origins.originsByTenant]
    originRows := fun row _ => by rw [only.origins.rows]
    registered := fun origin _ => by rw [only.origins.originsAny]
    tenant := by rw [only.tenants.tenants]
    tenantRows := fun row _ => by rw [only.tenants.rows] }

theorem of_tenants (only : OnlyTenants store later)
    (tenant : later.tenants.lookup tenantId = store.tenants.lookup tenantId)
    (tenantRows : ∀ row, row.id = tenantId →
      (row ∈ later.pool.tenants ↔ row ∈ store.pool.tenants)) :
    store.LeavesAlone mine tenantId later :=
  { cached := fun hash record _ => by rw [only.keys.keys]
    rows := fun row _ => by rw [only.keys.apiKeys]
    poisoned := only.keys.poisoned
    origins := fun origin => by rw [only.origins.originsByTenant]
    originRows := fun row _ => by rw [only.origins.rows]
    registered := fun origin _ => by rw [only.origins.originsAny]
    tenant
    tenantRows }

theorem of_origins (only : OnlyOrigins store later)
    (origins : ∀ origin, originOf later.originsByTenant tenantId origin =
      originOf store.originsByTenant tenantId origin)
    (originRows : ∀ row, row.tenantId = tenantId →
      (row ∈ later.pool.tenantOrigins ↔ row ∈ store.pool.tenantOrigins))
    (registered : ∀ origin, store.tenantOwnsOrigin tenantId origin = true →
      (origin ∈ later.originsAny ↔ origin ∈ store.originsAny)) :
    store.LeavesAlone mine tenantId later :=
  { cached := fun hash record _ => by rw [only.keys.keys]
    rows := fun row _ => by rw [only.keys.apiKeys]
    poisoned := only.keys.poisoned
    origins
    originRows
    registered
    tenant := by rw [only.tenants.tenants]
    tenantRows := fun row _ => by rw [only.tenants.rows] }

/-! ### Keys -/

/-- A cache that differs under one hash only, by an entry that is not the
tenant's. -/
theorem of_cache {keys : Dict String KeyRecord} {hash : String}
    (guarded : store.Guards mine tenantId) (elsewhere : ¬mine hash)
    (agrees : ∀ other, other ≠ hash → keys.lookup other = store.keys.lookup other)
    (foreign : ∀ record, keys.lookup hash = some record → record.tenantId ≠ some tenantId) :
    store.LeavesAlone mine tenantId { store with keys } := by
  refine .of_keys ⟨⟨rfl, rfl⟩, ⟨rfl, rfl, rfl⟩, ⟨rfl, rfl⟩⟩ ?_ (fun _ _ => Iff.rfl) rfl
  intro other record belongs
  by_cases here : other = hash
  · subst other
    have owner : record.tenantId = some tenantId := by
      rcases belongs with owner | hashed
      · exact owner
      · exact absurd hashed elsewhere
    constructor
    · intro stored
      exact absurd owner (foreign record stored)
    · intro stored
      exact absurd ((guarded.cached hash record stored).mp owner) elsewhere
  · rw [agrees other here]

theorem insertRecord {hash : String} {record : KeyRecord} (guarded : store.Guards mine tenantId)
    (elsewhere : ¬mine hash) (foreign : record.tenantId ≠ some tenantId) :
    store.LeavesAlone mine tenantId { store with keys := store.keys.insert hash record } := by
  apply of_cache guarded elsewhere
  · intro other different
    rw [Dict.lookup_insert_ite, if_neg different]
  · intro found stored
    rw [Dict.lookup_insert_ite, if_pos rfl] at stored
    cases stored
    exact foreign

theorem eraseRecord {hash : String} (guarded : store.Guards mine tenantId)
    (elsewhere : ¬mine hash) :
    store.LeavesAlone mine tenantId { store with keys := store.keys.erase hash } := by
  apply of_cache guarded elsewhere
  · intro other different
    rw [Dict.lookup_erase_ite, if_neg different]
  · intro found stored
    rw [Dict.lookup_erase_ite, if_pos rfl] at stored
    cases stored

theorem modifyRecord {hash : String} {change : KeyRecord → KeyRecord}
    (guarded : store.Guards mine tenantId) (elsewhere : ¬mine hash)
    (keeps : ∀ record, (change record).tenantId = record.tenantId) :
    store.LeavesAlone mine tenantId { store with keys := store.keys.modify hash change } := by
  apply of_cache guarded elsewhere
  · intro other different
    rw [Dict.lookup_modify, if_neg different]
  · intro found stored
    rw [Dict.lookup_modify, if_pos rfl] at stored
    obtain ⟨old, oldStored, rfl⟩ := Option.map_eq_some_iff.mp stored
    rw [keeps]
    exact fun owner => elsewhere ((guarded.cached hash old oldStored).mp owner)

theorem insertRow {row : ApiKeyRow} {pool : Database}
    (inserted : store.pool.insertApiKey row = some pool)
    (foreign : row.tenantId ≠ some tenantId) (elsewhere : ¬mine row.keyHash) :
    store.LeavesAlone mine tenantId { store with pool } := by
  obtain ⟨_, apiKeys, tenants, origins, dictionaries⟩ := Database.insertApiKey_eq_some inserted
  refine .of_keys ⟨⟨tenants, rfl⟩, ⟨origins, rfl, rfl⟩, ⟨dictionaries, rfl⟩⟩
    (fun _ _ _ => Iff.rfl) ?_ rfl
  intro other belongs
  rw [apiKeys, List.mem_append, List.mem_singleton]
  constructor
  · intro member
    rcases member with old | rfl
    · exact old
    · rcases belongs with owner | hashed
      · exact absurd owner foreign
      · exact absurd hashed elsewhere
  · exact Or.inl

theorem changeRows {pool : Database} {id : String} {change : ApiKeyRow → ApiKeyRow}
    (guarded : store.Guards mine tenantId)
    (only : OnlyKeys store { store with pool })
    (changed : pool.apiKeys =
      store.pool.apiKeys.map fun row => if row.id = id then change row else row)
    (foreign : ∀ row ∈ store.pool.apiKeys, row.id = id → row.tenantId ≠ some tenantId)
    (keeps : ∀ row, (change row).tenantId = row.tenantId)
    (hashes : ∀ row, (change row).keyHash = row.keyHash ∨ ¬mine (change row).keyHash) :
    store.LeavesAlone mine tenantId { store with pool } := by
  refine .of_keys only (fun _ _ _ => Iff.rfl) ?_ rfl
  intro row belongs
  have notChanged : ∀ old ∈ store.pool.apiKeys, old.id = id → change old ≠ row := by
    intro old member selected same
    have owner := foreign old member selected
    subst row
    rcases belongs with claimed | hashed
    · rw [keeps] at claimed
      exact owner claimed
    · rcases hashes old with sameHash | elsewhere
      · rw [sameHash] at hashed
        exact owner ((guarded.rows old member).mpr hashed)
      · exact elsewhere hashed
  have notSelected : row ∈ store.pool.apiKeys → row.id ≠ id := by
    intro member selected
    have owner := foreign row member selected
    rcases belongs with claimed | hashed
    · exact owner claimed
    · exact owner ((guarded.rows row member).mpr hashed)
  show row ∈ pool.apiKeys ↔ row ∈ store.pool.apiKeys
  rw [changed]
  exact mem_map_ite_iff notSelected notChanged

/-! ### Origins and tenants -/

theorem insertOriginRow {row : OriginRow} {pool : Database}
    (inserted : store.pool.insertOrigin row = some pool) (foreign : row.tenantId ≠ tenantId) :
    store.LeavesAlone mine tenantId { store with pool } := by
  obtain ⟨_, origins, tenants, apiKeys, dictionaries⟩ := Database.insertOrigin_eq_some inserted
  refine .of_origins ⟨⟨apiKeys, rfl, rfl⟩, ⟨tenants, rfl⟩, ⟨dictionaries, rfl⟩⟩
    (fun _ => rfl) ?_ (fun _ _ => Iff.rfl)
  intro other belongs
  rw [origins, List.mem_append, List.mem_singleton]
  constructor
  · intro member
    rcases member with old | rfl
    · exact old
    · exact absurd belongs foreign
  · exact Or.inl

theorem deleteOriginRow {id : String}
    (foreign : ∀ row ∈ store.pool.tenantOrigins, row.id = id → row.tenantId ≠ tenantId) :
    store.LeavesAlone mine tenantId { store with pool := store.pool.deleteOrigin id } := by
  refine .of_origins ⟨⟨rfl, rfl, rfl⟩, ⟨rfl, rfl⟩, ⟨rfl, rfl⟩⟩ (fun _ => rfl) ?_
    (fun _ _ => Iff.rfl)
  intro row belongs
  simp only [Database.deleteOrigin, List.mem_filter, ne_eq, decide_eq_true_eq]
  constructor
  · intro kept
    exact kept.1
  · intro member
    exact ⟨member, fun selected => foreign row member selected belongs⟩

theorem changeUnion {originsAny : Finset String}
    (registered : ∀ origin, store.tenantOwnsOrigin tenantId origin = true →
      (origin ∈ originsAny ↔ origin ∈ store.originsAny)) :
    store.LeavesAlone mine tenantId { store with originsAny } :=
  .of_origins ⟨⟨rfl, rfl, rfl⟩, ⟨rfl, rfl⟩, ⟨rfl, rfl⟩⟩ (fun _ => rfl) (fun _ _ => Iff.rfl)
    registered

theorem changeMap {originsByTenant : Dict String (Dict String OriginInfo)}
    (origins : ∀ origin, originOf originsByTenant tenantId origin =
      originOf store.originsByTenant tenantId origin) :
    store.LeavesAlone mine tenantId { store with originsByTenant } :=
  .of_origins ⟨⟨rfl, rfl, rfl⟩, ⟨rfl, rfl⟩, ⟨rfl, rfl⟩⟩ origins (fun _ _ => Iff.rfl)
    (fun _ _ => Iff.rfl)

theorem insertTenant {owner : String} {info : TenantInfo} (foreign : owner ≠ tenantId) :
    store.LeavesAlone mine tenantId { store with tenants := store.tenants.insert owner info } := by
  refine .of_tenants ⟨⟨rfl, rfl, rfl⟩, ⟨rfl, rfl, rfl⟩, ⟨rfl, rfl⟩⟩ ?_ (fun _ _ => Iff.rfl)
  show (store.tenants.insert owner info).lookup tenantId = store.tenants.lookup tenantId
  rw [Dict.lookup_insert_ite, if_neg foreign.symm]

theorem countRequests {owner : String} {count : UInt64} (foreign : owner ≠ tenantId) :
    store.LeavesAlone mine tenantId
      { store with pool := store.pool.updateRequestCount owner count } := by
  refine .of_tenants ⟨⟨rfl, rfl, rfl⟩, ⟨rfl, rfl, rfl⟩, ⟨rfl, rfl⟩⟩ rfl ?_
  intro row belongs
  apply mem_map_ite_iff
  · intro _
    rw [belongs]
    exact foreign.symm
  · rintro old _ selected rfl
    exact foreign (selected.symm.trans belongs)

end Store.LeavesAlone

/-! ## The frame condition of a whole operation -/

/-- What `find` relies on: a record is filed under its own hash and has the
tenant of its row. -/
structure Store.Filed (store : Store) : Prop where
  placed : store.KeysPlaced
  hashed : ∀ hash record, store.keys.lookup hash = some record → record.keyHash = hash

/-- The action a call for somebody else takes next. -/
def KeyFrame.Avoids [Driver] (mine : String → Prop) (tenantId : String)
    (store : Store) : KeyFrame → Prop
  | .createInsert owner _ _ _ _ => owner ≠ some tenantId
  | .createCache created _ =>
      created.record.tenantId ≠ some tenantId ∧ ¬mine created.record.keyHash
  | .revokeFind owner _ | .rotateFind owner _ => owner ≠ tenantId ∧ store.Filed
  | .revokeUpdate id keyHash =>
      (∀ row ∈ store.pool.apiKeys, row.id = id → row.tenantId ≠ some tenantId) ∧ ¬mine keyHash
  | .revokeMark _ keyHash _ => ¬mine keyHash
  | .rotateUpdate oldHash id _ =>
      (∀ row ∈ store.pool.apiKeys, row.id = id → row.tenantId ≠ some tenantId) ∧
        ¬mine oldHash ∧ (store.keys.lookup oldHash).isSome = true
  | .rotateRekey oldHash newHash _ _ _ =>
      ¬mine oldHash ∧ ¬mine newHash ∧ (store.keys.lookup oldHash).isSome = true
  | _ => False

def OriginFrame.Avoids (tenantId : String) (store : Store) : OriginFrame → Prop
  | .registerInsert owner origin => owner ≠ tenantId ∧ ¬store.Relists owner tenantId origin
  | .registerAny info =>
      info.tenantId ≠ tenantId ∧
        (store.tenantOwnsOrigin tenantId info.origin = true → info.origin ∈ store.originsAny)
  | .registerByTenant info => info.tenantId ≠ tenantId
  | .revokeSelect owner _ => owner ≠ tenantId
  | .revokeDelete owner id _ =>
      owner ≠ tenantId ∧
        ∀ row ∈ store.pool.tenantOrigins, row.id = id → row.tenantId ≠ tenantId
  | .revokeByTenant owner _ => owner ≠ tenantId
  | .revokeStillOwned _ => True
  | .revokeAny origin => store.tenantOwnsOrigin tenantId origin = false

def Frame.Avoids [Driver] (mine : String → Prop) (tenantId : String) (store : Store) : Frame → Prop
  | .key frame => frame.Avoids mine tenantId store
  | .tenant (.consumeQuota owner) => owner ≠ tenantId
  | .tenant _ => False
  | .origin frame => frame.Avoids tenantId store
  | .dictionary _ => False

/-- An action leaves the tenant alone, and so does the one after it. -/
structure Outcome.StaysAway [Driver] (mine : String → Prop) (tenantId : String) (store : Store)
    (outcome : Outcome) : Prop where
  leaves : store.LeavesAlone mine tenantId outcome.store
  goes : ∀ later, outcome.next = .running later → later.Avoids mine tenantId outcome.store

namespace Outcome.StaysAway

variable {mine : String → Prop} {tenantId : String} {store later : Store}

theorem finish [Driver] {result : Result} (leaves : store.LeavesAlone mine tenantId later) :
    (Outcome.finish later result).StaysAway mine tenantId store := by
  refine ⟨leaves, ?_⟩
  intro frame goes
  cases goes

theorem running [Driver] {frame : Frame} {issued : List (String × String)}
    (leaves : store.LeavesAlone mine tenantId later) (avoids : frame.Avoids mine tenantId later) :
    Outcome.StaysAway mine tenantId store
      { store := later, next := .running frame, spawned := [], issued } := by
  refine ⟨leaves, ?_⟩
  intro other goes
  cases goes
  exact avoids

end Outcome.StaysAway

section Actions

variable [Driver] {hashKey : String → String} {mine : String → Prop} {tenantId : String}
  {input : Input} {store : Store}

/-- The record `find` yields is somebody else's, and so are its hash and row. -/
private theorem found_foreign {owner id hash : String} {record : KeyRecord}
    (guarded : store.Guards mine tenantId) (filed : store.Filed) (foreign : owner ≠ tenantId)
    (found : store.keys.findEntry (ownedBy owner id) input.hint = some (hash, record)) :
    (∀ row ∈ store.pool.apiKeys, row.id = id → row.tenantId ≠ some tenantId) ∧
      ¬mine record.keyHash ∧ store.keys.lookup record.keyHash = some record := by
  obtain ⟨stored, qualifies⟩ := Dict.findEntry_eq_some found
  obtain ⟨sameId, sameOwner⟩ := ownedBy_iff.mp qualifies
  have hashed := filed.hashed hash record stored
  have notTheirs : record.tenantId ≠ some tenantId := by
    rw [sameOwner]
    exact fun same => foreign (Option.some.inj same)
  refine ⟨?_, ?_, ?_⟩
  · intro row member rowId claimed
    have placed : store.pool.Places record.id record.tenantId := filed.placed hash record stored
    have claims : store.pool.Places record.id (some tenantId) :=
      ⟨row, member, rowId.trans sameId.symm, claimed⟩
    exact notTheirs (placed.unique claims)
  · rw [hashed]
    exact fun theirs => notTheirs ((guarded.cached hash record stored).mpr theirs)
  · rw [hashed]
    exact stored

theorem KeyFrame.staysAway (guarded : store.Guards mine tenantId)
    (fresh : ¬mine (hashKey input.rawKey)) (frame : KeyFrame)
    (avoids : frame.Avoids mine tenantId store) :
    (frame.exec hashKey input store).StaysAway mine tenantId store := by
  cases frame with
  | createInsert owner label role expiresAt caller =>
      simp only [KeyFrame.exec]
      split
      · exact .finish (.refl store)
      · rename_i pool executed
        exact .running (.insertRow (Input.execute_eq_some.mp executed).2 avoids fresh)
          ⟨avoids, fresh⟩
  | createCache created caller =>
      simp only [KeyFrame.exec, KeyFrame.withKeys]
      split
      · exact .finish (.refl store)
      · exact .finish (.insertRecord guarded avoids.2 avoids.1)
  | revokeFind owner id =>
      obtain ⟨foreign, filed⟩ := avoids
      simp only [KeyFrame.exec, KeyFrame.withKeys]
      split
      · exact .finish (.refl store)
      · split
        · rename_i hash record found
          obtain ⟨rows, elsewhere, _⟩ := found_foreign guarded filed foreign found
          exact .running (.refl store) ⟨rows, elsewhere⟩
        · exact .finish (.refl store)
  | revokeUpdate id keyHash =>
      obtain ⟨foreign, elsewhere⟩ := avoids
      simp only [KeyFrame.exec]
      split
      · exact .finish (.refl store)
      · rename_i pool executed
        cases (Input.execute_eq_some.mp executed).2
        exact .running
          (.changeRows guarded ⟨⟨rfl, rfl⟩, ⟨rfl, rfl, rfl⟩, ⟨rfl, rfl⟩⟩ rfl foreign
            (fun _ => rfl) fun _ => Or.inl rfl)
          elsewhere
  | revokeMark id keyHash revokedAt =>
      simp only [KeyFrame.exec, KeyFrame.withKeys]
      split
      · exact .finish (.refl store)
      · exact .finish (.modifyRecord guarded avoids fun _ => rfl)
  | rotateFind owner id =>
      obtain ⟨foreign, filed⟩ := avoids
      simp only [KeyFrame.exec, KeyFrame.withKeys]
      split
      · exact .finish (.refl store)
      · split
        · rename_i hash record found
          obtain ⟨rows, elsewhere, stored⟩ := found_foreign guarded filed foreign found
          exact .running (.refl store) ⟨rows, elsewhere, by rw [stored]; rfl⟩
        · exact .finish (.refl store)
  | rotateUpdate oldHash id caller =>
      obtain ⟨foreign, elsewhere, stored⟩ := avoids
      simp only [KeyFrame.exec]
      split
      · exact .finish (.refl store)
      · rename_i pool executed
        obtain ⟨_, changed, tenants, origins, dictionaries⟩ :=
          Database.updateKeyHash_eq_some (Input.execute_eq_some.mp executed).2
        exact .running
          (.changeRows guarded ⟨⟨tenants, rfl⟩, ⟨origins, rfl, rfl⟩, ⟨dictionaries, rfl⟩⟩ changed
            foreign (fun _ => rfl) fun _ => Or.inr fresh)
          ⟨elsewhere, fresh, stored⟩
  | rotateRekey oldHash newHash rawKey id caller =>
      obtain ⟨elsewhere, elsewhereNew, present⟩ := avoids
      simp only [KeyFrame.exec, KeyFrame.withKeys]
      split
      · exact .finish (.refl store)
      · split
        · rename_i missing
          rw [missing] at present
          cases present
        · rename_i old stored
          have foreign : (old.rekey newHash).tenantId ≠ some tenantId :=
            fun owner => elsewhere ((guarded.cached oldHash old stored).mp owner)
          have erased := Store.LeavesAlone.eraseRecord guarded elsewhere
          exact .finish
            (erased.trans (.insertRecord (erased.guards guarded) elsewhereNew foreign))
  | resetFind | authLookup | authLoad | authStore | touchFind | touchMark => exact avoids.elim

theorem OriginFrame.staysAway (frame : OriginFrame) (avoids : frame.Avoids tenantId store) :
    (frame.exec input store).StaysAway mine tenantId store := by
  cases frame with
  | registerInsert owner origin =>
      obtain ⟨foreign, listed⟩ := avoids
      simp only [OriginFrame.exec]
      split
      · exact .finish (.refl store)
      · rename_i pool executed
        have inserted := (Input.execute_eq_some.mp executed).2
        obtain ⟨⟨_, free, known⟩, _⟩ := Database.insertOrigin_eq_some inserted
        refine .running (.insertOriginRow inserted foreign) ⟨foreign, ?_⟩
        intro owns
        by_contra unlisted
        exact listed ⟨owns, decide_eq_false unlisted, known, free⟩
  | registerAny info =>
      obtain ⟨foreign, listed⟩ := avoids
      refine .running (.changeUnion ?_) foreign
      intro origin owns
      rw [Finset.mem_insert]
      constructor
      · intro member
        rcases member with rfl | old
        · exact listed owns
        · exact old
      · exact Or.inr
  | registerByTenant info =>
      refine .finish (.changeMap ?_)
      intro origin
      rw [originOf_insertOriginInfo, if_neg]
      intro same
      exact avoids (congrArg Prod.fst same).symm
  | revokeSelect owner id =>
      simp only [OriginFrame.exec]
      split
      · split
        · exact .finish (.refl store)
        · rename_i origin selected
          obtain ⟨row, found, _⟩ := Option.map_eq_some_iff.mp selected
          have member := List.mem_of_find?_eq_some found
          obtain ⟨rowId, rowOwner⟩ : row.id = id ∧ row.tenantId = owner := by
            simpa using List.find?_some found
          refine .running (.refl store) ⟨avoids, ?_⟩
          intro other otherMember otherId
          have same : other = row :=
            List.inj_on_of_nodup_map store.pool.tenantOrigins_id_unique otherMember member
              (otherId.trans rowId.symm)
          rw [same, rowOwner]
          exact avoids
      · exact .finish (.refl store)
  | revokeDelete owner id origin =>
      obtain ⟨foreign, rows⟩ := avoids
      simp only [OriginFrame.exec]
      split
      · exact .finish (.refl store)
      · rename_i pool executed
        cases (Input.execute_eq_some.mp executed).2
        exact .running (.deleteOriginRow rows) foreign
  | revokeByTenant owner revoked =>
      refine .running (.changeMap ?_) trivial
      intro origin
      rw [originOf_removeOriginInfo, if_neg]
      intro same
      exact avoids (congrArg Prod.fst same).symm
  | revokeStillOwned origin =>
      simp only [OriginFrame.exec]
      split
      · exact .finish (.refl store)
      · rename_i unowned
        have nobody : store.tenantOwnsOrigin tenantId origin = false := by
          by_contra owns
          rw [Bool.not_eq_false] at owns
          exact unowned ((stillOwned_iff _ _).mpr ⟨tenantId, owns⟩)
        exact .running (.refl store) nobody
  | revokeAny revoked =>
      refine .finish (.changeUnion ?_)
      intro origin owns
      have different : origin ≠ revoked := by
        intro same
        rw [same, avoids] at owns
        cases owns
      simp [different]

theorem Outcome.settle_quiet {writes : Bool} {outcome : Outcome} (quiet : outcome.spawned = []) :
    outcome.settle writes = outcome.store := by
  cases writes <;> simp [Outcome.settle, quiet]

/-- An action of a call for somebody else, with the write it may spawn. -/
theorem Frame.staysAway {writes : Bool} (guarded : store.Guards mine tenantId)
    (fresh : ¬mine (hashKey input.rawKey)) (frame : Frame)
    (avoids : frame.Avoids mine tenantId store) :
    store.LeavesAlone mine tenantId (frame.settled hashKey writes input store).1 ∧
      ∀ later, (frame.settled hashKey writes input store).2 = .running later →
        later.Avoids mine tenantId (frame.settled hashKey writes input store).1 := by
  cases frame with
  | key frame =>
      have quiet : (frame.exec hashKey input store).spawned = [] := by
        cases frame <;> first
          | exact avoids.elim
          | simp only [KeyFrame.exec, KeyFrame.withKeys]
            (repeat' split) <;> rfl
      have away := frame.staysAway guarded fresh avoids
      have settled : ((Frame.key frame).settled hashKey writes input store).1 =
          (frame.exec hashKey input store).store := Outcome.settle_quiet quiet
      rw [settled]
      exact ⟨away.leaves, away.goes⟩
  | tenant frame =>
      cases frame with
      | consumeQuota owner =>
          have foreign : owner ≠ tenantId := avoids
          simp only [Frame.settled, Frame.exec, TenantFrame.exec]
          split
          · rw [Outcome.settle_quiet rfl]
            exact ⟨.refl store, fun later goes => by cases goes⟩
          · split
            · rw [Outcome.settle_quiet rfl]
              exact ⟨.refl store, fun later goes => by cases goes⟩
            · refine ⟨?_, fun later goes => by cases goes⟩
              cases writes with
              | false => exact .insertTenant foreign
              | true => exact .trans (.insertTenant foreign) (.countRequests foreign)
      | _ => exact avoids.elim
  | origin frame =>
      have away : (frame.exec input store).StaysAway mine tenantId store :=
        frame.staysAway avoids
      have settled : ((Frame.origin frame).settled hashKey writes input store).1 =
          (frame.exec input store).store :=
        Outcome.settle_quiet (frame.exec_quiet input store).1
      rw [settled]
      exact ⟨away.leaves, away.goes⟩
  | dictionary frame => exact avoids.elim

end Actions

/-- The frame condition of an operation carried to its end. -/
theorem Store.perform_leavesAlone [Driver] {hashKey : String → String} {mine : String → Prop}
    {tenantId : String} {store after : Store} {writes : Bool} {inputs : List Input} {op : Op}
    {answer : Answer} (guarded : store.Guards mine tenantId)
    (fresh : ∀ input ∈ inputs, ¬mine (hashKey input.rawKey))
    (avoids : op.entry.Avoids mine tenantId store)
    (ends : store.perform hashKey writes inputs op = some (after, answer)) :
    store.LeavesAlone mine tenantId after := by
  obtain ⟨⟨last, result⟩, ran, same⟩ := Option.map_eq_some_iff.mp ends
  obtain ⟨rfl, _⟩ := Prod.mk.inj same
  have acts : ∀ (input : Input) (before : Store) (frame : Frame), ¬mine (hashKey input.rawKey) →
      before.Guards mine tenantId ∧ frame.Avoids mine tenantId before →
      before.LeavesAlone mine tenantId (frame.settled hashKey writes input before).1 ∧
        ∀ later, (frame.settled hashKey writes input before).2 = .running later →
          (frame.settled hashKey writes input before).1.Guards mine tenantId ∧
            later.Avoids mine tenantId (frame.settled hashKey writes input before).1 := by
    intro input before frame unused known
    obtain ⟨leaves, goes⟩ := frame.staysAway known.1 unused known.2
    exact ⟨leaves, fun later moves => ⟨leaves.guards known.1, goes later moves⟩⟩
  exact solo_frame (Store.LeavesAlone mine tenantId)
    (fun before frame => before.Guards mine tenantId ∧ frame.Avoids mine tenantId before)
    Store.LeavesAlone.trans acts fresh ⟨guarded, avoids⟩ ran

end SpellServer
