import SpellServer.Store.Mirrors

/-!
# What a key grants

A key is created with an id, a tenant, a role and an expiry, and no statement
writes these columns again.  So whatever runs, and however often the process
stops, a cached record grants what its row does, and the row of a key that
`create_key` has returned is the one it was created with.
-/

namespace SpellServer

open Library

/-- The columns of a key that are written once. -/
structure KeyGrant where
  id : String
  tenantId : Option String
  role : Role
  expiresAt : Option Int64

def ApiKeyRow.grant (row : ApiKeyRow) : KeyGrant :=
  { id := row.id
    tenantId := row.tenantId
    role := row.role
    expiresAt := row.expiresAt }

def Database.keyGrants (database : Database) : List KeyGrant :=
  database.apiKeys.map ApiKeyRow.grant

/-- The record grants this; a large expiry may have been cut off by its column. -/
structure KeyRecord.Keeps [Driver] (record : KeyRecord) (grant : KeyGrant) : Prop where
  id : record.id = grant.id
  tenantId : record.tenantId = grant.tenantId
  role : record.role = grant.role
  expiresAt : ColumnMirrors grant.expiresAt record.expiresAt

/-- Some row backs the record. -/
def Database.Backs [Driver] (database : Database) (record : KeyRecord) : Prop :=
  ∃ grant ∈ database.keyGrants, record.Keeps grant

/-- The row has what the record was created with. -/
def Database.Enters (database : Database) (record : KeyRecord) : Prop :=
  (newApiKeyRow record).grant ∈ database.keyGrants

namespace Database

variable {hashKey : String → String} {database pool later : Database} {record : KeyRecord}

/-- An id has one row. -/
theorem keyGrants_unique {grant other : KeyGrant} (member : grant ∈ database.keyGrants)
    (otherMember : other ∈ database.keyGrants) (same : grant.id = other.id) : grant = other := by
  obtain ⟨row, rowMember, rfl⟩ := List.mem_map.mp member
  obtain ⟨otherRow, otherRowMember, rfl⟩ := List.mem_map.mp otherMember
  rw [List.inj_on_of_nodup_map database.apiKeys_id_unique rowMember otherRowMember same]

theorem keyGrants_insertApiKey {row : ApiKeyRow} (inserted : database.insertApiKey row = some pool) :
    pool.keyGrants = database.keyGrants ++ [row.grant] := by
  obtain ⟨_, apiKeys, _⟩ := insertApiKey_eq_some inserted
  rw [keyGrants, apiKeys, List.map_append]
  rfl

theorem keyGrants_changeRows {id : String} {change : ApiKeyRow → ApiKeyRow}
    (changed : pool.apiKeys =
      database.apiKeys.map fun row => if row.id = id then change row else row)
    (keeps : ∀ row, (change row).grant = row.grant) : database.keyGrants ⊆ pool.keyGrants := by
  intro grant member
  obtain ⟨row, rowMember, rfl⟩ := List.mem_map.mp member
  apply List.mem_map.mpr
  refine ⟨if row.id = id then change row else row, ?_, ?_⟩
  · rw [changed]
    exact List.mem_map_of_mem rowMember
  · split
    · exact keeps row
    · rfl

theorem keyGrants_writes [Driver] {input : Input} {frame : KeyFrame}
    (writes : frame.Writes hashKey input database pool) :
    database.keyGrants ⊆ pool.keyGrants := by
  cases writes with
  | nothing => exact List.Subset.refl _
  | inserts inserted =>
      rw [keyGrants_insertApiKey inserted]
      exact List.subset_append_left _ _
  | revokes id keyHash => exact keyGrants_changeRows rfl fun _ => rfl
  | rekeys updated => exact keyGrants_changeRows (updateKeyHash_eq_some updated).2.1 fun _ => rfl

theorem keyGrants_of_same {store other : Store} (same : SameKeys store other) :
    store.pool.keyGrants ⊆ other.pool.keyGrants := by
  unfold keyGrants
  rw [same.apiKeys]
  exact List.Subset.refl _

theorem Backs.mono [Driver] (backs : database.Backs record)
    (kept : database.keyGrants ⊆ later.keyGrants) : later.Backs record := by
  obtain ⟨grant, member, carries⟩ := backs
  exact ⟨grant, kept member, carries⟩

theorem Enters.backs [Driver] (enters : database.Enters record) : database.Backs record :=
  ⟨_, enters, rfl, rfl, rfl, Or.inl rfl⟩

/-- Records of one key have one tenant. -/
theorem Backs.tenantId_eq [Driver] {other : KeyRecord} (backs : database.Backs record)
    (otherBacks : database.Backs other) (same : other.id = record.id) :
    other.tenantId = record.tenantId := by
  obtain ⟨grant, member, carries⟩ := backs
  obtain ⟨otherGrant, otherMember, otherCarries⟩ := otherBacks
  have sameId : otherGrant.id = grant.id := by
    rw [← otherCarries.id, same, carries.id]
  rw [otherCarries.tenantId, carries.tenantId,
    database.keyGrants_unique otherMember member sameId]

theorem enters_inserted (inserted : database.insertApiKey (newApiKeyRow record) = some pool) :
    pool.Enters record := by
  rw [Enters, keyGrants_insertApiKey inserted]
  exact List.mem_append_right _ (List.mem_singleton.mpr rfl)

theorem Written.backs_loaded [Driver] (written : database.Written) {row : ApiKeyRow}
    (member : row ∈ database.apiKeys) : database.Backs (keyRecordFromRow row) :=
  ⟨row.grant, List.mem_map_of_mem member, rfl, written.tenantId_loaded member, rfl, Or.inr rfl⟩

end Database

theorem World.keyGrants_step [Driver] {hashKey : String → String} {world next : World}
    {event : Event} (taken : world.step hashKey event = some next) :
    world.store.pool.keyGrants ⊆ next.store.pool.keyGrants := by
  rcases step_cases taken with ⟨ticket, op, rfl, _, rfl⟩ |
    ⟨ticket, input, frame, rfl, _, _, rfl⟩ |
    ⟨position, succeeds, task, rfl, _, rfl⟩ | ⟨now, input, opened, rfl, _, success, rfl⟩
  · exact List.Subset.refl _
  · cases frame with
    | key frame => exact Database.keyGrants_writes frame.exec_writes
    | tenant frame => exact Database.keyGrants_of_same (frame.exec_local input world.store).keys
    | origin frame => exact Database.keyGrants_of_same (frame.exec_local input world.store).keys
    | dictionary frame => exact Database.keyGrants_of_same (frame.exec_local input world.store).keys
  · cases succeeds with
    | false => exact List.Subset.refl _
    | true =>
        cases task with
        | lastUsedAt id nowTs => exact Database.keyGrants_changeRows rfl fun _ => rfl
        | requestCount id newCount => exact List.Subset.refl _
  · rcases Store.open_cases success with rfl | ⟨inserted, accepted, rfl⟩
    · exact List.Subset.refl _
    · rw [Database.keyGrants_insertApiKey accepted]
      exact List.subset_append_left _ _

/-! ## Cached records -/

/-- The records a call is about to cache are backed by rows. -/
def Frame.Backed [Driver] (pool : Database) : Frame → Prop
  | .key (.createCache created _) => pool.Enters created.record
  | .key (.authStore _ record) => pool.Backs record
  | _ => True

theorem Frame.Backed.mono [Driver] {pool later : Database} {frame : Frame}
    (backed : frame.Backed pool)
    (kept : pool.keyGrants ⊆ later.keyGrants) : frame.Backed later := by
  cases frame with
  | key frame =>
      cases frame with
      | createCache created caller => exact kept backed
      | authStore hash record => exact Database.Backs.mono backed kept
      | _ => trivial
  | tenant _ | origin _ | dictionary _ => trivial

/-- A call comes to a record through the row it has inserted or read. -/
theorem Frame.backed_exec [Driver] {hashKey : String → String} {input : Input} {store : Store}
    {frame later : Frame} (written : store.pool.Written)
    (goes : (frame.exec hashKey input store).next = .running later) :
    later.Backed (frame.exec hashKey input store).store.pool := by
  cases frame with
  | key frame =>
      obtain ⟨mine, rfl⟩ := KeyFrame.exec_next goes
      cases mine with
      | createCache created caller =>
          obtain ⟨_, _, _, _, rfl, rfl, inserted⟩ := KeyFrame.exec_creates goes
          exact Database.enters_inserted inserted
      | authStore hash record =>
          obtain ⟨unchanged, row, selected, rfl⟩ := KeyFrame.exec_loads goes
          have loaded := written.backs_loaded (findBy_mem selected).1
          rw [← unchanged] at loaded
          exact loaded
      | _ => trivial
  | tenant frame =>
      rcases TenantFrame.exec_next goes with ⟨other, rfl⟩ | ⟨tenantId, info, rfl⟩ <;> trivial
  | origin frame =>
      obtain ⟨other, rfl⟩ := OriginFrame.exec_next goes
      trivial
  | dictionary frame =>
      obtain ⟨other, rfl⟩ := DictionaryFrame.exec_next goes
      trivial

def Store.KeysBacked [Driver] (store : Store) : Prop :=
  ∀ hash record, store.keys.lookup hash = some record → store.pool.Backs record

namespace Store.KeysBacked

variable [Driver] {hashKey : String → String} {input : Input} {store later : Store}

theorem of_same (backed : store.KeysBacked) (same : SameKeys store later) :
    later.KeysBacked := by
  intro hash record found
  rw [same.keys] at found
  exact (backed hash record found).mono (Database.keyGrants_of_same same)

theorem keyFrame (backed : store.KeysBacked) {frame : KeyFrame}
    (brings : (Frame.key frame).Backed store.pool) :
    (frame.exec hashKey input store).store.KeysBacked := by
  intro hash record found
  refine Database.Backs.mono ?_ (Database.keyGrants_writes frame.exec_writes)
  cases KeyFrame.exec_leaves found with
  | kept stored => exact backed _ _ stored
  | revoked id revokedAt stored | touched id nowTs stored | rekeyed newHash rawKey id caller stored =>
      obtain ⟨grant, member, carries⟩ := backed _ _ stored
      exact ⟨grant, member, carries.id, carries.tenantId, carries.role, carries.expiresAt⟩
  | created created caller => exact brings.backs
  | loaded hash record => exact brings

theorem reload {pool : Database} (written : pool.Written) : (Store.reload pool).KeysBacked := by
  intro hash record found
  rw [Store.reload_keys_lookup] at found
  obtain ⟨row, selected, rfl⟩ := Option.map_eq_some_iff.mp found
  exact written.backs_loaded (findBy_mem selected).1

theorem reopened {now : Clock} {pool : Database} {opened : Opened} (written : pool.Written)
    (success : Store.open hashKey now input pool = some opened) : opened.store.KeysBacked := by
  rcases Store.open_cases success with rfl | ⟨inserted, accepted, rfl⟩
  · exact reload written
  · intro hash record found
    rw [Dict.lookup_insert_ite] at found
    split at found
    · cases found
      exact (Database.enters_inserted accepted).backs
    · apply (reload written hash record found).mono
      rw [Database.keyGrants_insertApiKey accepted]
      exact List.subset_append_left _ _

end Store.KeysBacked

/-! ## Calls of `create_key` -/

/-- The call returns the record of a new key, or is about to cache it. -/
structure CreatedApiKey.Answers (hashKey : String → String) (created : CreatedApiKey)
    (tenantId : String) (role : Role) (expiresAt : Option UInt64) : Prop where
  keyHash : created.record.keyHash = hashKey created.rawKey
  tenantId : created.record.tenantId = some tenantId
  role : created.record.role = role
  expiresAt : created.record.expiresAt = expiresAt

/-- Where a call of `create_key` stands. -/
def CreatesKey [Driver] (hashKey : String → String) (pool : Database) : Call Op Frame Result → Prop
  | { op := .createKey tenantId label role expiresAt, status := .running frame } =>
      frame = (Op.createKey tenantId label role expiresAt).entry ∨
        ∃ created : CreatedApiKey, frame = .key (.createCache created .createKey) ∧
          created.Answers hashKey tenantId role expiresAt
  | { op := .createKey tenantId _ role expiresAt, status := .returned (.createdKey created) } =>
      pool.Enters created.record ∧ created.Answers hashKey tenantId role expiresAt
  | _ => True

variable {hashKey : String → String}

theorem CreatesKey.mono [Driver] {pool later : Database} {call : Call Op Frame Result}
    (creates : CreatesKey hashKey pool call) (kept : pool.keyGrants ⊆ later.keyGrants) :
    CreatesKey hashKey later call := by
  obtain ⟨op, status⟩ := call
  cases op with
  | createKey tenantId label role expiresAt =>
      cases status with
      | running frame => exact creates
      | returned result =>
          cases result with
          | createdKey created => exact ⟨kept creates.1, creates.2⟩
          | _ => trivial
  | _ => trivial

/-- One action of a call of `create_key`. -/
theorem CreatesKey.exec [Driver] {input : Input} {store : Store} {op : Op} {frame : Frame}
    (creates : CreatesKey hashKey store.pool { op, status := .running frame })
    (backed : frame.Backed store.pool) :
    CreatesKey hashKey (frame.exec hashKey input store).store.pool
      { op, status := (frame.exec hashKey input store).next } := by
  cases op with
  | createKey tenantId label role expiresAt =>
      rcases creates with rfl | ⟨created, rfl, answers⟩
      · simp only [Op.entry, Frame.exec, KeyFrame.exec]
        split
        · trivial
        · exact Or.inr ⟨_, rfl, rfl, rfl, rfl, rfl⟩
      · simp only [Frame.exec, KeyFrame.exec, KeyFrame.withKeys]
        split
        · trivial
        · exact ⟨backed, answers⟩
  | _ => trivial

/-! ## Runs -/

structure World.KeysBacked [Driver] (hashKey : String → String) (world : World) : Prop where
  written : world.store.pool.Written
  store : world.store.KeysBacked
  frames : ∀ ticket frame, world.calls.frameAt ticket = some frame →
    frame.Backed world.store.pool
  calls : ∀ ticket call, world.calls.lookup ticket = some call →
    CreatesKey hashKey world.store.pool call

namespace World

variable [Driver] {world next : World} {event : Event}

theorem blank_keysBacked (hashKey : String → String) : KeysBacked hashKey blank := by
  refine ⟨.empty, ?_, ?_, ?_⟩
  · intro hash record found
    cases found
  · intro ticket frame seen
    cases seen
  · intro ticket call found
    cases found

theorem KeysBacked.store_step (backed : KeysBacked hashKey world)
    (taken : world.step hashKey event = some next) : next.store.KeysBacked := by
  rcases step_cases taken with ⟨ticket, op, rfl, _, rfl⟩ |
    ⟨ticket, input, frame, rfl, _, running, rfl⟩ |
    ⟨position, succeeds, task, rfl, _, rfl⟩ | ⟨now, input, opened, rfl, _, success, rfl⟩
  · exact backed.store
  · cases frame with
    | key frame => exact backed.store.keyFrame (backed.frames ticket _ running)
    | tenant frame => exact backed.store.of_same (frame.exec_local input world.store).keys
    | origin frame => exact backed.store.of_same (frame.exec_local input world.store).keys
    | dictionary frame => exact backed.store.of_same (frame.exec_local input world.store).keys
  · intro hash record found
    exact (backed.store hash record found).mono (keyGrants_step taken)
  · exact Store.KeysBacked.reopened backed.written success

theorem KeysBacked.step (backed : KeysBacked hashKey world)
    (taken : world.step hashKey event = some next) : KeysBacked hashKey next := by
  refine ⟨backed.written.step taken, backed.store_step taken, ?_, ?_⟩
  · intro ticket frame seen
    rcases frameAt_cases taken seen with before | ⟨op, rfl, rfl⟩ | ⟨input, old, _, _, goes, rfl⟩
    · exact (backed.frames ticket frame before).mono (keyGrants_step taken)
    · cases op <;> trivial
    · exact Frame.backed_exec backed.written goes
  · intro ticket call found
    rcases lookup_cases taken found with before | entered |
      ⟨input, frame, _, _, before, moved, rfl⟩
    · exact (backed.calls ticket call before).mono (keyGrants_step taken)
    · obtain ⟨op, status⟩ := call
      change status = .running op.entry at entered
      subst entered
      cases op with
      | createKey tenantId label role expiresAt => exact Or.inl rfl
      | _ => trivial
    · obtain ⟨op, status⟩ := call
      change status = _ at moved
      subst moved
      have running := Calls.frameAt_eq_some_iff.mpr ⟨op, before⟩
      exact (backed.calls ticket _ before).exec (backed.frames ticket frame running)

end World

end SpellServer
