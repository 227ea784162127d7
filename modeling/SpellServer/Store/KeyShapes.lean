import SpellServer.Store.Mirrors

/-!
# Platform keys have no tenant

`POST /api-keys` refuses to create a platform key.  In every run in which
`create_key` is only called behind that check, the keys without a tenant are
the platform keys, in the table, in the cache and in every call in progress.
-/

namespace SpellServer

open Library

/-- The schema check of `CreateApiKeyRequest` on its role. -/
def validateCreateApiKeyRequest (role : Role) : Bool :=
  decide (role ≠ .platform)

/-- `create_key` is called by its handler, which validates the request. -/
def keysValidated [Driver] (_ : World) : Event → Bool
  | .call _ (.createKey _ _ role _) => validateCreateApiKeyRequest role
  | _ => true

def Role.Fits (role : Role) (tenantId : Option String) : Prop :=
  tenantId = none ↔ role = .platform

theorem Role.fits_some {role : Role} {tenantId : String} (named : role ≠ .platform) :
    role.Fits (some tenantId) := by
  simp [Role.Fits, named]

theorem Role.platform_fits : Role.platform.Fits none := by
  simp [Role.Fits]

abbrev KeyRecord.Shaped (record : KeyRecord) : Prop :=
  record.role.Fits record.tenantId

def Frame.Shaped [Driver] : Frame → Prop
  | .key (.createInsert tenantId _ role _ _) => role.Fits tenantId
  | .key (.createCache created _) => created.record.Shaped
  | .key (.authStore _ record) => record.Shaped
  | _ => True

structure Store.KeysShaped (store : Store) : Prop where
  rows : ∀ row ∈ store.pool.apiKeys, row.role.Fits row.tenantId
  cached : ∀ hash record, store.keys.lookup hash = some record → record.Shaped

namespace Store.KeysShaped

variable {store later : Store}

theorem of_same (shaped : store.KeysShaped) (same : SameKeys store later) : later.KeysShaped := by
  constructor
  · rw [same.apiKeys]
    exact shaped.rows
  · rw [same.keys]
    exact shaped.cached

theorem loaded [Driver] (shaped : store.KeysShaped) (written : store.pool.Written) {row : ApiKeyRow}
    (member : row ∈ store.pool.apiKeys) : (keyRecordFromRow row).Shaped := by
  have fits := shaped.rows row member
  rw [KeyRecord.Shaped, written.tenantId_loaded member]
  exact fits

theorem insertRow {row : ApiKeyRow} {pool : Database} (shaped : store.KeysShaped)
    (inserted : store.pool.insertApiKey row = some pool) (fits : row.role.Fits row.tenantId) :
    ({ store with pool } : Store).KeysShaped :=
  ⟨Database.forall_insertApiKey shaped.rows inserted fits, shaped.cached⟩

theorem changeRows {pool : Database} {id : String} {change : ApiKeyRow → ApiKeyRow}
    (shaped : store.KeysShaped)
    (changed : pool.apiKeys =
      store.pool.apiKeys.map fun row => if row.id = id then change row else row)
    (keeps : ∀ row, (change row).role = row.role ∧ (change row).tenantId = row.tenantId) :
    ({ store with pool } : Store).KeysShaped := by
  refine ⟨Database.forall_changeApiKeys shaped.rows changed ?_, shaped.cached⟩
  intro row fits
  rw [(keeps row).1, (keeps row).2]
  exact fits

theorem insertRecord {hash : String} {record : KeyRecord} {keys : Dict String KeyRecord}
    (shaped : store.KeysShaped) (fits : record.Shaped)
    (fewer : ∀ hash record, keys.lookup hash = some record →
      store.keys.lookup hash = some record) :
    ({ store with keys := AList.insert hash record keys } : Store).KeysShaped := by
  refine ⟨shaped.rows, ?_⟩
  intro other found stored
  rw [Dict.lookup_insert_ite] at stored
  split at stored
  · cases stored
    exact fits
  · exact shaped.cached other found (fewer other found stored)

theorem writes [Driver] {hashKey : String → String} {input : Input} {frame : KeyFrame}
    {pool : Database} (shaped : store.KeysShaped) (fits : (Frame.key frame).Shaped)
    (writes : frame.Writes hashKey input store.pool pool) :
    ({ store with pool } : Store).KeysShaped := by
  cases writes with
  | nothing => exact shaped
  | inserts inserted => exact shaped.insertRow inserted fits
  | revokes id keyHash => exact shaped.changeRows rfl fun row => ⟨rfl, rfl⟩
  | rekeys updated =>
      exact shaped.changeRows (Database.updateKeyHash_eq_some updated).2.1 fun row => ⟨rfl, rfl⟩

theorem keyFrame [Driver] {hashKey : String → String} {input : Input} (shaped : store.KeysShaped)
    (written : store.pool.Written) (frame : KeyFrame) (fits : (Frame.key frame).Shaped) :
    (frame.exec hashKey input store).store.KeysShaped ∧
      ∀ later, (frame.exec hashKey input store).next = .running later → later.Shaped := by
  refine ⟨⟨(shaped.writes fits frame.exec_writes).rows, ?_⟩, ?_⟩
  · intro hash record found
    cases KeyFrame.exec_files found with
    | renewed stored renews =>
        rw [KeyRecord.Shaped, renews.role, renews.tenantId]
        exact shaped.cached _ _ stored
    | created created caller => exact fits
    | loaded hash record => exact fits
  · intro later goes
    obtain ⟨mine, rfl⟩ := KeyFrame.exec_next goes
    cases mine with
    | createInsert tenantId label role expiresAt caller =>
        obtain ⟨rfl, rfl, _⟩ := KeyFrame.exec_inserts goes
        exact Role.platform_fits
    | createCache created caller =>
        obtain ⟨_, _, _, _, rfl, rfl, _⟩ := KeyFrame.exec_creates goes
        exact fits
    | authStore hash record =>
        obtain ⟨_, row, selected, rfl⟩ := KeyFrame.exec_loads goes
        exact shaped.loaded written (findBy_mem selected).1
    | _ => trivial

theorem exec [Driver] {hashKey : String → String} {input : Input} (shaped : store.KeysShaped)
    (written : store.pool.Written) (frame : Frame) (fits : frame.Shaped) :
    (frame.exec hashKey input store).store.KeysShaped ∧
      ∀ later, (frame.exec hashKey input store).next = .running later → later.Shaped := by
  cases frame with
  | key frame => exact shaped.keyFrame written frame fits
  | tenant frame =>
      refine ⟨shaped.of_same (frame.exec_local input store).keys, ?_⟩
      intro later arrives
      rcases TenantFrame.exec_next arrives with ⟨other, rfl⟩ | ⟨tenantId, info, rfl⟩
      · trivial
      · exact Role.fits_some (by decide)
  | origin frame =>
      refine ⟨shaped.of_same (frame.exec_local input store).keys, ?_⟩
      intro later arrives
      obtain ⟨other, rfl⟩ := OriginFrame.exec_next arrives
      trivial
  | dictionary frame =>
      refine ⟨shaped.of_same (frame.exec_local input store).keys, ?_⟩
      intro later arrives
      obtain ⟨other, rfl⟩ := DictionaryFrame.exec_next arrives
      trivial

theorem reopened [Driver] {hashKey : String → String} {now : Clock} {input : Input}
    {opened : Opened} (shaped : store.KeysShaped) (written : store.pool.Written)
    (success : Store.open hashKey now input store.pool = some opened) :
    opened.store.KeysShaped := by
  have reloaded : (Store.reload store.pool).KeysShaped := by
    refine ⟨shaped.rows, ?_⟩
    intro hash record stored
    rw [Store.reload_keys_lookup] at stored
    obtain ⟨row, found, rfl⟩ := Option.map_eq_some_iff.mp stored
    exact shaped.loaded written (findBy_mem found).1
  rcases Store.open_cases success with rfl | ⟨inserted, accepted, rfl⟩
  · exact reloaded
  · exact (reloaded.insertRow accepted Role.platform_fits).insertRecord Role.platform_fits
      fun _ _ stored => stored

end Store.KeysShaped

structure World.KeysShaped [Driver] (world : World) : Prop where
  store : world.store.KeysShaped
  frames : ∀ ticket frame, world.calls.frameAt ticket = some frame → frame.Shaped

theorem World.KeysShaped.step [Driver] {hashKey : String → String} {world next : World}
    {event : Event} (shaped : world.KeysShaped) (written : world.store.pool.Written)
    (allowed : keysValidated world event = true)
    (taken : world.step hashKey event = some next) : next.KeysShaped := by
  constructor
  · rcases step_cases taken with ⟨ticket, op, rfl, free, rfl⟩ |
      ⟨ticket, input, frame, rfl, _, running, rfl⟩ |
      ⟨position, succeeds, task, rfl, _, rfl⟩ | ⟨now, input, opened, rfl, _, success, rfl⟩
    · exact shaped.store
    · exact (shaped.store.exec written frame (shaped.frames ticket frame running)).1
    · cases succeeds with
      | false => exact shaped.store
      | true =>
          cases task with
          | lastUsedAt id nowTs => exact shaped.store.changeRows rfl fun row => ⟨rfl, rfl⟩
          | requestCount tenantId newCount => exact shaped.store.of_same ⟨rfl, rfl, rfl⟩
    · exact shaped.store.reopened written success
  · intro ticket frame seen
    rcases frameAt_cases taken seen with before | ⟨op, rfl, rfl⟩ | ⟨input, old, _, running, goes, _⟩
    · exact shaped.frames ticket frame before
    · cases op with
      | createKey tenantId label role expiresAt =>
          exact Role.fits_some (of_decide_eq_true allowed)
      | _ => trivial
    · exact (shaped.store.exec written old (shaped.frames ticket old running)).2 frame goes

theorem World.reachable_keysShaped [Driver] {hashKey : String → String} {world : World}
    (reached : ReachableWhen hashKey (fun before event => keysValidated before event = true)
      world) : world.KeysShaped := by
  obtain ⟨events, run⟩ := reached
  have initial : World.blank.KeysShaped ∧ World.blank.store.pool.Written := by
    refine ⟨⟨⟨fun _ member => absurd member List.not_mem_nil, ?_⟩, ?_⟩, .empty⟩
    · intro hash record stored
      cases stored
    · intro ticket frame seen
      cases seen
  have preserved : ∀ before event after,
      (before.KeysShaped ∧ before.store.pool.Written) → keysValidated before event = true →
      World.step hashKey before event = some after →
      after.KeysShaped ∧ after.store.pool.Written := by
    intro before event after ⟨shaped, written⟩ allowed taken
    exact ⟨shaped.step written allowed taken, written.step taken⟩
  exact (run.invariant preserved initial).1

end SpellServer
