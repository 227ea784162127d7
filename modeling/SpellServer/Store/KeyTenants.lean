import SpellServer.Store.Mirrors

/-!
# The tenant of a cached key

Rows are never deleted and never change their tenant.  So a record that is in
the cache, or on its way there, has the tenant of the row with its id, in every
run.
-/

namespace SpellServer

open Library

/-- There is a row with this id, and it belongs to this tenant, or to none. -/
def Database.Places (database : Database) (id : String) (tenantId : Option String) : Prop :=
  ∃ row ∈ database.apiKeys, row.id = id ∧ row.tenantId = tenantId

namespace Database

variable {database pool : Database} {id : String} {tenantId other : Option String}

theorem Places.unique (places : database.Places id tenantId)
    (otherwise : database.Places id other) : tenantId = other := by
  obtain ⟨row, member, sameId, rfl⟩ := places
  obtain ⟨second, secondMember, secondId, rfl⟩ := otherwise
  rw [List.inj_on_of_nodup_map database.apiKeys_id_unique member secondMember
    (sameId.trans secondId.symm)]

theorem Places.insertApiKey {row : ApiKeyRow}
    (inserted : database.insertApiKey row = some pool) (places : database.Places id tenantId) :
    pool.Places id tenantId := by
  obtain ⟨_, apiKeys, _⟩ := insertApiKey_eq_some inserted
  obtain ⟨old, member, placed⟩ := places
  refine ⟨old, ?_, placed⟩
  rw [apiKeys]
  exact List.mem_append_left _ member

theorem places_inserted {row : ApiKeyRow} (inserted : database.insertApiKey row = some pool) :
    pool.Places row.id row.tenantId := by
  obtain ⟨_, apiKeys, _⟩ := insertApiKey_eq_some inserted
  refine ⟨row, ?_, rfl, rfl⟩
  rw [apiKeys]
  exact List.mem_append_right _ (List.mem_singleton.mpr rfl)

theorem Places.changeRows {target : String} {change : ApiKeyRow → ApiKeyRow}
    (changed : pool.apiKeys =
      database.apiKeys.map fun row => if row.id = target then change row else row)
    (keeps : ∀ row, (change row).id = row.id ∧ (change row).tenantId = row.tenantId)
    (places : database.Places id tenantId) : pool.Places id tenantId := by
  obtain ⟨row, member, sameId, sameTenant⟩ := places
  refine ⟨if row.id = target then change row else row, ?_, ?_⟩
  · rw [changed]
    exact List.mem_map_of_mem member
  · split
    · rw [(keeps row).1, (keeps row).2]
      exact ⟨sameId, sameTenant⟩
    · exact ⟨sameId, sameTenant⟩

theorem Places.writes [Driver] {hashKey : String → String} {input : Input} {frame : KeyFrame}
    (writes : frame.Writes hashKey input database pool) (places : database.Places id tenantId) :
    pool.Places id tenantId := by
  cases writes with
  | nothing => exact places
  | inserts inserted => exact places.insertApiKey inserted
  | revokes target keyHash => exact places.changeRows rfl fun row => ⟨rfl, rfl⟩
  | rekeys updated =>
      exact places.changeRows (updateKeyHash_eq_some updated).2.1 fun row => ⟨rfl, rfl⟩

theorem Written.places_loaded [Driver] (written : database.Written) {row : ApiKeyRow}
    (member : row ∈ database.apiKeys) :
    database.Places (keyRecordFromRow row).id (keyRecordFromRow row).tenantId :=
  ⟨row, member, rfl, (written.tenantId_loaded member).symm⟩

end Database

def Frame.Placed [Driver] (pool : Database) : Frame → Prop
  | .key (.createCache created _) => pool.Places created.record.id created.record.tenantId
  | .key (.authStore _ record) => pool.Places record.id record.tenantId
  | _ => True

theorem Frame.Placed.mono [Driver] {pool later : Database} {frame : Frame}
    (kept : ∀ id tenantId, pool.Places id tenantId → later.Places id tenantId)
    (placed : frame.Placed pool) : frame.Placed later := by
  cases frame with
  | key frame =>
      cases frame with
      | createCache created caller => exact kept _ _ placed
      | authStore hash record => exact kept _ _ placed
      | _ => trivial
  | tenant _ | origin _ | dictionary _ => trivial

/-- Every cached record has the tenant of the row with its id. -/
def Store.KeysPlaced (store : Store) : Prop :=
  ∀ hash record, store.keys.lookup hash = some record →
    store.pool.Places record.id record.tenantId

namespace Store.KeysPlaced

variable {store later : Store} {pool : Database}

theorem with_pool (placed : store.KeysPlaced)
    (kept : ∀ id tenantId, store.pool.Places id tenantId → pool.Places id tenantId) :
    ({ store with pool } : Store).KeysPlaced :=
  fun hash record stored => kept _ _ (placed hash record stored)

theorem insertRecord {hash : String} {record : KeyRecord} {keys : Dict String KeyRecord}
    (placed : store.KeysPlaced) (fits : store.pool.Places record.id record.tenantId)
    (fewer : ∀ hash record, keys.lookup hash = some record →
      store.keys.lookup hash = some record) :
    ({ store with keys := AList.insert hash record keys } : Store).KeysPlaced := by
  intro other found stored
  rw [Dict.lookup_insert_ite] at stored
  split at stored
  · cases stored
    exact fits
  · exact placed other found (fewer other found stored)

end Store.KeysPlaced

/-- What one action does to the rows, the cache and the call that takes it. -/
structure Outcome.KeepsPlaces [Driver] (store : Store) (outcome : Outcome) : Prop where
  rows : ∀ id tenantId, store.pool.Places id tenantId → outcome.store.pool.Places id tenantId
  cached : outcome.store.KeysPlaced
  goes : ∀ later, outcome.next = .running later → later.Placed outcome.store.pool

section Frames

variable [Driver] {hashKey : String → String} {input : Input} {store : Store}

theorem KeyFrame.keepsPlaces (written : store.pool.Written) (placed : store.KeysPlaced)
    (frame : KeyFrame) (fits : (Frame.key frame).Placed store.pool) :
    (frame.exec hashKey input store).KeepsPlaces store := by
  have kept : ∀ id tenantId, store.pool.Places id tenantId →
      (frame.exec hashKey input store).store.pool.Places id tenantId :=
    fun _ _ places => places.writes frame.exec_writes
  refine ⟨kept, ?_, ?_⟩
  · intro hash record found
    apply kept
    cases KeyFrame.exec_files found with
    | renewed stored renews =>
        rw [renews.id, renews.tenantId]
        exact placed _ _ stored
    | created created caller => exact fits
    | loaded hash record => exact fits
  · intro later goes
    obtain ⟨mine, rfl⟩ := KeyFrame.exec_next goes
    cases mine with
    | createCache created caller =>
        obtain ⟨_, _, _, _, rfl, rfl, inserted⟩ := KeyFrame.exec_creates goes
        exact Database.places_inserted inserted
    | authStore hash record =>
        obtain ⟨unchanged, row, selected, rfl⟩ := KeyFrame.exec_loads goes
        rw [unchanged]
        exact written.places_loaded (findBy_mem selected).1
    | _ => trivial

private theorem keepsPlaces_of_same {outcome : Outcome} (placed : store.KeysPlaced)
    (same : SameKeys store outcome.store)
    (goes : ∀ later, outcome.next = .running later → later.Placed outcome.store.pool) :
    outcome.KeepsPlaces store := by
  have kept : ∀ id tenantId, store.pool.Places id tenantId →
      outcome.store.pool.Places id tenantId := by
    intro id tenantId places
    unfold Database.Places
    rw [same.apiKeys]
    exact places
  refine ⟨kept, ?_, goes⟩
  intro hash record stored
  rw [same.keys] at stored
  exact kept _ _ (placed hash record stored)

theorem Frame.keepsPlaces (written : store.pool.Written) (placed : store.KeysPlaced)
    (frame : Frame) (fits : frame.Placed store.pool) :
    (frame.exec hashKey input store).KeepsPlaces store := by
  cases frame with
  | key frame => exact frame.keepsPlaces written placed fits
  | tenant frame =>
      refine keepsPlaces_of_same placed (frame.exec_local input store).keys ?_
      intro later goes
      rcases TenantFrame.exec_next goes with ⟨other, rfl⟩ | ⟨tenantId, info, rfl⟩ <;> trivial
  | origin frame =>
      refine keepsPlaces_of_same placed (frame.exec_local input store).keys ?_
      intro later goes
      obtain ⟨other, rfl⟩ := OriginFrame.exec_next goes
      trivial
  | dictionary frame =>
      refine keepsPlaces_of_same placed (frame.exec_local input store).keys ?_
      intro later goes
      obtain ⟨other, rfl⟩ := DictionaryFrame.exec_next goes
      trivial

end Frames

theorem Store.KeysPlaced.reopened [Driver] {hashKey : String → String} {now : Clock} {input : Input}
    {pool : Database} {opened : Opened} (written : pool.Written)
    (success : Store.open hashKey now input pool = some opened) : opened.store.KeysPlaced := by
  have reloaded : (Store.reload pool).KeysPlaced := by
    intro hash record stored
    rw [Store.reload_keys_lookup] at stored
    obtain ⟨row, found, rfl⟩ := Option.map_eq_some_iff.mp stored
    exact written.places_loaded (findBy_mem found).1
  rcases Store.open_cases success with rfl | ⟨inserted, accepted, rfl⟩
  · exact reloaded
  · have kept : ∀ id tenantId, pool.Places id tenantId → inserted.Places id tenantId :=
      fun _ _ places => places.insertApiKey accepted
    exact (reloaded.with_pool kept).insertRecord (Database.places_inserted accepted)
      fun _ _ stored => stored

structure World.KeysPlaced [Driver] (world : World) : Prop where
  store : world.store.KeysPlaced
  frames : ∀ ticket frame, world.calls.frameAt ticket = some frame →
    frame.Placed world.store.pool

/-- Whatever happens, a row stays and keeps its tenant. -/
theorem World.KeysPlaced.places_step [Driver] {hashKey : String → String} {world next : World}
    {event : Event} (placed : world.KeysPlaced) (written : world.store.pool.Written)
    (taken : world.step hashKey event = some next) {id : String} {tenantId : Option String}
    (places : world.store.pool.Places id tenantId) : next.store.pool.Places id tenantId := by
  rcases step_cases taken with ⟨ticket, op, rfl, free, rfl⟩ |
    ⟨ticket, input, frame, rfl, _, running, rfl⟩ |
    ⟨position, succeeds, task, rfl, _, rfl⟩ | ⟨now, input, opened, rfl, _, success, rfl⟩
  · exact places
  · have kept : (frame.exec hashKey input world.store).KeepsPlaces world.store :=
      frame.keepsPlaces written placed.store (placed.frames ticket frame running)
    exact kept.rows id tenantId places
  · cases succeeds with
    | false => exact places
    | true =>
        cases task with
        | lastUsedAt target nowTs => exact places.changeRows rfl fun row => ⟨rfl, rfl⟩
        | requestCount target newCount => exact places
  · rcases Store.open_cases success with rfl | ⟨inserted, accepted, rfl⟩
    · exact places
    · exact places.insertApiKey accepted

theorem World.KeysPlaced.step [Driver] {hashKey : String → String} {world next : World}
    {event : Event} (placed : world.KeysPlaced) (written : world.store.pool.Written)
    (taken : world.step hashKey event = some next) : next.KeysPlaced := by
  have kept : ∀ id tenantId, world.store.pool.Places id tenantId →
      next.store.pool.Places id tenantId :=
    fun _ _ places => placed.places_step written taken places
  constructor
  · rcases step_cases taken with ⟨ticket, op, rfl, free, rfl⟩ |
      ⟨ticket, input, frame, rfl, _, running, rfl⟩ |
      ⟨position, succeeds, task, rfl, _, rfl⟩ | ⟨now, input, opened, rfl, _, success, rfl⟩
    · exact placed.store
    · exact (frame.keepsPlaces written placed.store (placed.frames ticket frame running)).cached
    · exact placed.store.with_pool kept
    · exact Store.KeysPlaced.reopened written success
  · intro ticket frame seen
    rcases frameAt_cases taken seen with before | ⟨op, rfl, rfl⟩ | ⟨input, old, _, running, goes, rfl⟩
    · exact (placed.frames ticket frame before).mono kept
    · cases op <;> trivial
    · exact (old.keepsPlaces written placed.store (placed.frames ticket old running)).goes frame goes

theorem World.reachable_keysPlaced [Driver] {hashKey : String → String} {world : World}
    (reached : Reachable hashKey world) : world.store.KeysPlaced := by
  obtain ⟨events, run⟩ := reached
  have initial : World.blank.KeysPlaced ∧ World.blank.store.pool.Written := by
    refine ⟨⟨?_, ?_⟩, .empty⟩
    · intro hash record stored
      cases stored
    · intro ticket frame seen
      cases seen
  have preserved : ∀ before event after,
      (before.KeysPlaced ∧ before.store.pool.Written) → True →
      World.step hashKey before event = some after →
      after.KeysPlaced ∧ after.store.pool.Written := by
    intro before event after kept _ taken
    exact ⟨kept.1.step kept.2 taken, kept.2.step taken⟩
  exact (run.invariant preserved initial).1.store

end SpellServer
