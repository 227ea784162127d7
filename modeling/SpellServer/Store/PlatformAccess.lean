import SpellServer.Store.BootstrapKeys
import SpellServer.Store.KeyShapes
import SpellServer.Store.KeyTenants

/-!
# Platform access is never lost

The first start leaves an active platform key behind.  Its row never expires,
and nothing revokes it: a revocation looks for a key of a tenant, and the key
has none.  So no later start issues a bootstrap key again.
-/

namespace SpellServer

open Library

section

variable [Driver]

/-- The row of a key that gives access to the platform routes at all times. -/
structure ApiKeyRow.PlatformAccess (row : ApiKeyRow) : Prop where
  role : row.role = .platform
  unowned : row.tenantId = none
  lasting : row.expiresAt = none
  unrevoked : row.revokedAt = none

def Database.PlatformAccess (database : Database) : Prop :=
  ∃ row ∈ database.apiKeys, row.PlatformAccess

/-- A revocation past its lookup has found a key of some tenant. -/
def Frame.RevokesOwned (pool : Database) : Frame → Prop
  | .key (.revokeUpdate id _) => ∃ tenantId, pool.Places id (some tenantId)
  | _ => True

theorem KeyFrame.exec_revokes {hashKey : String → String} {input : Input} {store : Store}
    {frame : KeyFrame} {id keyHash : String}
    (goes : (frame.exec hashKey input store).next = .running (.key (.revokeUpdate id keyHash))) :
    (frame.exec hashKey input store).store = store ∧
      ∃ hash record tenantId, store.keys.lookup hash = some record ∧ record.id = id ∧
        record.tenantId = some tenantId := by
  cases frame with
  | revokeFind tenantId target =>
      simp only [exec, withKeys] at goes ⊢
      split at goes
      · cases goes
      · split at goes
        · rename_i hash record found
          cases goes
          obtain ⟨stored, owned⟩ := Dict.findEntry_eq_some found
          obtain ⟨sameId, owner⟩ := ownedBy_iff.mp owned
          refine ⟨?_, hash, record, tenantId, stored, sameId, owner⟩
          split <;> rfl
        · cases goes
  | _ =>
      simp only [exec, withKeys] at goes
      (repeat' split at goes) <;> cases goes

namespace Database.PlatformAccess

variable {hashKey : String → String} {database pool later : Database}

omit [Driver] in
theorem of_same (access : database.PlatformAccess) (apiKeys : pool.apiKeys = database.apiKeys) :
    pool.PlatformAccess := by
  unfold PlatformAccess
  rw [apiKeys]
  exact access

omit [Driver] in
theorem insertApiKey {row : ApiKeyRow} (access : database.PlatformAccess)
    (inserted : database.insertApiKey row = some pool) : pool.PlatformAccess := by
  obtain ⟨_, apiKeys, _⟩ := insertApiKey_eq_some inserted
  obtain ⟨old, member, gives⟩ := access
  refine ⟨old, ?_, gives⟩
  rw [apiKeys]
  exact List.mem_append_left _ member

omit [Driver] in
/-- An update of the columns that do not matter, or of the row of a tenant's key. -/
theorem changeRows {target : String} {change : ApiKeyRow → ApiKeyRow}
    (access : database.PlatformAccess)
    (changed : pool.apiKeys =
      database.apiKeys.map fun row => if row.id = target then change row else row)
    (keeps : ∀ row ∈ database.apiKeys, row.id = target → row.PlatformAccess →
      (change row).PlatformAccess) : pool.PlatformAccess := by
  obtain ⟨row, member, gives⟩ := access
  refine ⟨if row.id = target then change row else row, ?_, ?_⟩
  · rw [changed]
    exact List.mem_map_of_mem member
  · split
    · rename_i selected
      exact keeps row member selected gives
    · exact gives

theorem writes {input : Input} {frame : KeyFrame} (access : database.PlatformAccess)
    (owned : (Frame.key frame).RevokesOwned database)
    (writes : frame.Writes hashKey input database pool) : pool.PlatformAccess := by
  cases writes with
  | nothing => exact access
  | inserts inserted => exact access.insertApiKey inserted
  | revokes id keyHash =>
      apply access.changeRows rfl
      intro row member selected gives
      obtain ⟨tenantId, places⟩ := owned
      have unowned : database.Places id none := ⟨row, member, selected, gives.unowned⟩
      cases places.unique unowned
  | rekeys updated =>
      apply access.changeRows (updateKeyHash_eq_some updated).2.1
      intro row _ _ gives
      exact ⟨gives.role, gives.unowned, gives.lasting, gives.unrevoked⟩

/-- Whenever the caches are loaded, the key is among the active ones. -/
theorem active (access : database.PlatformAccess) (now : UInt64) :
    (Store.reload database).hasActivePlatformKey now = true := by
  obtain ⟨row, member, gives⟩ := access
  have selected : findBy ApiKeyRow.keyHash row.keyHash database.apiKeys = some row :=
    (findBy_eq_some_iff database.apiKeys_keyHash_unique).mpr ⟨member, rfl⟩
  have loaded : (Store.reload database).keys.lookup row.keyHash =
      some (keyRecordFromRow row) := by
    rw [Store.reload_keys_lookup, selected]
    rfl
  have listed : keyRecordFromRow row ∈ (Store.reload database).keys.values :=
    Dict.mem_values_iff.mpr ⟨row.keyHash, loaded⟩
  apply List.any_eq_true.mpr
  refine ⟨keyRecordFromRow row, listed, ?_⟩
  simp [keyRecordFromRow, KeyRecord.isActive, gives.role, gives.lasting, gives.unrevoked]

/-- A start with access to the platform loads the caches and issues no key. -/
theorem open_eq (access : database.PlatformAccess) (now : Clock) (input : Input) :
    Store.open hashKey now input database =
      some { store := Store.reload database, bootstrap := none } := by
  simp [Store.open, access.active now.seconds]

end Database.PlatformAccess

/-- A start either finds access or creates it. -/
theorem Store.open_platformAccess {hashKey : String → String} {now : Clock} {input : Input}
    {store : Store} {opened : Opened} (shaped : store.KeysShaped) (written : store.pool.Written)
    (lasts : store.pool.PlatformKeysLast)
    (success : Store.open hashKey now input store.pool = some opened) :
    opened.store.pool.PlatformAccess := by
  by_cases found : (Store.reload store.pool).hasActivePlatformKey now.seconds = true
  · have reopened : opened.store.pool = store.pool := by
      simp only [Store.open, found, if_true, Option.some.injEq] at success
      rw [← success]
      rfl
    obtain ⟨record, listed, active⟩ := List.any_eq_true.mp found
    obtain ⟨hash, loaded⟩ := Dict.mem_values_iff.mp listed
    rw [Store.reload_keys_lookup] at loaded
    obtain ⟨row, selected, rfl⟩ := Option.map_eq_some_iff.mp loaded
    obtain ⟨member, _⟩ := findBy_mem selected
    rw [Bool.and_eq_true, decide_eq_true_eq] at active
    obtain ⟨role, active⟩ := active
    have unowned : row.tenantId = none := (shaped.rows row member).mpr role
    have unrevoked : row.revokedAt = none := by
      cases column : row.revokedAt with
      | none => rfl
      | some stamp =>
          have stamped := written.revoked row member (by rw [column]; rfl)
          have read : readNullable row.revokedAt = none :=
            ((KeyRecord.isActive_iff _ _).mp active).1
          rw [read] at stamped
          cases stamped
    rw [reopened]
    exact ⟨row, member, role, unowned, lasts row member unowned, unrevoked⟩
  · rcases Store.open_cases success with rfl | ⟨inserted, accepted, rfl⟩
    · simp [Store.open, found] at success
    · obtain ⟨_, apiKeys, _⟩ := Database.insertApiKey_eq_some accepted
      refine ⟨newApiKeyRow (newApiKey hashKey input none "bootstrap" .platform none).record, ?_,
        rfl, rfl, rfl, rfl⟩
      rw [apiKeys]
      exact List.mem_append_right _ (List.mem_singleton.mpr rfl)

/-! ## Runs -/

/-- What keeps the platform's rows out of reach of revocations. -/
structure World.RevokesOwned (world : World) : Prop where
  written : world.store.pool.Written
  placed : world.KeysPlaced
  frames : ∀ ticket frame, world.calls.frameAt ticket = some frame →
    frame.RevokesOwned world.store.pool

namespace World

variable {hashKey : String → String} {world next : World} {event : Event}

theorem blank_revokesOwned : blank.RevokesOwned := by
  refine ⟨.empty, ⟨?_, ?_⟩, ?_⟩
  · intro hash record stored
    cases stored
  · intro ticket frame seen
    cases seen
  · intro ticket frame seen
    cases seen

theorem RevokesOwned.step (owned : world.RevokesOwned)
    (taken : world.step hashKey event = some next) : next.RevokesOwned := by
  refine ⟨owned.written.step taken, owned.placed.step owned.written taken, ?_⟩
  have kept : ∀ {id tenantId}, world.store.pool.Places id tenantId →
      next.store.pool.Places id tenantId :=
    owned.placed.places_step owned.written taken
  intro ticket frame seen
  rcases frameAt_cases taken seen with before | ⟨op, rfl, rfl⟩ | ⟨input, old, _, running, goes, rfl⟩
  · have already := owned.frames ticket frame before
    cases frame with
    | key frame =>
        cases frame with
        | revokeUpdate id keyHash =>
            obtain ⟨tenantId, places⟩ := already
            exact ⟨tenantId, kept places⟩
        | _ => trivial
    | tenant _ | origin _ | dictionary _ => trivial
  · cases op <;> trivial
  · cases frame with
    | key frame =>
        cases frame with
        | revokeUpdate id keyHash =>
            cases old with
            | key old =>
                obtain ⟨_, hash, record, tenantId, stored, sameId, owner⟩ :=
                  KeyFrame.exec_revokes goes
                have places := owned.placed.store hash record stored
                rw [sameId, owner] at places
                exact ⟨tenantId, kept places⟩
            | tenant old =>
                rcases TenantFrame.exec_next goes with ⟨_, moved⟩ | ⟨_, _, moved⟩ <;> cases moved
            | origin old =>
                obtain ⟨_, moved⟩ := OriginFrame.exec_next goes
                cases moved
            | dictionary old =>
                obtain ⟨_, moved⟩ := DictionaryFrame.exec_next goes
                cases moved
        | _ => trivial
    | tenant _ | origin _ | dictionary _ => trivial

theorem platformAccess_step (owned : world.RevokesOwned)
    (access : world.store.pool.PlatformAccess)
    (taken : world.step hashKey event = some next) : next.store.pool.PlatformAccess := by
  rcases step_cases taken with ⟨ticket, op, rfl, free, rfl⟩ |
    ⟨ticket, input, frame, rfl, _, running, rfl⟩ |
    ⟨position, succeeds, task, rfl, _, rfl⟩ | ⟨now, input, opened, rfl, _, success, rfl⟩
  · exact access
  · have allowed := owned.frames ticket frame running
    cases frame with
    | key frame => exact access.writes allowed frame.exec_writes
    | tenant frame => exact access.of_same (frame.exec_local input world.store).keys.apiKeys
    | origin frame => exact access.of_same (frame.exec_local input world.store).keys.apiKeys
    | dictionary frame => exact access.of_same (frame.exec_local input world.store).keys.apiKeys
  · cases succeeds with
    | false => exact access
    | true =>
        cases task with
        | lastUsedAt id nowTs =>
            apply access.changeRows rfl
            intro row _ _ gives
            exact ⟨gives.role, gives.unowned, gives.lasting, gives.unrevoked⟩
        | requestCount tenantId newCount => exact access.of_same rfl
  · rw [access.open_eq] at success
    cases success
    exact access

end World

/-- From the first start on, whatever runs and wherever the process stops, the
database holds a platform key that is active at every time, and every later start
finds it and issues no bootstrap key. -/
theorem platform_access_lasts {hashKey : String → String} {start started finish : World}
    {now : Clock} {input : Input} {events : List Event}
    (reached : World.ReachableWhen hashKey
      (fun before event => keysValidated before event = true) start)
    (starts : start.step hashKey (.restart now input) = some started)
    (run : World.RunWhen hashKey (fun _ _ => True) started events finish) :
    (∃ row ∈ finish.store.pool.apiKeys, row.PlatformAccess) ∧
      (∀ time, (Store.reload finish.store.pool).hasActivePlatformKey time = true) ∧
      ∀ later input, Store.open hashKey later input finish.store.pool =
        some { store := Store.reload finish.store.pool, bootstrap := none } := by
  have plain : World.Reachable hashKey start := reached.reachable
  obtain ⟨events, before⟩ := plain
  have owned : start.RevokesOwned :=
    before.invariant (fun _ _ _ owned _ taken => owned.step taken) World.blank_revokesOwned
  have access : started.store.pool.PlatformAccess := by
    rcases World.step_cases starts with ⟨_, _, other, _⟩ | ⟨_, _, _, other, _⟩ |
      ⟨_, _, _, other, _⟩ | ⟨_, _, opened, same, _, success, rfl⟩
    · cases other
    · cases other
    · cases other
    · exact Store.open_platformAccess (World.reachable_keysShaped reached).store owned.written
        (World.reachable_platformKeysLast reached.reachable) success
  have preserved : ∀ before event after,
      (before.RevokesOwned ∧ before.store.pool.PlatformAccess) → True →
      World.step hashKey before event = some after →
      after.RevokesOwned ∧ after.store.pool.PlatformAccess := by
    intro before event after ⟨owned, access⟩ _ taken
    exact ⟨owned.step taken, World.platformAccess_step owned access taken⟩
  have final := (run.invariant preserved ⟨owned.step starts, access⟩).2
  exact ⟨final, final.active, final.open_eq⟩

end

open scoped DefaultBackend

/-- The key is rotated by a command-line reset and the server is started twice more. -/
theorem platform_access_lasts_after_reset :
    ∃ finish, World.Reachable sampleHash finish ∧
      finish.store.pool.apiKeys.map ApiKeyRow.keyHash = [sampleHash (sampleKey 1)] ∧
      ∃ row ∈ finish.store.pool.apiKeys, row.PlatformAccess := by
  obtain ⟨started, finish, first, second, outcome⟩ :=
    World.exists_runs sampleHash keysValidated (fun _ _ => true)
      [.restart (sampleInput 0 0).now (sampleInput 0 0)]
      [.call 0 .resetBootstrapPlatformKey, .act 0 (sampleInput 1 4), .act 0 (sampleInput 1 1),
        .act 0 (sampleInput 1 4), .restart (sampleInput 2 2).now (sampleInput 2 2),
        .restart (sampleInput 2 2).now (sampleInput 2 2)]
      (fun _ finish => decide (finish.store.pool.apiKeys.map ApiKeyRow.keyHash =
        [sampleHash (sampleKey 1)]))
      (by decide +kernel)
  have starts := first.of_singleton
  have later : World.RunWhen sampleHash (fun _ _ => True) started _ finish :=
    second.weaken fun _ _ _ => trivial
  refine ⟨finish, ⟨_, (first.weaken fun _ _ _ => trivial).append later⟩,
    of_decide_eq_true outcome, ?_⟩
  exact (platform_access_lasts ⟨[], .nil _⟩ starts later).1

end SpellServer
