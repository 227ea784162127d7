import SpellServer.Store.KeyGrants
import SpellServer.Store.KeyOwnership

/-!
# A key that nobody touches

Rotations move entries, revocations mark them and authentications reload them,
each in several steps.  None of this reaches a key of a tenant that no call
revokes or rotates in the tenant's name: once `create_key` has returned it, the
cache has an active entry under its hash in every later state.
-/

namespace SpellServer

open Library

variable [Driver]

/-- The operations that change the key, if the tenant holds it. -/
def Op.rewrites (tenantId id : String) : Op → Bool
  | .revokeKey tenant target | .rotateKey tenant target => tenant = tenantId && target = id
  | _ => false

def Event.rewrites (tenantId id : String) : Event → Bool
  | .call _ op => op.rewrites tenantId id
  | _ => false

/-- The id belongs to another tenant, or to none. -/
def Database.Elsewhere (database : Database) (tenantId id : String) : Prop :=
  ∃ grant ∈ database.keyGrants, grant.id = id ∧ grant.tenantId ≠ some tenantId

/-- A frame that does not change the tenant's key. -/
def Frame.Spares (tenantId id : String) (pool : Database) : Frame → Prop
  | .key (.revokeFind asking target) | .key (.rotateFind asking target) =>
      ¬(asking = tenantId ∧ target = id)
  | .key (.revokeUpdate target _) | .key (.revokeMark target _ _)
  | .key (.rotateUpdate _ target _) | .key (.rotateRekey _ _ _ target _) =>
      target = id → pool.Elsewhere tenantId id
  | .key (.createCache created _) => created.record.revokedAt = none
  | _ => True

namespace Database

variable {hashKey : String → String} {database later : Database} {tenantId id : String}

omit [Driver] in
theorem Elsewhere.mono (elsewhere : database.Elsewhere tenantId id)
    (kept : database.keyGrants ⊆ later.keyGrants) : later.Elsewhere tenantId id := by
  obtain ⟨grant, member, named⟩ := elsewhere
  exact ⟨grant, kept member, named⟩

theorem Elsewhere.not_backs {record : KeyRecord} (elsewhere : database.Elsewhere tenantId id)
    (backs : database.Backs record) (named : record.id = id) :
    record.tenantId ≠ some tenantId := by
  obtain ⟨grant, member, grantId, other⟩ := elsewhere
  obtain ⟨mine, mineMember, carries⟩ := backs
  have same : mine = grant := by
    apply database.keyGrants_unique mineMember member
    rw [← carries.id, named, grantId]
  rw [carries.tenantId, same]
  exact other

omit [Driver] in
theorem Elsewhere.not_row {row : ApiKeyRow} (elsewhere : database.Elsewhere tenantId id)
    (member : row ∈ database.apiKeys) (named : row.id = id) : row.tenantId ≠ some tenantId := by
  obtain ⟨grant, grantMember, grantId, other⟩ := elsewhere
  have same : row.grant = grant :=
    database.keyGrants_unique (List.mem_map_of_mem member) grantMember (named.trans grantId.symm)
  rw [← same] at other
  exact other

theorem Backs.elsewhere {record : KeyRecord} (backs : database.Backs record)
    (named : record.id = id) (other : record.tenantId ≠ some tenantId) :
    database.Elsewhere tenantId id := by
  obtain ⟨grant, member, carries⟩ := backs
  refine ⟨grant, member, carries.id.symm.trans named, ?_⟩
  rw [← carries.tenantId]
  exact other

end Database

theorem Frame.Spares.mono {tenantId id : String} {pool later : Database} {frame : Frame}
    (spares : frame.Spares tenantId id pool) (kept : pool.keyGrants ⊆ later.keyGrants) :
    frame.Spares tenantId id later := by
  cases frame with
  | key frame =>
      cases frame with
      | revokeUpdate target keyHash => exact fun same => (spares same).mono kept
      | revokeMark target keyHash revokedAt => exact fun same => (spares same).mono kept
      | rotateUpdate oldHash target caller => exact fun same => (spares same).mono kept
      | rotateRekey oldHash newHash rawKey target caller =>
          exact fun same => (spares same).mono kept
      | _ => exact spares
  | tenant _ | origin _ | dictionary _ => trivial

theorem Op.spares_entry {tenantId id : String} {op : Op} (spared : op.rewrites tenantId id = false)
    (pool : Database) : op.entry.Spares tenantId id pool := by
  cases op with
  | revokeKey tenant target | rotateKey tenant target =>
      intro named
      simp [Op.rewrites, named] at spared
  | _ => trivial

/-! ## One action -/

namespace KeyFrame

variable {hashKey : String → String} {input : Input} {store : Store} {tenantId id : String}

/-- A call that finds a key of the tenant has asked in the tenant's name. -/
theorem spares_exec {frame later : KeyFrame} (backed : store.KeysBacked)
    (spares : (Frame.key frame).Spares tenantId id store.pool)
    (goes : (frame.exec hashKey input store).next = .running (.key later)) :
    (Frame.key later).Spares tenantId id (frame.exec hashKey input store).store.pool := by
  have kept : store.pool.keyGrants ⊆ (frame.exec hashKey input store).store.pool.keyGrants :=
    Database.keyGrants_writes frame.exec_writes
  cases frame with
  | createInsert tenant label role expiresAt caller =>
      simp only [exec] at goes
      split at goes <;> cases goes
      rfl
  | revokeFind tenant target | rotateFind tenant target =>
      refine Frame.Spares.mono ?_ kept
      simp only [exec, withKeys] at goes
      split at goes
      · cases goes
      · split at goes <;> cases goes
        rename_i hash record found
        intro same
        obtain ⟨stored, owned⟩ := Dict.findEntry_eq_some found
        obtain ⟨sameId, owner⟩ := ownedBy_iff.mp owned
        apply (backed hash record stored).elsewhere (sameId.trans same)
        intro mine
        apply spares
        exact ⟨Option.some.inj (owner.symm.trans mine), same⟩
  | resetFind =>
      refine Frame.Spares.mono ?_ kept
      simp only [exec, withKeys] at goes
      split at goes
      · cases goes
      · split at goes <;> cases goes
        · trivial
        · rename_i record single
          intro same
          have listed : record ∈ store.keys.values.filter (isBootstrap input.now.seconds) := by
            rw [single]
            exact List.mem_singleton.mpr rfl
          obtain ⟨member, bootstrap⟩ := List.mem_filter.mp listed
          obtain ⟨hash, stored⟩ := Dict.mem_values_iff.mp member
          have unowned : record.tenantId = none := by
            simp only [isBootstrap, Bool.and_eq_true, Option.isNone_iff_eq_none] at bootstrap
            exact bootstrap.1.2
          apply (backed hash record stored).elsewhere same
          rw [unowned]
          exact Option.some_ne_none tenantId |>.symm
  | revokeUpdate target keyHash =>
      refine Frame.Spares.mono ?_ kept
      simp only [exec] at goes
      split at goes <;> cases goes
      exact spares
  | rotateUpdate oldHash target caller =>
      refine Frame.Spares.mono ?_ kept
      simp only [exec] at goes
      split at goes <;> cases goes
      exact spares
  | _ =>
      simp only [exec, withKeys] at goes
      (repeat' split at goes) <;> cases goes <;> trivial

omit [Driver] in
private theorem row_unchanged {pool later : Database} {target : String}
    {change : ApiKeyRow → ApiKeyRow} {row : ApiKeyRow}
    (spares : target = id → pool.Elsewhere tenantId id)
    (changed : later.apiKeys =
      pool.apiKeys.map fun row => if row.id = target then change row else row)
    (keeps : ∀ row, (change row).grant = row.grant) (member : row ∈ later.apiKeys)
    (named : row.id = id) (owner : row.tenantId = some tenantId) : row ∈ pool.apiKeys := by
  rw [changed] at member
  obtain ⟨old, oldMember, rfl⟩ := List.mem_map.mp member
  by_cases here : old.id = target
  · rw [if_pos here] at named owner
    have sameId : (change old).id = old.id := congrArg KeyGrant.id (keeps old)
    have sameTenant : (change old).tenantId = old.tenantId := congrArg KeyGrant.tenantId (keeps old)
    have mine : old.id = id := sameId.symm.trans named
    exact absurd (sameTenant.symm.trans owner)
      ((spares (here.symm.trans mine)).not_row oldMember mine)
  · rw [if_neg here]
    exact oldMember

/-- A row of the tenant's key was there before, or is a new one. -/
theorem row_before {frame : KeyFrame} {pool later : Database} {row : ApiKeyRow}
    (spares : (Frame.key frame).Spares tenantId id pool)
    (writes : frame.Writes hashKey input pool later) (member : row ∈ later.apiKeys)
    (named : row.id = id) (owner : row.tenantId = some tenantId) :
    row ∈ pool.apiKeys ∨ (id ∉ pool.keyIds ∧ row.revokedAt = none ∧
      row.keyHash = hashKey input.rawKey) := by
  cases writes with
  | nothing => exact Or.inl member
  | inserts inserted =>
      obtain ⟨⟨fresh, _⟩, apiKeys, _⟩ := Database.insertApiKey_eq_some inserted
      rw [apiKeys, List.mem_append, List.mem_singleton] at member
      rcases member with old | rfl
      · exact Or.inl old
      · right
        rw [← named]
        exact ⟨fresh, rfl, rfl⟩
  | revokes target keyHash =>
      left
      refine row_unchanged spares rfl ?_ member named owner
      exact fun _ => rfl
  | rekeys updated =>
      have changed := (Database.updateKeyHash_eq_some updated).2.1
      exact Or.inl (row_unchanged spares changed (fun _ => rfl) member named owner)

/-- A raw key is generated for a new row, or by a rotation. -/
theorem issued_for {frame : KeyFrame} {pool later : Database} {issued : List (String × String)}
    {rawKey : String} (issues : frame.Issues hashKey input pool later issued)
    (member : (id, rawKey) ∈ issued) :
    rawKey = input.rawKey ∧
      (id ∉ pool.keyIds ∨ ∃ oldHash caller, frame = .rotateUpdate oldHash id caller) := by
  cases issues with
  | nothing writes => cases member
  | inserts inserted =>
      cases List.mem_singleton.mp member
      obtain ⟨⟨fresh, _⟩, _⟩ := Database.insertApiKey_eq_some inserted
      exact ⟨rfl, Or.inl fresh⟩
  | rekeys updated =>
      cases List.mem_singleton.mp member
      exact ⟨rfl, Or.inr ⟨_, _, rfl⟩⟩

end KeyFrame

/-- The row of the tenant's key has its first hash, and no entry of it is revoked. -/
structure World.Untouched (hashKey : String → String) (tenantId id : String) (world : World) :
    Prop where
  frames : ∀ ticket frame, world.calls.frameAt ticket = some frame →
    frame.Spares tenantId id world.store.pool
  row : ∀ row ∈ world.store.pool.apiKeys, row.id = id → row.tenantId = some tenantId →
    row.revokedAt = none ∧ ∀ rawKey, (id, rawKey) ∈ world.issued → hashKey rawKey = row.keyHash
  cached : ∀ hash record, world.store.keys.lookup hash = some record → record.id = id →
    record.tenantId = some tenantId → record.revokedAt = none

namespace World.Untouched

variable {hashKey : String → String} {tenantId id : String} {world : World} {ticket : ℕ}
  {frame : KeyFrame} {input : Input}

/-- The row after an action of a call on the keys. -/
theorem row_acted (untouched : world.Untouched hashKey tenantId id)
    (owned : KeysOwned hashKey world)
    (running : world.calls.frameAt ticket = some (.key frame)) {row : ApiKeyRow}
    (member : row ∈ (frame.exec hashKey input world.store).store.pool.apiKeys)
    (named : row.id = id) (owner : row.tenantId = some tenantId) :
    row.revokedAt = none ∧
      ∀ rawKey, (id, rawKey) ∈ (world.acted ticket (frame.exec hashKey input world.store)).issued →
        hashKey rawKey = row.keyHash := by
  have spares := untouched.frames ticket _ running
  have issues : frame.Issues hashKey input world.store.pool _ _ := frame.exec_issues
  rcases KeyFrame.row_before spares frame.exec_writes member named owner with
    old | ⟨fresh, unrevoked, hashed⟩
  · obtain ⟨unrevoked, hashes⟩ := untouched.row row old named owner
    refine ⟨unrevoked, ?_⟩
    intro rawKey issued
    rcases List.mem_append.mp issued with before | now
    · exact hashes rawKey before
    · exfalso
      rcases (KeyFrame.issued_for issues now).2 with fresh | ⟨oldHash, caller, rfl⟩
      · apply fresh
        rw [← named]
        exact List.mem_map_of_mem old
      · exact (spares rfl).not_row old named owner
  · refine ⟨unrevoked, ?_⟩
    intro rawKey issued
    rcases List.mem_append.mp issued with before | now
    · exact absurd (owned.known before) fresh
    · rw [(KeyFrame.issued_for issues now).1, hashed]

/-- A frame that holds the hash of an entry holds its id as well. -/
theorem id_of_held (owned : KeysOwned hashKey world) (injective : Function.Injective hashKey)
    (running : world.calls.frameAt ticket = some (.key frame)) {hash target : String}
    {record : KeyRecord} (holds : (hash, target) ∈ frame.holds)
    (stored : world.store.keys.lookup hash = some record) : record.id = target :=
  owned.unique injective (owned.cached stored).2
    (owned.held (World.keyAt_of_frameAt running) holds)

theorem cached_acted (untouched : world.Untouched hashKey tenantId id)
    (owned : KeysOwned hashKey world) (injective : Function.Injective hashKey)
    (backed : world.store.KeysBacked)
    (running : world.calls.frameAt ticket = some (.key frame)) {hash : String}
    {record : KeyRecord}
    (found : (frame.exec hashKey input world.store).store.keys.lookup hash = some record)
    (named : record.id = id) (owner : record.tenantId = some tenantId) :
    record.revokedAt = none := by
  have spares := untouched.frames ticket _ running
  cases KeyFrame.exec_leaves found with
  | kept stored => exact untouched.cached _ _ stored named owner
  | revoked target revokedAt stored =>
      have mine := id_of_held owned injective running (List.mem_singleton.mpr rfl) stored
      have other := (spares (mine.symm.trans named)).not_backs (backed _ _ stored) named
      exact absurd owner other
  | touched target nowTs stored =>
      have unrevoked := untouched.cached _ _ stored named owner
      exact unrevoked
  | rekeyed newHash rawKey target caller stored =>
      have unrevoked := untouched.cached _ _ stored named owner
      exact unrevoked
  | created created caller => exact spares
  | loaded wanted loaded => exact (owned.loaded (World.keyAt_of_frameAt running)).2

/-- Every raw key of the tenant's key has the hash of its row. -/
theorem same_hash (untouched : world.Untouched hashKey tenantId id)
    (owned : KeysOwned hashKey world) (backed : world.store.KeysBacked) {hash other : String}
    {record : KeyRecord} (stored : world.store.keys.lookup hash = some record)
    (named : record.id = id) (owner : record.tenantId = some tenantId)
    (issued : world.Issued hashKey other id) : hash = other := by
  obtain ⟨grant, member, carries⟩ := backed hash record stored
  obtain ⟨row, rowMember, rfl⟩ := List.mem_map.mp member
  have hashes := (untouched.row row rowMember (carries.id.symm.trans named)
    (carries.tenantId.symm.trans owner)).2
  have mine := (owned.cached stored).2
  rw [named] at mine
  obtain ⟨rawKey, member, rfl⟩ := mine
  obtain ⟨otherRaw, otherMember, rfl⟩ := issued
  rw [hashes rawKey member, hashes otherRaw otherMember]

/-- The entry of the tenant's key stays under its hash, perhaps replaced by one
loaded from its row. -/
theorem caches_acted (untouched : world.Untouched hashKey tenantId id)
    (owned : KeysOwned hashKey world) (injective : Function.Injective hashKey)
    (backed : world.store.KeysBacked)
    (running : world.calls.frameAt ticket = some (.key frame)) {hash : String}
    {record : KeyRecord} (stored : world.store.keys.lookup hash = some record)
    (named : record.id = id) (owner : record.tenantId = some tenantId) :
    ∃ later, (frame.exec hashKey input world.store).store.keys.lookup hash = some later ∧
      later.id = id := by
  have spares := untouched.frames ticket _ running
  have held : ∀ {target}, (hash, target) ∈ frame.holds → target = id := by
    intro target holds
    rw [← named]
    exact (id_of_held owned injective running holds stored).symm
  have elsewhere : ¬world.store.pool.Elsewhere tenantId id :=
    fun elsewhere => elsewhere.not_backs (backed _ _ stored) named owner
  cases frame with
  | createCache created caller =>
      simp only [KeyFrame.exec, KeyFrame.withKeys]
      split
      · exact ⟨record, stored, named⟩
      · simp only [Outcome.finish_store, Dict.lookup_insert_ite]
        split
        · rename_i here
          apply Exists.intro created.record
          refine ⟨rfl, held ?_⟩
          rw [here]
          exact List.mem_singleton.mpr rfl
        · exact ⟨record, stored, named⟩
  | revokeMark target keyHash revokedAt | touchMark target keyHash nowTs =>
      simp only [KeyFrame.exec, KeyFrame.withKeys]
      split
      · exact ⟨record, stored, named⟩
      · simp only [Outcome.finish_store, Dict.lookup_modify]
        split
        · rename_i here
          rw [← here, stored]
          exact ⟨_, rfl, named⟩
        · exact ⟨record, stored, named⟩
  | rotateRekey oldHash newHash rawKey target caller =>
      have other : target ≠ id := fun same => elsewhere (spares same)
      have notOld : hash ≠ oldHash := by
        intro same
        apply other
        apply held
        rw [same]
        exact List.mem_cons_self
      have notNew : hash ≠ newHash := by
        intro same
        apply other
        apply held
        rw [same]
        exact List.mem_cons_of_mem _ (List.mem_singleton.mpr rfl)
      simp only [KeyFrame.exec, KeyFrame.withKeys]
      split
      · exact ⟨record, stored, named⟩
      · split
        · exact ⟨record, stored, named⟩
        · simp only [Outcome.finish_store, Dict.lookup_insert_ite, if_neg notNew]
          refine ⟨record, ?_, named⟩
          rw [AList.lookup_erase_ne notOld]
          exact stored
  | authStore wanted loaded =>
      simp only [KeyFrame.exec, KeyFrame.withKeys]
      split
      · exact ⟨record, stored, named⟩
      · simp only [Outcome.finish_store, Dict.lookup_insert_ite]
        split
        · rename_i here
          refine ⟨loaded, rfl, held ?_⟩
          rw [here]
          exact List.mem_singleton.mpr rfl
        · rename_i different
          have other : record.id ≠ loaded.id := by
            intro same
            apply different
            apply untouched.same_hash owned backed stored named owner
            rw [← named, same]
            exact owned.held (World.keyAt_of_frameAt running) (List.mem_singleton.mpr rfl)
          refine ⟨record, ?_, named⟩
          rw [Dict.lookup_retain, stored]
          simp [Option.filter, other]
  | _ =>
      simp only [KeyFrame.exec, KeyFrame.withKeys]
      (repeat' split) <;> exact ⟨record, stored, named⟩

/-! ## One event -/

variable {next : World} {event : Event}

theorem frames_step (untouched : world.Untouched hashKey tenantId id)
    (backed : world.store.KeysBacked) (spared : event.rewrites tenantId id = false)
    (taken : world.step hashKey event = some next) {frame : Frame}
    (seen : next.calls.frameAt ticket = some frame) : frame.Spares tenantId id next.store.pool := by
  rcases frameAt_cases taken seen with before | ⟨op, rfl, rfl⟩ | ⟨input, old, _, running, goes, rfl⟩
  · exact (untouched.frames ticket frame before).mono (keyGrants_step taken)
  · exact Op.spares_entry spared _
  · have spares := untouched.frames ticket old running
    cases old with
    | key old =>
        obtain ⟨mine, rfl⟩ := KeyFrame.exec_next goes
        exact KeyFrame.spares_exec backed spares goes
    | tenant old =>
        rcases TenantFrame.exec_next goes with ⟨other, rfl⟩ | ⟨_, _, rfl⟩ <;> trivial
    | origin old =>
        obtain ⟨other, rfl⟩ := OriginFrame.exec_next goes
        trivial
    | dictionary old =>
        obtain ⟨other, rfl⟩ := DictionaryFrame.exec_next goes
        trivial

theorem row_step (untouched : world.Untouched hashKey tenantId id)
    (owned : KeysOwned hashKey world) (taken : world.step hashKey event = some next)
    {row : ApiKeyRow} (member : row ∈ next.store.pool.apiKeys) (named : row.id = id)
    (owner : row.tenantId = some tenantId) :
    row.revokedAt = none ∧ ∀ rawKey, (id, rawKey) ∈ next.issued → hashKey rawKey = row.keyHash := by
  rcases key_cases taken with ⟨same, _, issued, _⟩ |
    ⟨ticket, input, frame, rfl, _, running, rfl⟩ |
    ⟨target, nowTs, _, pool, _, _, _, issued, _⟩ | ⟨now, input, opened, rfl, _, success, rfl⟩
  · rw [same.apiKeys] at member
    rw [issued]
    exact untouched.row row member named owner
  · exact untouched.row_acted owned running member named owner
  · rw [pool] at member
    obtain ⟨old, oldMember, rfl⟩ := List.mem_map.mp member
    rw [issued]
    by_cases here : old.id = target
    · rw [if_pos here] at named owner ⊢
      exact untouched.row old oldMember named owner
    · rw [if_neg here] at named owner ⊢
      exact untouched.row old oldMember named owner
  · rcases Store.open_cases success with rfl | ⟨inserted, accepted, rfl⟩
    · obtain ⟨unrevoked, hashes⟩ := untouched.row row member named owner
      refine ⟨unrevoked, ?_⟩
      intro rawKey issued
      apply hashes
      simpa [Opened.issued] using issued
    · obtain ⟨⟨fresh, _⟩, apiKeys, _⟩ := Database.insertApiKey_eq_some accepted
      rw [apiKeys, List.mem_append, List.mem_singleton] at member
      rcases member with old | rfl
      · obtain ⟨unrevoked, hashes⟩ := untouched.row row old named owner
        refine ⟨unrevoked, ?_⟩
        intro rawKey issued
        rcases List.mem_append.mp issued with before | now
        · exact hashes rawKey before
        · cases List.mem_singleton.mp now
          exact absurd (List.mem_map.mpr ⟨row, old, named⟩) fresh
      · cases owner

theorem cached_step (untouched : world.Untouched hashKey tenantId id)
    (owned : KeysOwned hashKey world) (injective : Function.Injective hashKey)
    (backed : KeysBacked hashKey world) (taken : world.step hashKey event = some next)
    {hash : String} {record : KeyRecord} (found : next.store.keys.lookup hash = some record)
    (named : record.id = id) (owner : record.tenantId = some tenantId) :
    record.revokedAt = none := by
  have loaded : ∀ record, (Store.reload world.store.pool).keys.lookup hash = some record →
      record.id = id → record.tenantId = some tenantId → record.revokedAt = none := by
    intro record found named owner
    rw [Store.reload_keys_lookup] at found
    obtain ⟨row, selected, rfl⟩ := Option.map_eq_some_iff.mp found
    obtain ⟨member, _⟩ := findBy_mem selected
    rw [backed.written.tenantId_loaded member] at owner
    have unrevoked := (untouched.row row member named owner).1
    change readNullable row.revokedAt = none
    rw [unrevoked, readNullable_none]
  rcases key_cases taken with ⟨same, _, _, _⟩ |
    ⟨ticket, input, frame, rfl, _, running, rfl⟩ |
    ⟨target, nowTs, _, _, keys, _, _, _, _⟩ | ⟨now, input, opened, rfl, _, success, rfl⟩
  · rw [same.keys] at found
    exact untouched.cached hash record found named owner
  · exact untouched.cached_acted owned injective backed.store running found named owner
  · rw [keys] at found
    exact untouched.cached hash record found named owner
  · rcases Store.open_cases success with rfl | ⟨inserted, _, rfl⟩
    · exact loaded record found named owner
    · rw [Dict.lookup_insert_ite] at found
      split at found
      · cases found
        cases owner
      · exact loaded record found named owner

theorem step (untouched : world.Untouched hashKey tenantId id)
    (owned : KeysOwned hashKey world) (injective : Function.Injective hashKey)
    (backed : KeysBacked hashKey world) (spared : event.rewrites tenantId id = false)
    (taken : world.step hashKey event = some next) : next.Untouched hashKey tenantId id := by
  constructor
  · intro ticket frame seen
    exact untouched.frames_step backed.store spared taken seen
  · intro row member named owner
    exact untouched.row_step owned taken member named owner
  · intro hash record found named owner
    exact untouched.cached_step owned injective backed taken found named owner

/-- The entry of the tenant's key stays where it is, also over a restart. -/
theorem caches_step (untouched : world.Untouched hashKey tenantId id)
    (owned : KeysOwned hashKey world) (injective : Function.Injective hashKey)
    (backed : KeysBacked hashKey world) (taken : world.step hashKey event = some next)
    {hash : String} {record : KeyRecord}
    (stored : world.store.keys.lookup hash = some record) (named : record.id = id)
    (owner : record.tenantId = some tenantId) :
    ∃ later, next.store.keys.lookup hash = some later ∧ later.id = id := by
  rcases key_cases taken with ⟨same, _, _, _⟩ |
    ⟨ticket, input, frame, rfl, _, running, rfl⟩ |
    ⟨target, nowTs, _, _, keys, _, _, _, _⟩ | ⟨now, input, opened, rfl, _, success, rfl⟩
  · rw [same.keys]
    exact ⟨record, stored, named⟩
  · exact untouched.caches_acted owned injective backed.store running stored named owner
  · rw [keys]
    exact ⟨record, stored, named⟩
  · obtain ⟨grant, member, carries⟩ := backed.store hash record stored
    obtain ⟨row, rowMember, rfl⟩ := List.mem_map.mp member
    have rowId : row.id = id := carries.id.symm.trans named
    have filed : row.keyHash = hash := by
      have issued := owned.rows row rowMember
      rw [rowId] at issued
      exact (untouched.same_hash owned backed.store stored named owner issued).symm
    have loaded : (Store.reload world.store.pool).keys.lookup hash =
        some (keyRecordFromRow row) := by
      rw [Store.reload_keys_lookup,
        (findBy_eq_some_iff world.store.pool.apiKeys_keyHash_unique).mpr ⟨rowMember, filed⟩]
      rfl
    rcases Store.open_cases success with rfl | ⟨inserted, accepted, rfl⟩
    · exact ⟨_, loaded, rowId⟩
    · obtain ⟨⟨_, fresh, _⟩, _⟩ := Database.insertApiKey_eq_some accepted
      refine ⟨keyRecordFromRow row, ?_, rowId⟩
      rw [Dict.lookup_insert_ite, if_neg]
      · exact loaded
      · intro same
        apply fresh
        exact List.mem_map.mpr ⟨row, rowMember, filed.trans same⟩

end World.Untouched

/-! ## Runs -/

/-- Every key that `create_key` has returned for the tenant under this id is cached. -/
def World.ReturnedCached (tenantId id : String) (world : World) : Prop :=
  ∀ ticket label role expiresAt created,
    world.calls.Returned ticket (.createKey tenantId label role expiresAt) (.createdKey created) →
    created.record.id = id →
    ∃ record, world.store.keys.lookup created.record.keyHash = some record ∧ record.id = id

structure World.KeyKept (hashKey : String → String) (tenantId id : String) (world : World) :
    Prop where
  owned : KeysOwned hashKey world
  backed : KeysBacked hashKey world
  untouched : world.Untouched hashKey tenantId id
  returned : world.ReturnedCached tenantId id

namespace World.KeyKept

variable {hashKey : String → String} {tenantId id : String} {world next : World} {event : Event}

theorem blank (hashKey : String → String) (tenantId id : String) :
    World.blank.KeyKept hashKey tenantId id := by
  refine ⟨World.blank_keysOwned hashKey, World.blank_keysBacked hashKey, ⟨?_, ?_, ?_⟩, ?_⟩
  · intro ticket frame seen
    cases seen
  · intro row member
    cases member
  · intro hash record found
    cases found
  · intro ticket label role expiresAt created returned
    cases returned

/-- The entry is the tenant's, since a row backs it. -/
theorem owner_eq (kept : world.KeyKept hashKey tenantId id) {ticket : ℕ} {label : String}
    {role : Role} {expiresAt : Option UInt64} {created : CreatedApiKey}
    (returned : world.calls.Returned ticket (.createKey tenantId label role expiresAt)
      (.createdKey created)) {hash : String} {record : KeyRecord}
    (stored : world.store.keys.lookup hash = some record)
    (same : record.id = created.record.id) : record.tenantId = some tenantId := by
  obtain ⟨enters, answers⟩ := kept.backed.calls ticket _ returned
  rw [enters.backs.tenantId_eq (kept.backed.store hash record stored) same, answers.tenantId]

theorem returned_step (kept : world.KeyKept hashKey tenantId id)
    (injective : Function.Injective hashKey) (taken : world.step hashKey event = some next) :
    next.ReturnedCached tenantId id := by
  intro ticket label role expiresAt created returned named
  rcases lookup_cases taken returned with before | entered |
    ⟨input, frame, rfl, _, before, moved, rfl⟩
  · obtain ⟨record, stored, sameId⟩ :=
      kept.returned ticket label role expiresAt created before named
    have owner := kept.owner_eq before stored (sameId.trans named.symm)
    exact kept.untouched.caches_step kept.owned injective kept.backed taken stored sameId owner
  · cases entered
  · have creates := kept.backed.calls ticket _ before
    rcases creates with rfl | ⟨made, rfl, _⟩
    · simp only [Op.entry, Frame.exec, KeyFrame.exec] at moved
      split at moved <;> cases moved
    · simp only [Frame.exec, KeyFrame.exec, KeyFrame.withKeys, World.acted] at moved ⊢
      split at moved
      · cases moved
      · rename_i healthy
        cases moved
        rw [if_neg healthy]
        exact ⟨created.record, AList.lookup_insert _, named⟩

theorem step (kept : world.KeyKept hashKey tenantId id) (injective : Function.Injective hashKey)
    (spared : event.rewrites tenantId id = false)
    (taken : world.step hashKey event = some next) : next.KeyKept hashKey tenantId id :=
  ⟨kept.owned.step injective taken, kept.backed.step taken,
    kept.untouched.step kept.owned injective kept.backed spared taken,
    kept.returned_step injective taken⟩

end World.KeyKept

/-- In a run in which no call revokes or rotates the key in its tenant's name, once
`create_key` has returned it the cache has an entry of it under its hash, unrevoked
and with the tenant and role it was created with, that is active until it expires,
if the driver hands the expiry back. -/
theorem untouched_key_cached {hashKey : String → String} {world : World} {events : List Event}
    {ticket : ℕ} {tenantId label : String} {role : Role} {expiresAt : Option UInt64}
    {created : CreatedApiKey} (injective : Function.Injective hashKey)
    (run : World.RunWhen hashKey
      (fun _ event => event.rewrites tenantId created.record.id = false) World.blank events world)
    (returned : world.calls.Returned ticket (.createKey tenantId label role expiresAt)
      (.createdKey created)) (holds : ∀ exp ∈ expiresAt, Driver.Holds exp.toInt64) :
    ∃ record, world.store.keys.lookup (hashKey created.rawKey) = some record ∧
      record.id = created.record.id ∧ record.tenantId = some tenantId ∧ record.role = role ∧
      record.revokedAt = none ∧
      ∀ now : Clock, (∀ exp, expiresAt = some exp → now.seconds < exp) →
        record.isActive now.seconds = true := by
  have kept : world.KeyKept hashKey tenantId created.record.id :=
    run.invariant (fun _ _ _ kept spared taken => kept.step injective spared taken)
      (.blank hashKey tenantId created.record.id)
  obtain ⟨record, stored, sameId⟩ := kept.returned ticket label role expiresAt created returned rfl
  obtain ⟨enters, answers⟩ := kept.backed.calls ticket _ returned
  have owner := kept.owner_eq returned stored sameId
  have unrevoked := kept.untouched.cached _ record stored sameId owner
  obtain ⟨grant, member, carries⟩ := kept.backed.store _ record stored
  have sameGrant : grant = (newApiKeyRow created.record).grant := by
    apply world.store.pool.keyGrants_unique member enters
    rw [← carries.id, sameId]
    rfl
  subst sameGrant
  refine ⟨record, ?_, sameId, owner, carries.role.trans answers.role, unrevoked, ?_⟩
  · rw [← answers.keyHash]
    exact stored
  · intro now unexpired
    rw [KeyRecord.isActive_iff]
    refine ⟨unrevoked, ?_⟩
    rw [← answers.expiresAt] at holds unexpired
    exact (carries.expiresAt.ahead_iff holds now).mpr unexpired

end SpellServer
