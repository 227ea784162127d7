import SpellServer.Store.Locality

/-!
# Which tenants are cached

A tenant enters the table and then the cache, in one call, and leaves neither
while the process runs.  So in every run a row that is not cached belongs to the
one call about to cache it, and a call past its check finds its tenant.
-/

namespace SpellServer

open Library

def Database.tenantIds (database : Database) : List String :=
  database.tenants.map TenantRow.id

namespace TenantFrame

/-- The tenant a call has found in the cache. -/
def subject [Driver] : TenantFrame → Option String
  | .updateApply id _ | .updateWrite id _ | .suspendWrite id _ | .suspendCache id _ => some id
  | _ => none

/-- The tenant a call is about to cache. -/
def created [Driver] : TenantFrame → Option TenantInfo
  | .createCache info => some info
  | _ => none

end TenantFrame

def World.tenantAt [Driver] (world : World) (ticket : ℕ) : Option TenantFrame :=
  world.calls.viewAt Frame.tenant? ticket

/-- Every row is cached or about to be, by the one call that inserted it. -/
structure TenantsPresent [Driver] (world : World) : Prop where
  cached : ∀ {id info}, world.store.getTenant id = some info →
    info.id = id ∧ id ∈ world.store.pool.tenantIds
  stored : ∀ {id}, id ∈ world.store.pool.tenantIds →
    (world.store.getTenant id).isSome = true ∨
      ∃ ticket info, world.tenantAt ticket = some (.createCache info) ∧ info.id = id
  creating : ∀ {ticket info}, world.tenantAt ticket = some (.createCache info) →
    world.store.getTenant info.id = none ∧ info.id ∈ world.store.pool.tenantIds
  creator : ∀ {ticket other info info'}, world.tenantAt ticket = some (.createCache info) →
    world.tenantAt other = some (.createCache info') → info.id = info'.id → ticket = other
  checked : ∀ {ticket frame id}, world.tenantAt ticket = some frame →
    frame.subject = some id → (world.store.getTenant id).isSome = true
  counted : ∀ {id newCount}, .requestCount id newCount ∈ world.tasks →
    (world.store.getTenant id).isSome = true

theorem World.tenantAt_of_frameAt [Driver] {world : World} {ticket : ℕ} {frame : TenantFrame}
    (running : world.calls.frameAt ticket = some (.tenant frame)) :
    world.tenantAt ticket = some frame := by
  simp [tenantAt, Calls.viewAt, running, Frame.tenant?]

theorem World.tenantAt_eq_some [Driver] {world : World} {ticket : ℕ} {frame : TenantFrame}
    (seen : world.tenantAt ticket = some frame) :
    world.calls.frameAt ticket = some (.tenant frame) := by
  obtain ⟨holder, running, view⟩ := Option.bind_eq_some_iff.mp seen
  cases holder with
  | tenant mine =>
      cases view
      exact running
  | key mine | origin mine | dictionary mine => cases view

theorem World.tenantAt_advance [Driver] {world next : World} {ticket : ℕ} {frame : Frame}
    {status : Status Frame Result} (running : world.calls.frameAt ticket = some frame)
    (calls : next.calls = world.calls.advance ticket status) (other : ℕ) :
    next.tenantAt other =
      if other = ticket then status.frame?.bind Frame.tenant? else world.tenantAt other := by
  rw [tenantAt, calls]
  exact Calls.viewAt_advance running status other

/-- A step that does not start caching a tenant leaves to the calls what they
were caching. -/
theorem World.creates_before [Driver] {world next : World} {ticket other : ℕ} {frame : Frame}
    {status : Status Frame Result} {info : TenantInfo}
    (running : world.calls.frameAt ticket = some frame)
    (calls : next.calls = world.calls.advance ticket status)
    (goes : (status.frame?.bind Frame.tenant?).bind TenantFrame.created = none)
    (seen : next.tenantAt other = some (.createCache info)) :
    world.tenantAt other = some (.createCache info) := by
  rw [World.tenantAt_advance running calls] at seen
  split at seen
  · rw [seen] at goes
    cases goes
  · exact seen

private theorem tenantIds_updateTenants (database : Database) (id : String)
    (change : TenantRow → TenantRow) (keeps : ∀ row, (change row).id = row.id) :
    (database.updateTenants id change keeps).tenantIds = database.tenantIds := by
  refine map_key_map fun row => ?_
  by_cases selected : row.id = id
  · simp [selected, keeps]
  · simp [selected]

@[simp] theorem tenantIds_updateTenant (database : Database) (id : String)
    (snapshot : TenantInfo) :
    (database.updateTenant id snapshot).tenantIds = database.tenantIds :=
  tenantIds_updateTenants ..

@[simp] theorem tenantIds_updateRequestCount (database : Database) (id : String)
    (count : UInt64) : (database.updateRequestCount id count).tenantIds = database.tenantIds :=
  tenantIds_updateTenants ..

@[simp] theorem tenantIds_updateSuspendedAt (database : Database) (id : String)
    (suspendedAt : Option UInt64) :
    (database.updateSuspendedAt id suspendedAt).tenantIds = database.tenantIds :=
  tenantIds_updateTenants ..

theorem getTenant_insert (store : Store) (info : TenantInfo) (key id : String) :
    ({ store with tenants := store.tenants.insert key info } : Store).getTenant id =
      if id = key then some info else store.getTenant id :=
  Dict.lookup_insert_ite store.tenants key id info

theorem getTenant_modify (store : Store) (change : TenantInfo → TenantInfo) (key id : String) :
    ({ store with tenants := store.tenants.modify key change } : Store).getTenant id =
      if id = key then (store.getTenant key).map change else store.getTenant id :=
  Dict.lookup_modify store.tenants key id change

namespace TenantsPresent

variable [Driver] {world next : World} {ticket : ℕ} {frame : TenantFrame}
  {status : Status Frame Result}

private theorem returned_goes {result : Result} {property : TenantFrame → Prop} :
    ∀ later, (.returned result : Status Frame Result) = .running (.tenant later) →
      property later := by
  intro later goes
  cases goes

private theorem running_goes {id : String} (subject : frame.subject = some id)
    (known : (world.store.getTenant id).isSome = true) :
    ∀ later, (.running (.tenant frame) : Status Frame Result) = .running (.tenant later) →
      ∃ id, later.subject = some id ∧ (world.store.getTenant id).isSome = true := by
  intro later goes
  cases goes
  exact ⟨id, subject, known⟩

/-- The step of a call that neither inserts a tenant nor caches a new one. -/
private theorem of_update (present : TenantsPresent world)
    (running : world.calls.frameAt ticket = some (.tenant frame))
    (calls : next.calls = world.calls.advance ticket status)
    (outside : frame.created = none)
    (ids : next.store.pool.tenantIds = world.store.pool.tenantIds)
    (same : ∀ id, (next.store.getTenant id).isSome = (world.store.getTenant id).isSome)
    (own : ∀ id info, next.store.getTenant id = some info → info.id = id)
    (goes : ∀ later, status = .running (.tenant later) →
      ∃ id, later.subject = some id ∧ (world.store.getTenant id).isSome = true)
    (tasks : ∀ id newCount, .requestCount id newCount ∈ next.tasks →
      .requestCount id newCount ∈ world.tasks ∨ (world.store.getTenant id).isSome = true) :
    TenantsPresent next := by
  have view := World.tenantAt_advance running calls
  have old : ∀ {other info}, next.tenantAt other = some (.createCache info) →
      world.tenantAt other = some (.createCache info) := by
    intro other info seen
    rw [view] at seen
    split at seen
    · cases status with
      | running later =>
          obtain ⟨moved, arrived, entered⟩ := Option.bind_eq_some_iff.mp seen
          cases arrived
          cases later with
          | tenant later =>
              cases entered
              obtain ⟨id, known, _⟩ := goes _ rfl
              cases known
          | key later | origin later | dictionary later => cases entered
      | returned result => cases seen
    · exact seen
  constructor
  · intro id info found
    refine ⟨own id info found, ?_⟩
    have before : (world.store.getTenant id).isSome = true := by rw [← same, found]; rfl
    obtain ⟨known, lookup⟩ := Option.isSome_iff_exists.mp before
    rw [ids]
    exact (present.cached lookup).2
  · intro id member
    rw [ids] at member
    rw [same]
    refine (present.stored member).imp_right ?_
    intro creating
    obtain ⟨other, info, seen, sameId⟩ := creating
    refine ⟨other, info, ?_, sameId⟩
    rw [view, if_neg]
    · exact seen
    · intro here
      rw [here, World.tenantAt_of_frameAt running] at seen
      cases seen
      cases outside
  · intro other info seen
    obtain ⟨uncached, member⟩ := present.creating (old seen)
    refine ⟨?_, by rwa [ids]⟩
    have absent := same info.id
    rw [uncached] at absent
    simpa using absent
  · intro first second info info' seen seen' sameId
    exact present.creator (old seen) (old seen') sameId
  · intro other later id seen subject
    rw [same]
    rw [view] at seen
    split at seen
    · cases status with
      | running moved =>
          cases moved with
          | tenant moved =>
              cases seen
              obtain ⟨known, found, cached⟩ := goes _ rfl
              cases found.symm.trans subject
              exact cached
          | key moved | origin moved | dictionary moved => cases seen
      | returned result => cases seen
    · exact present.checked seen subject
  · intro id newCount member
    rw [same]
    rcases tasks id newCount member with before | cached
    · exact present.counted before
    · exact cached

/-- The step of a call that leaves the cache and the set of rows alone. -/
private theorem of_quiet (present : TenantsPresent world)
    (running : world.calls.frameAt ticket = some (.tenant frame))
    (calls : next.calls = world.calls.advance ticket status)
    (outside : frame.created = none)
    (ids : next.store.pool.tenantIds = world.store.pool.tenantIds)
    (tenants : next.store.tenants = world.store.tenants)
    (goes : ∀ later, status = .running (.tenant later) →
      ∃ id, later.subject = some id ∧ (world.store.getTenant id).isSome = true)
    (tasks : next.tasks = world.tasks) : TenantsPresent next := by
  have lookup : ∀ id, next.store.getTenant id = world.store.getTenant id := by
    intro id
    rw [Store.getTenant, tenants, Store.getTenant]
  refine present.of_update running calls outside ids ?_ ?_ goes ?_
  · intro id
    rw [lookup]
  · intro id info found
    rw [lookup] at found
    exact (present.cached found).1
  · intro id newCount member
    rw [tasks] at member
    exact Or.inl member

/-- The step of a call that replaces the entry of a cached tenant. -/
private theorem of_replace (present : TenantsPresent world)
    (running : world.calls.frameAt ticket = some (.tenant frame))
    (calls : next.calls = world.calls.advance ticket status)
    (outside : frame.created = none)
    (ids : next.store.pool.tenantIds = world.store.pool.tenantIds)
    {id : String} {info : TenantInfo} (changed : TenantInfo)
    (found : world.store.getTenant id = some info)
    (lookup : ∀ other, next.store.getTenant other =
      if other = id then some changed else world.store.getTenant other)
    (sameId : changed.id = info.id)
    (goes : ∀ later, status = .running (.tenant later) →
      ∃ id, later.subject = some id ∧ (world.store.getTenant id).isSome = true)
    (tasks : ∀ other newCount, .requestCount other newCount ∈ next.tasks →
      .requestCount other newCount ∈ world.tasks ∨ other = id) : TenantsPresent next := by
  have cached : (world.store.getTenant id).isSome = true := by rw [found]; rfl
  refine present.of_update running calls outside ids ?_ ?_ goes ?_
  · intro other
    rw [lookup]
    split
    · rename_i here
      rw [here, found]
      rfl
    · rfl
  · intro other updated stored
    rw [lookup] at stored
    split at stored
    · rename_i here
      cases stored
      rw [sameId, here]
      exact (present.cached found).1
    · exact (present.cached stored).1
  · intro other newCount member
    rcases tasks other newCount member with before | rfl
    · exact Or.inl before
    · exact Or.inr cached

private theorem createInsert {name : String} {language : Option String}
    {quotaLimit periodStart periodEnd : Option UInt64} {info : TenantInfo}
    (present : TenantsPresent world)
    (running : world.calls.frameAt ticket =
      some (.tenant (.createInsert name language quotaLimit periodStart periodEnd)))
    (fresh : info.id ∉ world.store.pool.tenantIds)
    (ids : next.store.pool.tenantIds = world.store.pool.tenantIds ++ [info.id])
    (same : next.store.tenants = world.store.tenants)
    (calls : next.calls = world.calls.advance ticket (.running (.tenant (.createCache info))))
    (tasks : next.tasks = world.tasks) : TenantsPresent next := by
  have view := World.tenantAt_advance running calls
  have lookup : ∀ id, next.store.getTenant id = world.store.getTenant id := by
    intro id
    rw [Store.getTenant, same, Store.getTenant]
  have uncached : world.store.getTenant info.id = none := by
    cases found : world.store.getTenant info.id with
    | none => rfl
    | some known => exact absurd (present.cached found).2 fresh
  have seenCases : ∀ {other created}, next.tenantAt other = some (.createCache created) →
      (other = ticket ∧ created = info) ∨
        world.tenantAt other = some (.createCache created) := by
    intro other created seen
    rw [view] at seen
    split at seen
    · rename_i here
      cases seen
      exact Or.inl ⟨here, rfl⟩
    · exact Or.inr seen
  constructor
  · intro id known found
    rw [lookup] at found
    obtain ⟨sameId, member⟩ := present.cached found
    rw [ids]
    exact ⟨sameId, List.mem_append_left _ member⟩
  · intro id member
    rw [lookup]
    rw [ids, List.mem_append, List.mem_singleton] at member
    rcases member with old | rfl
    · refine (present.stored old).imp_right ?_
      intro creating
      obtain ⟨other, created, seen, sameId⟩ := creating
      refine ⟨other, created, ?_, sameId⟩
      rw [view, if_neg]
      · exact seen
      · intro here
        rw [here, World.tenantAt_of_frameAt running] at seen
        cases seen
    · refine Or.inr ⟨ticket, info, ?_, rfl⟩
      rw [view, if_pos rfl]
      rfl
  · intro other created seen
    rw [lookup, ids]
    rcases seenCases seen with ⟨_, rfl⟩ | before
    · exact ⟨uncached, by simp⟩
    · obtain ⟨absent, member⟩ := present.creating before
      exact ⟨absent, List.mem_append_left _ member⟩
  · intro first second created created' seen seen' sameId
    rcases seenCases seen with ⟨rfl, rfl⟩ | before
    · rcases seenCases seen' with ⟨rfl, rfl⟩ | before'
      · rfl
      · exact absurd (sameId ▸ (present.creating before').2) fresh
    · rcases seenCases seen' with ⟨rfl, rfl⟩ | before'
      · exact absurd (sameId ▸ (present.creating before).2) fresh
      · exact present.creator before before' sameId
  · intro other later id seen subject
    rw [lookup]
    rw [view] at seen
    split at seen
    · cases seen
      cases subject
    · exact present.checked seen subject
  · intro id newCount member
    rw [lookup]
    rw [tasks] at member
    exact present.counted member

private theorem createCache {info : TenantInfo} {status : Status Frame Result}
    (present : TenantsPresent world)
    (running : world.calls.frameAt ticket = some (.tenant (.createCache info)))
    (ids : next.store.pool.tenantIds = world.store.pool.tenantIds)
    (lookup : ∀ id, next.store.getTenant id =
      if id = info.id then some info else world.store.getTenant id)
    (calls : next.calls = world.calls.advance ticket status)
    (leaves : status.frame?.bind Frame.tenant? = none)
    (tasks : next.tasks = world.tasks) : TenantsPresent next := by
  have mine := World.tenantAt_of_frameAt running
  have view : ∀ other, next.tenantAt other =
      if other = ticket then none else world.tenantAt other := by
    intro other
    rw [World.tenantAt_advance running calls, leaves]
  have elsewhere : ∀ {other frame}, next.tenantAt other = some frame →
      other ≠ ticket ∧ world.tenantAt other = some frame := by
    intro other frame seen
    rw [view] at seen
    split at seen
    · cases seen
    · rename_i different
      exact ⟨different, seen⟩
  have grows : ∀ id, (world.store.getTenant id).isSome = true →
      (next.store.getTenant id).isSome = true := by
    intro id known
    rw [lookup]
    split
    · rfl
    · exact known
  constructor
  · intro id known found
    rw [ids]
    rw [lookup] at found
    split at found
    · rename_i here
      cases found
      subst id
      exact ⟨rfl, (present.creating mine).2⟩
    · exact present.cached found
  · intro id member
    rw [ids] at member
    rcases present.stored member with known | ⟨other, created, seen, rfl⟩
    · exact Or.inl (grows id known)
    · by_cases here : other = ticket
      · subst other
        cases mine.symm.trans seen
        exact Or.inl (by rw [lookup, if_pos rfl]; rfl)
      · exact Or.inr ⟨other, created, by rw [view, if_neg here, seen], rfl⟩
  · intro other created seen
    obtain ⟨different, before⟩ := elsewhere seen
    obtain ⟨absent, member⟩ := present.creating before
    rw [lookup, ids, if_neg]
    · exact ⟨absent, member⟩
    · intro sameId
      exact different (present.creator before mine sameId)
  · intro first second created created' seen seen' sameId
    exact present.creator (elsewhere seen).2 (elsewhere seen').2 sameId
  · intro other later id seen subject
    exact grows id (present.checked (elsewhere seen).2 subject)
  · intro id newCount member
    rw [tasks] at member
    exact grows id (present.counted member)

theorem of_act {input : Input} (present : TenantsPresent world)
    (running : world.calls.frameAt ticket = some (.tenant frame))
    (result : next = world.acted ticket (frame.exec input world.store)) : TenantsPresent next := by
  subst next
  unfold World.acted
  cases frame with
  | createInsert name language quotaLimit periodStart periodEnd =>
      simp only [TenantFrame.exec]
      split
      · exact present.of_quiet running rfl rfl rfl rfl returned_goes (by simp)
      · rename_i pool executed
        obtain ⟨fresh, appended, _⟩ :=
          Database.insertTenant_eq_some (Input.execute_eq_some.mp executed).2
        refine present.createInsert running fresh ?_ rfl rfl (by simp)
        simp [Database.tenantIds, appended, newTenantRow]
  | createCache info =>
      exact present.createCache running rfl (getTenant_insert world.store info info.id) rfl rfl
        (by simp [TenantFrame.exec])
  | updateCheck id patch =>
      simp only [TenantFrame.exec]
      split
      · rename_i known
        exact present.of_quiet running rfl rfl rfl rfl (running_goes rfl known) (by simp)
      · exact present.of_quiet running rfl rfl rfl rfl returned_goes (by simp)
  | updateApply id patch =>
      have known := present.checked (World.tenantAt_of_frameAt running) rfl
      obtain ⟨info, found⟩ := Option.isSome_iff_exists.mp known
      have stored : world.store.tenants.lookup id = some info := found
      simp only [TenantFrame.exec, stored]
      refine present.of_replace running rfl rfl rfl _ found
        (getTenant_insert world.store _ id) rfl (running_goes rfl known) ?_
      intro other newCount member
      exact Or.inl (by simpa using member)
  | updateWrite id snapshot =>
      simp only [TenantFrame.exec]
      split
      · exact present.of_quiet running rfl rfl rfl rfl returned_goes (by simp)
      · rename_i pool executed
        cases (Input.execute_eq_some.mp executed).2
        exact present.of_quiet running rfl rfl (by simp) rfl returned_goes (by simp)
  | suspendCheck id suspended =>
      simp only [TenantFrame.exec]
      split
      · rename_i known
        exact present.of_quiet running rfl rfl rfl rfl (running_goes rfl known) (by simp)
      · exact present.of_quiet running rfl rfl rfl rfl returned_goes (by simp)
  | suspendWrite id suspended =>
      have known := present.checked (World.tenantAt_of_frameAt running) rfl
      simp only [TenantFrame.exec]
      split
      · exact present.of_quiet running rfl rfl rfl rfl returned_goes (by simp)
      · rename_i pool executed
        cases (Input.execute_eq_some.mp executed).2
        exact present.of_quiet running rfl rfl (by simp) rfl (running_goes rfl known) (by simp)
  | suspendCache id suspendedAt =>
      have known := present.checked (World.tenantAt_of_frameAt running) rfl
      obtain ⟨info, found⟩ := Option.isSome_iff_exists.mp known
      refine present.of_replace running rfl rfl rfl
        { info with suspendedAt := suspendedAt.map Clock.seconds } found ?_ rfl returned_goes ?_
      · intro other
        simp only [TenantFrame.exec, Outcome.finish_store]
        rw [getTenant_modify, found]
        rfl
      · intro other newCount member
        exact Or.inl (by simpa [TenantFrame.exec] using member)
  | consumeQuota tenantId =>
      simp only [TenantFrame.exec]
      split
      · exact present.of_quiet running rfl rfl rfl rfl returned_goes (by simp)
      · rename_i info stored
        split
        · exact present.of_quiet running rfl rfl rfl rfl returned_goes (by simp)
        · refine present.of_replace running rfl rfl rfl _ stored
            (getTenant_insert world.store _ tenantId) rfl returned_goes ?_
          intro id newCount member
          rcases List.mem_append.mp member with old | new
          · exact Or.inl old
          · cases List.mem_singleton.mp new
            exact Or.inr rfl

theorem of_idle {pool : Database} (same : SameTenants (Store.reload pool) next.store)
    (idle : ∀ ticket, next.calls.frameAt ticket = none) (tasks : next.tasks = []) :
    TenantsPresent next := by
  have lookup : ∀ id, next.store.getTenant id =
      (findBy TenantRow.id id next.store.pool.tenants).map tenantInfoFromRow := by
    intro id
    rw [Store.getTenant, same.tenants, Store.reload_tenants_lookup, same.rows]
    rfl
  have nobody : ∀ ticket, next.tenantAt ticket = none := by
    intro ticket
    simp [World.tenantAt, Calls.viewAt, idle]
  constructor
  · intro id info found
    rw [lookup] at found
    obtain ⟨row, selected, rfl⟩ := Option.map_eq_some_iff.mp found
    obtain ⟨member, rfl⟩ := findBy_mem selected
    exact ⟨rfl, List.mem_map_of_mem member⟩
  · intro id member
    left
    rw [lookup, Option.isSome_map]
    cases selected : findBy TenantRow.id id next.store.pool.tenants with
    | none => exact absurd member (findBy_eq_none_iff.mp selected)
    | some row => rfl
  · intro ticket info seen
    rw [nobody] at seen
    cases seen
  · intro ticket other info info' seen
    rw [nobody] at seen
    cases seen
  · intro ticket frame id seen
    rw [nobody] at seen
    cases seen
  · intro id newCount member
    rw [tasks] at member
    cases member

private theorem of_same (present : TenantsPresent world)
    (ids : next.store.pool.tenantIds = world.store.pool.tenantIds)
    (tenants : next.store.tenants = world.store.tenants)
    (calls : Calls.Undisturbed Frame.tenant? TenantFrame.IsEntry world.calls next.calls)
    (tasks : ∀ id newCount, .requestCount id newCount ∈ next.tasks →
      .requestCount id newCount ∈ world.tasks) : TenantsPresent next := by
  have lookup : ∀ id, next.store.getTenant id = world.store.getTenant id := by
    intro id
    rw [Store.getTenant, tenants, Store.getTenant]
  have old : ∀ {ticket info}, next.tenantAt ticket = some (.createCache info) →
      world.tenantAt ticket = some (.createCache info) := by
    intro ticket info seen
    exact (calls.begun seen).resolve_right id
  constructor
  · intro id info found
    rw [lookup] at found
    rw [ids]
    exact present.cached found
  · intro id member
    rw [ids] at member
    rw [lookup]
    refine (present.stored member).imp_right ?_
    intro creating
    obtain ⟨ticket, info, seen, sameId⟩ := creating
    exact ⟨ticket, info, calls.kept seen, sameId⟩
  · intro ticket info seen
    rw [lookup, ids]
    exact present.creating (old seen)
  · intro ticket other info info' seen seen'
    exact present.creator (old seen) (old seen')
  · intro ticket frame id seen subject
    rw [lookup]
    rcases calls.begun seen with before | entry
    · exact present.checked before subject
    · cases frame <;> first | exact entry.elim | cases subject
  · intro id newCount member
    rw [lookup]
    exact present.counted (tasks id newCount member)

theorem step {hashKey : String → String} {event : Event} (present : TenantsPresent world)
    (taken : world.step hashKey event = some next) : TenantsPresent next := by
  rcases World.tenant_cases taken with ⟨same, calls, tasks, _⟩ |
    ⟨ticket, input, frame, rfl, running, result⟩ |
    ⟨_, _, id, newCount, _, pending, pool, tenants, calls, tasks⟩ | ⟨_, same, idle, tasks⟩
  · refine present.of_same ?_ same.tenants calls tasks
    rw [Database.tenantIds, same.rows, Database.tenantIds]
  · exact present.of_act running result
  · refine present.of_same ?_ tenants ?_ fun _ _ => tasks _
    · rw [pool, tenantIds_updateRequestCount]
    · rw [calls]
      exact .refl _
  · exact of_idle same idle tasks

end TenantsPresent

theorem World.reachable_tenantsPresent [Driver] {hashKey : String → String} {world : World}
    (reached : Reachable hashKey world) : TenantsPresent world := by
  obtain ⟨events, run⟩ := reached
  have unchanged : SameTenants (Store.reload Database.empty) World.blank.store := ⟨rfl, rfl⟩
  exact run.invariant (fun _ _ _ present _ taken => present.step taken)
    (TenantsPresent.of_idle unchanged (fun _ => rfl) rfl)

end SpellServer
