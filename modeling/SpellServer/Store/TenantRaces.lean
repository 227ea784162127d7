import SpellServer.Store.TenantPresence

/-!
# Concurrent tenant updates

`update_tenant` changes the cache and then writes its snapshot to the row,
`set_suspended` writes the row and then changes the cache.  Nothing orders the
two halves of different calls, so one may carry an old value over a newer one.
`tenantWritesOrdered` is the condition on a step under which it does not, and under
which the driver hands the numbers back.
-/

namespace SpellServer

open Library

section

variable [Driver]

/-! ## The settings in the row and in the cache -/

/-- The fields a `PATCH` sets, but for the counter. -/
def TenantInfo.settings (info : TenantInfo) :
    String × String × UInt64 × Option UInt64 × Option UInt64 :=
  (info.name, info.language, info.quotaLimit, info.periodStart, info.periodEnd)

structure TenantRow.Mirrors (row : TenantRow) (info : TenantInfo) : Prop where
  name : row.name = info.name
  language : row.language = info.language
  quotaLimit : WordMirrors row.quotaLimit info.quotaLimit
  periodStart : ColumnMirrors row.periodStart info.periodStart
  periodEnd : ColumnMirrors row.periodEnd info.periodEnd

/-- A timestamp that a restart reads as it is, or one from `2 ^ 63` on. -/
def stampHeld (value : Option UInt64) : Bool :=
  value.all fun stamp => decide (stamp.toNat < 2 ^ 63 → stamp.toNat < Driver.limit)

/-- The driver hands back the numbers that are promised to survive. -/
def TenantInfo.numbersHeld (info : TenantInfo) : Bool :=
  decide (Driver.Holds info.quotaLimit.toInt64) && stampHeld info.periodStart &&
    stampHeld info.periodEnd

/-- What a restart would load against what is cached.  A period that does not
fit its column is not promised to survive. -/
structure SameSettings (loaded cached : TenantInfo) : Prop where
  name : loaded.name = cached.name
  language : loaded.language = cached.language
  quotaLimit : loaded.quotaLimit = cached.quotaLimit
  periodStart : (∀ stamp ∈ cached.periodStart, stamp.toNat < 2 ^ 63) →
    loaded.periodStart = cached.periodStart
  periodEnd : (∀ stamp ∈ cached.periodEnd, stamp.toNat < 2 ^ 63) →
    loaded.periodEnd = cached.periodEnd
  suspendedAt : loaded.suspendedAt = cached.suspendedAt

/-- A restart would bring back the cached tenants and their settings. -/
def TenantsSurvive (store : Store) : Prop :=
  ∀ id, Option.Rel SameSettings ((Store.reload store.pool).getTenant id) (store.getTenant id)

theorem stamp_lt_limit {value : Option UInt64} (held : stampHeld value = true)
    (fits : ∀ stamp ∈ value, stamp.toNat < 2 ^ 63) : ∀ stamp ∈ value, stamp.toNat < Driver.limit := by
  intro stamp member
  exact of_decide_eq_true ((Option.all_eq_true _ _).mp held stamp member) (fits stamp member)

theorem stampHeld_readNullable (column : Option Int64) :
    stampHeld (readNullable column) = true := by
  apply (Option.all_eq_true _ _).mpr
  intro stamp read
  exact decide_eq_true fun _ => readNullable_lt read

theorem numbersHeld_fromRow (row : TenantRow) :
    (tenantInfoFromRow row).numbersHeld = true := by
  have quotaLimit := (readWord_toInt64_iff _).mp (readWord_readWord row.quotaLimit)
  simp [TenantInfo.numbersHeld, tenantInfoFromRow, quotaLimit, stampHeld_readNullable]

theorem TenantRow.Mirrors.sameSettings {row : TenantRow} {info : TenantInfo}
    (mirrors : row.Mirrors info) (suspended : readNullable row.suspendedAt = info.suspendedAt)
    (held : info.numbersHeld = true) : SameSettings (tenantInfoFromRow row) info := by
  obtain ⟨⟨quotaLimit, periodStart⟩, periodEnd⟩ :
      (Driver.Holds info.quotaLimit.toInt64 ∧ stampHeld info.periodStart = true) ∧
        stampHeld info.periodEnd = true := by
    simpa only [TenantInfo.numbersHeld, Bool.and_eq_true, decide_eq_true_eq] using held
  exact
    { name := mirrors.name
      language := mirrors.language
      quotaLimit := mirrors.quotaLimit.reads_iff.mpr quotaLimit
      periodStart := fun fits => mirrors.periodStart.reads (stamp_lt_limit periodStart fits)
      periodEnd := fun fits => mirrors.periodEnd.reads (stamp_lt_limit periodEnd fits)
      suspendedAt := suspended }

theorem TenantRow.Mirrors.congr {row : TenantRow} {first second : TenantInfo}
    (mirrors : row.Mirrors first) (same : first.settings = second.settings) :
    row.Mirrors second := by
  simp only [TenantInfo.settings, Prod.mk.injEq] at same
  obtain ⟨name, language, quotaLimit, periodStart, periodEnd⟩ := same
  exact
    { name := name ▸ mirrors.name
      language := language ▸ mirrors.language
      quotaLimit := quotaLimit ▸ mirrors.quotaLimit
      periodStart := periodStart ▸ mirrors.periodStart
      periodEnd := periodEnd ▸ mirrors.periodEnd }

theorem TenantRow.mirrors_fromRow (row : TenantRow) : row.Mirrors (tenantInfoFromRow row) :=
  { name := rfl
    language := rfl
    quotaLimit := Or.inr rfl
    periodStart := Or.inr rfl
    periodEnd := Or.inr rfl }

theorem newTenantRow_mirrors (info : TenantInfo) : (newTenantRow info).Mirrors info :=
  ⟨rfl, rfl, Or.inl rfl, Or.inl rfl, Or.inl rfl⟩

namespace TenantFrame

/-- A snapshot with the given settings is about to be written to the row. -/
def writes (id : String) (info : TenantInfo) : TenantFrame → Bool
  | .updateWrite target snapshot => target = id && snapshot.settings = info.settings
  | _ => false

/-- The suspension the row has is about to be cached. -/
def caches (row : TenantRow) : TenantFrame → Bool
  | .suspendCache target suspendedAt =>
      target = row.id && readNullable row.suspendedAt = suspendedAt.map Clock.seconds
  | _ => false

end TenantFrame

def World.tenantInFlight (world : World) (wanted : TenantFrame → Bool) : Bool :=
  world.calls.inFlight Frame.tenant? wanted

/-- Statements succeed, the driver hands back the numbers a tenant is given, a
snapshot is written only while it or another one that is waiting has the cached
settings, and a suspension is cached only while it or another one that is waiting is
the stored one. -/
def TenantFrame.ordered (world : World) (input : Input) : TenantFrame → Bool
  | .createInsert name language quotaLimit periodStart periodEnd =>
      (newTenant input name language quotaLimit periodStart periodEnd).numbersHeld
  | .updateApply id patch =>
      (world.store.getTenant id).all fun info => (patch.apply info).numbersHeld
  | .updateWrite id _ =>
      input.sql &&
        (world.store.getTenant id).all fun info => world.tenantInFlight (writes id info)
  | .suspendWrite _ _ => input.sql
  | .suspendCache id _ =>
      (findBy TenantRow.id id world.store.pool.tenants).all fun row =>
        world.tenantInFlight (caches row)
  | _ => true

def tenantWritesOrdered (world : World) : Event → Bool
  | .act ticket input => (world.tenantAt ticket).all fun frame => frame.ordered world input
  | _ => true

/-- Where a row and its cached record differ, a call in flight has the missing
value. -/
structure SettingsTracked (world : World) : Prop where
  settings : ∀ row ∈ world.store.pool.tenants, ∀ info,
    world.store.getTenant row.id = some info →
    row.Mirrors info ∨ world.tenantInFlight (TenantFrame.writes row.id info) = true
  suspension : ∀ row ∈ world.store.pool.tenants, ∀ info,
    world.store.getTenant row.id = some info →
    readNullable row.suspendedAt = info.suspendedAt ∨
      world.tenantInFlight (TenantFrame.caches row) = true
  creating : ∀ {ticket info}, world.tenantAt ticket = some (.createCache info) →
    ∀ row ∈ world.store.pool.tenants, row.id = info.id →
    row.Mirrors info ∧ readNullable row.suspendedAt = info.suspendedAt

/-- The driver would hand back the numbers of all tenants. -/
structure NumbersHeld (world : World) : Prop where
  cached : ∀ {id info}, world.store.getTenant id = some info → info.numbersHeld = true
  creating : ∀ {ticket info}, world.tenantAt ticket = some (.createCache info) →
    info.numbersHeld = true

theorem SettingsTracked.survive {world : World} (tracked : SettingsTracked world)
    (present : TenantsPresent world) (held : NumbersHeld world)
    (quiescent : world.calls.Quiescent) :
    TenantsSurvive world.store := by
  intro id
  rw [Store.getTenant, Store.reload_tenants_lookup]
  cases selected : findBy TenantRow.id id world.store.pool.tenants with
  | none =>
      cases found : world.store.getTenant id with
      | none => exact .none
      | some info =>
          exact absurd (present.cached found).2 (findBy_eq_none_iff.mp selected)
  | some row =>
      obtain ⟨member, rfl⟩ := findBy_mem selected
      cases found : world.store.getTenant row.id with
      | none =>
          rcases present.stored (List.mem_map_of_mem member) with cached | ⟨ticket, info, seen, _⟩
          · rw [found] at cached
            cases cached
          · rw [World.tenantAt, quiescent.viewAt] at seen
            cases seen
      | some info =>
          have nothing : ∀ wanted, world.tenantInFlight wanted = false :=
            fun _ => quiescent.inFlight
          have mirrors : row.Mirrors info := by
            simpa [nothing] using tracked.settings row member info found
          have suspended : readNullable row.suspendedAt = info.suspendedAt := by
            simpa [nothing] using tracked.suspension row member info found
          exact .some (mirrors.sameSettings suspended (held.cached found))

namespace SettingsTracked

variable {world next : World} {ticket : ℕ} {frame : TenantFrame} {status : Status Frame Result}
  {wanted : TenantFrame → Bool}

private theorem stays (running : world.calls.frameAt ticket = some (.tenant frame))
    (calls : next.calls = world.calls.advance ticket status) (outside : wanted frame = false)
    (before : world.tenantInFlight wanted = true) : next.tenantInFlight wanted = true :=
  Calls.inFlight_stays running rfl calls outside before

private theorem arrives {later : TenantFrame}
    (running : world.calls.frameAt ticket = some (.tenant frame))
    (calls : next.calls = world.calls.advance ticket (.running (.tenant later)))
    (accepted : wanted later = true) : next.tenantInFlight wanted = true :=
  Calls.inFlight_arrives running calls rfl accepted

/-- A step that changes neither the settings nor the calls that carry them. -/
private theorem of_values (tracked : SettingsTracked world)
    (rows : ∀ row ∈ next.store.pool.tenants, ∃ old ∈ world.store.pool.tenants,
      row.id = old.id ∧ row.suspendedAt = old.suspendedAt ∧
        ∀ info, old.Mirrors info → row.Mirrors info)
    (cached : ∀ id info, next.store.getTenant id = some info →
      ∃ old, world.store.getTenant id = some old ∧ old.settings = info.settings ∧
        old.suspendedAt = info.suspendedAt)
    (flights : ∀ wanted : TenantFrame → Bool,
      (∀ mine, wanted mine = true → mine.subject.isSome = true) →
      world.tenantInFlight wanted = true → next.tenantInFlight wanted = true)
    (creates : ∀ other info, next.tenantAt other = some (.createCache info) →
      world.tenantAt other = some (.createCache info)) : SettingsTracked next := by
  constructor
  · intro row member info found
    obtain ⟨old, oldMember, sameId, _, mirrors⟩ := rows row member
    rw [sameId] at found ⊢
    obtain ⟨before, oldFound, settings, _⟩ := cached old.id info found
    rcases tracked.settings old oldMember before oldFound with holds | writing
    · exact Or.inl (mirrors info (holds.congr settings))
    · right
      have same : TenantFrame.writes old.id before = TenantFrame.writes old.id info := by
        funext mine
        cases mine <;> simp [TenantFrame.writes, settings]
      rw [same] at writing
      refine flights _ ?_ writing
      intro mine accepted
      cases mine with
      | updateWrite id snapshot => rfl
      | _ => cases accepted
  · intro row member info found
    obtain ⟨old, oldMember, sameId, suspended, _⟩ := rows row member
    rw [sameId] at found
    obtain ⟨before, oldFound, _, suspension⟩ := cached old.id info found
    rcases tracked.suspension old oldMember before oldFound with holds | caching
    · exact Or.inl (by rw [suspended, holds, suspension])
    · right
      have same : TenantFrame.caches old = TenantFrame.caches row := by
        funext mine
        cases mine <;> simp [TenantFrame.caches, sameId, suspended]
      rw [same] at caching
      refine flights _ ?_ caching
      intro mine accepted
      cases mine with
      | suspendCache id suspendedAt => rfl
      | _ => cases accepted
  · intro other info seen row member sameId
    obtain ⟨old, oldMember, rowId, suspended, mirrors⟩ := rows row member
    obtain ⟨holds, suspension⟩ :=
      tracked.creating (creates other info seen) old oldMember (rowId ▸ sameId)
    exact ⟨mirrors info holds, by rw [suspended, suspension]⟩

private theorem createInsert {input : Input} {name : String} {language : Option String}
    {quotaLimit periodStart periodEnd : Option UInt64} {info : TenantInfo} {pool : Database}
    (tracked : SettingsTracked world) (present : TenantsPresent world)
    (running : world.calls.frameAt ticket =
      some (.tenant (.createInsert name language quotaLimit periodStart periodEnd)))
    (built : info = newTenant input name language quotaLimit periodStart periodEnd)
    (fresh : info.id ∉ world.store.pool.tenantIds)
    (rows : pool.tenants = world.store.pool.tenants ++ [newTenantRow info])
    (store : next.store = { world.store with pool })
    (calls : next.calls = world.calls.advance ticket (.running (.tenant (.createCache info)))) :
    SettingsTracked next := by
  have lookup : ∀ id, next.store.getTenant id = world.store.getTenant id := by
    intro id
    rw [store]
    rfl
  have cases : ∀ {row}, row ∈ next.store.pool.tenants →
      row ∈ world.store.pool.tenants ∨ row = newTenantRow info := by
    intro row member
    rw [store, rows] at member
    simpa using member
  have uncached : ∀ known, world.store.getTenant info.id ≠ some known := by
    intro known found
    exact fresh (present.cached found).2
  constructor
  · intro row member known found
    rw [lookup] at found
    rcases cases member with old | rfl
    · exact (tracked.settings row old known found).imp_right (stays running calls rfl)
    · exact absurd found (uncached known)
  · intro row member known found
    rw [lookup] at found
    rcases cases member with old | rfl
    · exact (tracked.suspension row old known found).imp_right (stays running calls rfl)
    · exact absurd found (uncached known)
  · intro other created seen row member sameId
    rw [World.tenantAt_advance running calls] at seen
    split at seen
    · cases seen
      rcases cases member with old | rfl
      · exact absurd (sameId ▸ List.mem_map_of_mem old) fresh
      · refine ⟨newTenantRow_mirrors info, ?_⟩
        rw [built]
        exact readNullable_none
    · rcases cases member with old | rfl
      · exact tracked.creating seen row old sameId
      · have sameTenant : info.id = created.id := sameId
        exact absurd (sameTenant ▸ (present.creating seen).2) fresh

private theorem createCache {info : TenantInfo} (tracked : SettingsTracked world)
    (running : world.calls.frameAt ticket = some (.tenant (.createCache info)))
    (pool : next.store.pool = world.store.pool)
    (lookup : ∀ id, next.store.getTenant id =
      if id = info.id then some info else world.store.getTenant id)
    (calls : next.calls = world.calls.advance ticket status)
    (leaves : status.frame?.bind Frame.tenant? = none) : SettingsTracked next := by
  have mine := World.tenantAt_of_frameAt running
  constructor
  · intro row member known found
    rw [pool] at member
    rw [lookup] at found
    split at found
    · rename_i sameId
      cases found
      exact Or.inl (tracked.creating mine row member sameId).1
    · exact (tracked.settings row member known found).imp_right (stays running calls rfl)
  · intro row member known found
    rw [pool] at member
    rw [lookup] at found
    split at found
    · rename_i sameId
      cases found
      exact Or.inl (tracked.creating mine row member sameId).2
    · exact (tracked.suspension row member known found).imp_right (stays running calls rfl)
  · intro other created seen row member
    rw [pool] at member
    have goes : (status.frame?.bind Frame.tenant?).bind TenantFrame.created = none := by
      rw [leaves]
      rfl
    exact tracked.creating (World.creates_before running calls goes seen) row member

/-- The snapshot has the cached settings until the next change of the cache. -/
private theorem updateApply {id : String} {patch : TenantPatch} {info : TenantInfo}
    (tracked : SettingsTracked world)
    (running : world.calls.frameAt ticket = some (.tenant (.updateApply id patch)))
    (found : world.store.getTenant id = some info)
    (pool : next.store.pool = world.store.pool)
    (lookup : ∀ other, next.store.getTenant other =
      if other = id then some (patch.apply info) else world.store.getTenant other)
    (calls : next.calls =
      world.calls.advance ticket (.running (.tenant (.updateWrite id (patch.apply info))))) :
    SettingsTracked next := by
  constructor
  · intro row member known seen
    rw [pool] at member
    rw [lookup] at seen
    split at seen
    · rename_i sameId
      cases seen
      exact Or.inr (arrives running calls (by simp [TenantFrame.writes, sameId]))
    · exact (tracked.settings row member known seen).imp_right (stays running calls rfl)
  · intro row member known seen
    rw [pool] at member
    rw [lookup] at seen
    split at seen
    · rename_i sameId
      cases seen
      have before := tracked.suspension row member info (sameId ▸ found)
      exact before.imp_right (stays running calls rfl)
    · exact (tracked.suspension row member known seen).imp_right (stays running calls rfl)
  · intro other created seen row member
    rw [pool] at member
    exact tracked.creating (World.creates_before running calls rfl seen) row member

private theorem mem_updateTenant {database : Database} {id : String} {snapshot : TenantInfo}
    {row : TenantRow} (member : row ∈ (database.updateTenant id snapshot).tenants) :
    ∃ old ∈ database.tenants, row.id = old.id ∧ row.suspendedAt = old.suspendedAt ∧
      ((old.id ≠ id ∧ row = old) ∨ (old.id = id ∧ row.Mirrors snapshot)) := by
  obtain ⟨old, oldMember, rfl⟩ := List.mem_map.mp member
  refine ⟨old, oldMember, ?_⟩
  by_cases selected : old.id = id
  · simp only [if_pos selected]
    exact ⟨trivial, trivial, Or.inr ⟨selected, rfl, rfl, Or.inl rfl, Or.inl rfl, Or.inl rfl⟩⟩
  · simp only [if_neg selected]
    exact ⟨trivial, trivial, Or.inl ⟨selected, trivial⟩⟩

/-- A snapshot that no longer has the cached settings may be written only while
another call still carries them. -/
private theorem updateWrite {id : String} {snapshot info : TenantInfo}
    (tracked : SettingsTracked world) (present : TenantsPresent world)
    (running : world.calls.frameAt ticket = some (.tenant (.updateWrite id snapshot)))
    (found : world.store.getTenant id = some info)
    (carried : world.tenantInFlight (TenantFrame.writes id info) = true)
    (store : next.store = { world.store with pool := world.store.pool.updateTenant id snapshot })
    (calls : next.calls = world.calls.advance ticket (.returned (.updatedTenant (some snapshot)))) :
    SettingsTracked next := by
  have lookup : ∀ other, next.store.getTenant other = world.store.getTenant other := by
    intro other
    rw [store]
    rfl
  have rows : ∀ {row}, row ∈ next.store.pool.tenants →
      row ∈ (world.store.pool.updateTenant id snapshot).tenants := by
    intro row member
    rwa [store] at member
  constructor
  · intro row member known seen
    rw [lookup] at seen
    obtain ⟨old, oldMember, sameId, _, different | ⟨selected, mirrors⟩⟩ :=
      mem_updateTenant (rows member)
    · obtain ⟨different, rfl⟩ := different
      refine (tracked.settings row oldMember known seen).imp_right (stays running calls ?_)
      simp [TenantFrame.writes, Ne.symm different]
    · rw [sameId, selected, found] at seen
      cases seen
      rw [sameId, selected]
      cases mine : TenantFrame.writes id info (.updateWrite id snapshot) with
      | true =>
          have settings : snapshot.settings = info.settings := by
            simpa [TenantFrame.writes] using mine
          exact Or.inl (mirrors.congr settings)
      | false => exact Or.inr (stays running calls mine carried)
  · intro row member known seen
    rw [lookup] at seen
    obtain ⟨old, oldMember, sameId, suspended, _⟩ := mem_updateTenant (rows member)
    have same : TenantFrame.caches row = TenantFrame.caches old := by
      funext mine
      cases mine <;> simp [TenantFrame.caches, sameId, suspended]
    rw [same, suspended]
    rw [sameId] at seen
    exact (tracked.suspension old oldMember known seen).imp_right (stays running calls rfl)
  · intro other created seen row member sameCreated
    rw [World.tenantAt_advance running calls] at seen
    split at seen
    · cases seen
    · obtain ⟨old, oldMember, sameId, suspended, different | ⟨selected, _⟩⟩ :=
        mem_updateTenant (rows member)
      · obtain ⟨_, rfl⟩ := different
        exact tracked.creating seen row oldMember sameCreated
      · have absent := (present.creating seen).1
        rw [← sameCreated, sameId, selected, found] at absent
        cases absent

private theorem mem_updateSuspendedAt {database : Database} {id : String}
    {suspendedAt : Option UInt64} {row : TenantRow}
    (member : row ∈ (database.updateSuspendedAt id suspendedAt).tenants) :
    ∃ old ∈ database.tenants, row.id = old.id ∧ (∀ info, old.Mirrors info → row.Mirrors info) ∧
      ((old.id ≠ id ∧ row = old) ∨
        (old.id = id ∧ row.suspendedAt = suspendedAt.map UInt64.toInt64)) := by
  obtain ⟨old, oldMember, rfl⟩ := List.mem_map.mp member
  refine ⟨old, oldMember, ?_⟩
  by_cases selected : old.id = id
  · simp only [if_pos selected]
    exact ⟨trivial, fun _ mirrors => ⟨mirrors.1, mirrors.2, mirrors.3, mirrors.4, mirrors.5⟩,
      Or.inr ⟨selected, trivial⟩⟩
  · simp only [if_neg selected]
    exact ⟨trivial, fun _ mirrors => mirrors, Or.inl ⟨selected, trivial⟩⟩

private theorem readNullable_clock_map (suspendedAt : Option Clock) :
    readNullable ((suspendedAt.map Clock.seconds).map UInt64.toInt64) =
      suspendedAt.map Clock.seconds := by
  cases suspendedAt with
  | none => exact readNullable_none
  | some now => exact readNullable_clock now

private theorem suspendWrite {id : String} {suspended : Bool} {suspendedAt : Option Clock}
    (tracked : SettingsTracked world) (present : TenantsPresent world)
    (running : world.calls.frameAt ticket = some (.tenant (.suspendWrite id suspended)))
    (store : next.store =
      { world.store with
        pool := world.store.pool.updateSuspendedAt id (suspendedAt.map Clock.seconds) })
    (calls : next.calls =
      world.calls.advance ticket (.running (.tenant (.suspendCache id suspendedAt)))) :
    SettingsTracked next := by
  have lookup : ∀ other, next.store.getTenant other = world.store.getTenant other := by
    intro other
    rw [store]
    rfl
  have rows : ∀ {row}, row ∈ next.store.pool.tenants →
      row ∈ (world.store.pool.updateSuspendedAt id (suspendedAt.map Clock.seconds)).tenants := by
    intro row member
    rwa [store] at member
  constructor
  · intro row member known seen
    rw [lookup] at seen
    obtain ⟨old, oldMember, sameId, mirrors, _⟩ := mem_updateSuspendedAt (rows member)
    rw [sameId] at seen ⊢
    exact (tracked.settings old oldMember known seen).imp (mirrors known)
      (stays running calls rfl)
  · intro row member known seen
    rw [lookup] at seen
    obtain ⟨old, oldMember, sameId, _, different | ⟨selected, written⟩⟩ :=
      mem_updateSuspendedAt (rows member)
    · obtain ⟨_, rfl⟩ := different
      exact (tracked.suspension row oldMember known seen).imp_right (stays running calls rfl)
    · have read := readNullable_clock_map suspendedAt
      rw [← written] at read
      exact Or.inr (arrives running calls (by simp [TenantFrame.caches, sameId, selected, read]))
  · intro other created seen row member sameCreated
    rw [World.tenantAt_advance running calls] at seen
    split at seen
    · cases seen
    · obtain ⟨old, oldMember, sameId, _, different | ⟨selected, _⟩⟩ :=
        mem_updateSuspendedAt (rows member)
      · obtain ⟨_, rfl⟩ := different
        exact tracked.creating seen row oldMember sameCreated
      · have absent := (present.creating seen).1
        have known := present.checked (World.tenantAt_of_frameAt running) rfl
        rw [← sameCreated, sameId, selected] at absent
        rw [absent] at known
        cases known

/-- A suspension that is no longer the stored one may be cached only while
another call still carries the stored one. -/
private theorem suspendCache {id : String} {suspendedAt : Option Clock}
    (tracked : SettingsTracked world)
    (running : world.calls.frameAt ticket = some (.tenant (.suspendCache id suspendedAt)))
    (carried : ∀ row ∈ world.store.pool.tenants, row.id = id →
      world.tenantInFlight (TenantFrame.caches row) = true)
    (pool : next.store.pool = world.store.pool)
    (lookup : ∀ other, next.store.getTenant other =
      if other = id then
        (world.store.getTenant id).map fun info =>
          { info with suspendedAt := suspendedAt.map Clock.seconds }
      else world.store.getTenant other)
    (calls : next.calls = world.calls.advance ticket (.returned (.setSuspended true))) :
    SettingsTracked next := by
  constructor
  · intro row member known seen
    rw [pool] at member
    rw [lookup] at seen
    split at seen
    · rename_i sameId
      obtain ⟨info, found, rfl⟩ := Option.map_eq_some_iff.mp seen
      have before := tracked.settings row member info (sameId ▸ found)
      have same : TenantFrame.writes row.id info = TenantFrame.writes row.id
          { info with suspendedAt := suspendedAt.map Clock.seconds } := rfl
      rw [← same]
      exact before.imp (fun mirrors => mirrors.congr rfl) (stays running calls rfl)
    · exact (tracked.settings row member known seen).imp_right (stays running calls rfl)
  · intro row member known seen
    rw [pool] at member
    rw [lookup] at seen
    split at seen
    · rename_i sameId
      obtain ⟨info, found, rfl⟩ := Option.map_eq_some_iff.mp seen
      cases mine : TenantFrame.caches row (.suspendCache id suspendedAt) with
      | true =>
          left
          simpa [TenantFrame.caches, sameId] using mine
      | false => exact Or.inr (stays running calls mine (carried row member sameId))
    · rename_i different
      refine (tracked.suspension row member known seen).imp_right (stays running calls ?_)
      simp [TenantFrame.caches, Ne.symm different]
  · intro other created seen row member
    rw [pool] at member
    exact tracked.creating (World.creates_before running calls rfl seen) row member

/-- A step of a call that carries no value and changes none. -/
private theorem of_quiet (tracked : SettingsTracked world)
    (running : world.calls.frameAt ticket = some (.tenant frame))
    (calls : next.calls = world.calls.advance ticket status)
    (idle : frame.subject = none)
    (pool : next.store.pool = world.store.pool)
    (cached : ∀ id info, next.store.getTenant id = some info →
      ∃ old, world.store.getTenant id = some old ∧ old.settings = info.settings ∧
        old.suspendedAt = info.suspendedAt)
    (goes : (status.frame?.bind Frame.tenant?).bind TenantFrame.created = none) :
    SettingsTracked next := by
  refine tracked.of_values ?_ cached ?_ ?_
  · intro row member
    rw [pool] at member
    exact ⟨row, member, rfl, rfl, fun _ mirrors => mirrors⟩
  · intro wanted past
    refine stays running calls ?_
    rw [← Bool.not_eq_true]
    intro accepted
    have subject := past frame accepted
    rw [idle] at subject
    cases subject
  · intro other info seen
    exact World.creates_before running calls goes seen

theorem of_act {input : Input} (tracked : SettingsTracked world) (present : TenantsPresent world)
    (running : world.calls.frameAt ticket = some (.tenant frame))
    (ordered : frame.ordered world input = true)
    (result : next = world.acted ticket (frame.exec input world.store)) : SettingsTracked next := by
  subst next
  unfold World.acted
  have unchanged : ∀ id info, world.store.getTenant id = some info →
      ∃ old, world.store.getTenant id = some old ∧ old.settings = info.settings ∧
        old.suspendedAt = info.suspendedAt := fun _ info found => ⟨info, found, rfl, rfl⟩
  have mine := World.tenantAt_of_frameAt running
  cases frame with
  | createInsert name language quotaLimit periodStart periodEnd =>
      simp only [TenantFrame.exec]
      split
      · exact tracked.of_quiet running rfl rfl rfl unchanged rfl
      · rename_i pool executed
        obtain ⟨fresh, appended, _⟩ :=
          Database.insertTenant_eq_some (Input.execute_eq_some.mp executed).2
        exact tracked.createInsert present running rfl fresh appended rfl rfl
  | createCache info =>
      exact tracked.createCache running rfl (getTenant_insert world.store info info.id) rfl rfl
  | updateCheck id patch | suspendCheck id suspended =>
      simp only [TenantFrame.exec]
      split <;> exact tracked.of_quiet running rfl rfl rfl unchanged rfl
  | updateApply id patch =>
      obtain ⟨info, found⟩ := Option.isSome_iff_exists.mp (present.checked mine rfl)
      have stored : world.store.tenants.lookup id = some info := found
      simp only [TenantFrame.exec, stored]
      exact tracked.updateApply running found rfl
        (getTenant_insert world.store (patch.apply info) id) rfl
  | updateWrite id snapshot =>
      obtain ⟨info, found⟩ := Option.isSome_iff_exists.mp (present.checked mine rfl)
      obtain ⟨succeeds, carried⟩ : input.sql = true ∧
          world.tenantInFlight (TenantFrame.writes id info) = true := by
        simpa [TenantFrame.ordered, found] using ordered
      simp only [TenantFrame.exec, Input.execute, succeeds]
      exact tracked.updateWrite present running found carried rfl rfl
  | suspendWrite id suspended =>
      have succeeds : input.sql = true := by simpa [TenantFrame.ordered] using ordered
      simp only [TenantFrame.exec, Input.execute, succeeds]
      exact tracked.suspendWrite present running rfl rfl
  | suspendCache id suspendedAt =>
      refine tracked.suspendCache running ?_ rfl ?_ rfl
      · intro row member sameId
        have selected : findBy TenantRow.id id world.store.pool.tenants = some row :=
          (findBy_eq_some_iff world.store.pool.tenants_id_unique).mpr ⟨member, sameId⟩
        simpa [TenantFrame.ordered, selected] using ordered
      · exact getTenant_modify world.store _ id
  | consumeQuota tenantId =>
      simp only [TenantFrame.exec]
      split
      · exact tracked.of_quiet running rfl rfl rfl unchanged rfl
      · rename_i info found
        split
        · exact tracked.of_quiet running rfl rfl rfl unchanged rfl
        · refine tracked.of_quiet running rfl rfl rfl ?_ rfl
          intro id known seen
          rw [getTenant_insert] at seen
          split at seen
          · rename_i same
            cases seen
            exact ⟨info, same ▸ found, rfl, rfl⟩
          · exact unchanged id known seen

theorem of_idle {pool : Database} (same : SameTenants (Store.reload pool) next.store)
    (idle : ∀ ticket, next.calls.frameAt ticket = none) : SettingsTracked next := by
  have loaded : ∀ row ∈ next.store.pool.tenants, ∀ info,
      next.store.getTenant row.id = some info → info = tenantInfoFromRow row := by
    intro row member info found
    rw [same.rows] at member
    have selected : findBy TenantRow.id row.id pool.tenants = some row :=
      (findBy_eq_some_iff pool.tenants_id_unique).mpr ⟨member, rfl⟩
    rw [Store.getTenant, same.tenants, Store.reload_tenants_lookup, selected] at found
    exact (Option.some.inj found).symm
  constructor
  · intro row member info found
    rw [loaded row member info found]
    exact Or.inl row.mirrors_fromRow
  · intro row member info found
    rw [loaded row member info found]
    exact Or.inl rfl
  · intro ticket info seen
    simp [World.tenantAt, Calls.viewAt, idle] at seen

theorem step {hashKey : String → String} {event : Event} (tracked : SettingsTracked world)
    (present : TenantsPresent world) (ordered : tenantWritesOrdered world event = true)
    (taken : world.step hashKey event = some next) : SettingsTracked next := by
  have flights : Calls.Undisturbed Frame.tenant? TenantFrame.IsEntry world.calls next.calls →
      ∀ wanted : TenantFrame → Bool, (∀ mine, wanted mine = true → mine.subject.isSome = true) →
      world.tenantInFlight wanted = true → next.tenantInFlight wanted = true := by
    intro calls wanted past before
    rw [World.tenantInFlight, calls.inFlight]
    · exact before
    · intro mine accepted entry
      have subject := past mine accepted
      cases mine <;> first | exact entry | cases subject
  have creates : Calls.Undisturbed Frame.tenant? TenantFrame.IsEntry world.calls next.calls →
      ∀ other info, next.tenantAt other = some (.createCache info) →
      world.tenantAt other = some (.createCache info) := by
    intro calls other info seen
    exact (calls.begun seen).resolve_right id
  rcases World.tenant_cases taken with ⟨same, calls, tasks, _⟩ |
    ⟨ticket, input, frame, rfl, running, result⟩ |
    ⟨_, _, id, newCount, _, pending, pool, tenants, calls, tasks⟩ | ⟨_, same, idle, tasks⟩
  · refine tracked.of_values ?_ ?_ (flights calls) (creates calls)
    · intro row member
      rw [same.rows] at member
      exact ⟨row, member, rfl, rfl, fun _ mirrors => mirrors⟩
    · intro id info found
      rw [Store.getTenant, same.tenants] at found
      exact ⟨info, found, rfl, rfl⟩
  · refine tracked.of_act present running ?_ result
    simpa [tenantWritesOrdered, World.tenantAt_of_frameAt running] using ordered
  · have undisturbed : Calls.Undisturbed Frame.tenant? TenantFrame.IsEntry world.calls
        next.calls := by
      rw [calls]
      exact .refl _
    refine tracked.of_values ?_ ?_ (flights undisturbed) (creates undisturbed)
    · intro row member
      rw [pool] at member
      obtain ⟨old, oldMember, rfl⟩ := List.mem_map.mp member
      refine ⟨old, oldMember, ?_⟩
      split
      · exact ⟨rfl, rfl, fun _ mirrors =>
          ⟨mirrors.1, mirrors.2, mirrors.3, mirrors.4, mirrors.5⟩⟩
      · exact ⟨rfl, rfl, fun _ mirrors => mirrors⟩
    · intro other info found
      rw [Store.getTenant, tenants] at found
      exact ⟨info, found, rfl, rfl⟩
  · exact of_idle same idle

end SettingsTracked

namespace NumbersHeld

variable {world next : World} {ticket : ℕ} {frame : TenantFrame} {input : Input}

theorem acted_cached (held : NumbersHeld world) (mine : world.tenantAt ticket = some frame)
    (ordered : frame.ordered world input = true) {id : String} {info : TenantInfo}
    (found : (frame.exec input world.store).store.getTenant id = some info) :
    info.numbersHeld = true := by
  cases frame with
  | createInsert name language quotaLimit periodStart periodEnd =>
      simp only [TenantFrame.exec] at found
      split at found <;> exact held.cached found
  | createCache created =>
      simp only [TenantFrame.exec, Outcome.goto_store, getTenant_insert] at found
      split at found
      · cases found
        exact held.creating mine
      · exact held.cached found
  | updateApply target patch =>
      simp only [TenantFrame.exec] at found
      split at found
      · exact held.cached found
      · rename_i old stored
        simp only [Outcome.goto_store, getTenant_insert] at found
        split at found
        · cases found
          have before : world.store.getTenant target = some old := stored
          simpa [TenantFrame.ordered, before] using ordered
        · exact held.cached found
  | suspendCache target suspendedAt =>
      simp only [TenantFrame.exec, Outcome.finish_store, getTenant_modify] at found
      split at found
      · obtain ⟨old, before, rfl⟩ := Option.map_eq_some_iff.mp found
        have kept : old.numbersHeld = true := held.cached before
        exact kept
      · exact held.cached found
  | consumeQuota target =>
      simp only [TenantFrame.exec] at found
      split at found
      · exact held.cached found
      · rename_i old stored
        split at found
        · exact held.cached found
        · simp only [getTenant_insert] at found
          split at found
          · cases found
            have kept : old.numbersHeld = true := held.cached stored
            exact kept
          · exact held.cached found
  | updateCheck target patch | suspendCheck target suspended | updateWrite target snapshot
  | suspendWrite target suspended =>
      simp only [TenantFrame.exec] at found
      split at found <;> exact held.cached found

/-- Only the INSERT hands a record on to be cached. -/
theorem acted_creating (ordered : frame.ordered world input = true) {info : TenantInfo}
    (goes : (frame.exec input world.store).next = .running (.tenant (.createCache info))) :
    info.numbersHeld = true := by
  cases frame with
  | createInsert name language quotaLimit periodStart periodEnd =>
      simp only [TenantFrame.exec] at goes
      split at goes
      · cases goes
      · cases goes
        exact ordered
  | createCache | suspendCache =>
      cases goes
  | updateApply | updateCheck | suspendCheck | updateWrite | suspendWrite =>
      simp only [TenantFrame.exec] at goes
      split at goes <;> cases goes
  | consumeQuota target =>
      simp only [TenantFrame.exec] at goes
      split at goes
      · cases goes
      · split at goes <;> cases goes

theorem of_idle {pool : Database} (same : SameTenants (Store.reload pool) next.store)
    (idle : ∀ ticket, next.calls.frameAt ticket = none) : NumbersHeld next := by
  constructor
  · intro id info found
    rw [Store.getTenant, same.tenants, Store.reload_tenants_lookup] at found
    obtain ⟨row, _, rfl⟩ := Option.map_eq_some_iff.mp found
    exact numbersHeld_fromRow row
  · intro ticket info seen
    simp [World.tenantAt, Calls.viewAt, idle] at seen

theorem step {hashKey : String → String} {event : Event} (held : NumbersHeld world)
    (ordered : tenantWritesOrdered world event = true)
    (taken : world.step hashKey event = some next) : NumbersHeld next := by
  rcases World.tenant_cases taken with ⟨same, calls, _⟩ |
    ⟨ticket, input, frame, rfl, running, rfl⟩ |
    ⟨_, _, id, newCount, _, _, _, tenants, calls, _⟩ | ⟨_, same, idle, _⟩
  · constructor
    · intro id info found
      rw [Store.getTenant, same.tenants] at found
      exact held.cached found
    · intro other info seen
      exact held.creating ((calls.begun seen).resolve_right fun entry => entry)
  · have mine := World.tenantAt_of_frameAt running
    have allowed : frame.ordered world input = true := by
      simpa [tenantWritesOrdered, mine] using ordered
    constructor
    · intro id info found
      exact held.acted_cached mine allowed found
    · intro other info seen
      rw [World.tenantAt_advance running rfl] at seen
      split at seen
      · cases goes : (frame.exec input world.store).next with
        | returned result =>
            rw [goes] at seen
            cases seen
        | running later =>
            rw [goes] at seen
            cases later with
            | tenant later =>
                cases seen
                exact acted_creating allowed goes
            | key later | origin later | dictionary later => cases seen
      · exact held.creating seen
  · constructor
    · intro other info found
      rw [Store.getTenant, tenants] at found
      exact held.cached found
    · intro other info seen
      rw [World.tenantAt, calls] at seen
      exact held.creating seen
  · exact of_idle same idle

end NumbersHeld

/-- In an ordered run a restart changes no tenant's settings whenever no call is
in flight. -/
theorem ordered_tenants_survive {hashKey : String → String} {world : World}
    (reached : World.ReachableWhen hashKey
      (fun before event => tenantWritesOrdered before event = true) world)
    (quiescent : world.calls.Quiescent) : TenantsSurvive world.store := by
  obtain ⟨events, run⟩ := reached
  have unchanged : SameTenants (Store.reload Database.empty) World.blank.store := ⟨rfl, rfl⟩
  have preserved : ∀ before event after,
      TenantsPresent before ∧ SettingsTracked before ∧ NumbersHeld before →
      tenantWritesOrdered before event = true → before.step hashKey event = some after →
      TenantsPresent after ∧ SettingsTracked after ∧ NumbersHeld after := by
    intro before event after kept ordered taken
    obtain ⟨present, tracked, held⟩ := kept
    exact ⟨present.step taken, tracked.step present ordered taken, held.step ordered taken⟩
  obtain ⟨present, tracked, held⟩ := run.invariant preserved
    ⟨.of_idle unchanged (fun _ => rfl) rfl, .of_idle unchanged fun _ => rfl,
      .of_idle unchanged fun _ => rfl⟩
  exact tracked.survive present held quiescent

end

open scoped DefaultBackend

def everyStatementSucceeds (_ : World) : Event → Bool
  | .act _ input => input.sql
  | _ => true

/-- Two patches of one tenant: both reach the cache, and the older snapshot is
the last to reach the row. -/
def overtakenPatch : List Event :=
  let rename (name : String) : TenantPatch :=
    { name := some name
      language := none
      quotaLimit := none
      requestCount := none
      periodStart := none
      periodEnd := none }
  [.restart (sampleInput 0 0).now (sampleInput 0 0),
    .call 0 (.createTenant "acme" none none none none),
    .act 0 (sampleInput 0 4), .act 0 (sampleInput 0 4),
    .act 0 (sampleInput 1 1), .act 0 (sampleInput 0 4),
    .call 1 (.updateTenant (sampleId 0).text (rename "acme one")),
    .call 2 (.updateTenant (sampleId 0).text (rename "acme two")),
    .act 1 (sampleInput 0 4), .act 1 (sampleInput 0 4),
    .act 2 (sampleInput 0 4), .act 2 (sampleInput 0 4), .act 2 (sampleInput 0 4),
    .act 1 (sampleInput 0 4)]

theorem tenant_rename_lost_after_race :
    ¬∀ hashKey world,
      World.ReachableWhen hashKey
        (fun before event => everyStatementSucceeds before event = true) world →
      world.calls.Quiescent → TenantsSurvive world.store := by
  intro claim
  obtain ⟨world, run, outcome⟩ :=
    World.exists_run sampleHash everyStatementSucceeds overtakenPatch
      (fun world => decide world.calls.Quiescent &&
        (((Store.reload world.store.pool).getTenant (sampleId 0).text).map TenantInfo.name ==
            some "acme one" &&
          (world.store.getTenant (sampleId 0).text).map TenantInfo.name == some "acme two"))
      (by decide +kernel)
  obtain ⟨quiescent, loaded, cached⟩ : world.calls.Quiescent ∧
      ((Store.reload world.store.pool).getTenant (sampleId 0).text).map TenantInfo.name =
        some "acme one" ∧
      (world.store.getTenant (sampleId 0).text).map TenantInfo.name = some "acme two" := by
    simpa using outcome
  have survive := claim sampleHash world ⟨_, run⟩ quiescent (sampleId 0).text
  obtain ⟨before, found, name⟩ := Option.map_eq_some_iff.mp loaded
  obtain ⟨after, found', name'⟩ := Option.map_eq_some_iff.mp cached
  rw [found, found'] at survive
  cases survive with
  | some same =>
      have equal := name.symm.trans (same.name.trans name')
      exact absurd equal (by decide)

theorem ordered_tenants_survive_patch_and_suspension :
    ∃ world, World.ReachableWhen sampleHash
        (fun before event => tenantWritesOrdered before event = true) world ∧
      TenantsSurvive world.store ∧
      (world.store.getTenant (sampleId 0).text).bind TenantInfo.suspendedAt =
        some (sampleInput 0 4).now.seconds := by
  obtain ⟨world, run, outcome⟩ :=
    World.exists_run sampleHash tenantWritesOrdered
      (overtakenPatch.take 10 ++
        [.act 1 (sampleInput 0 4),
          .act 2 (sampleInput 0 4), .act 2 (sampleInput 0 4), .act 2 (sampleInput 0 4),
          .call 3 (.setSuspended (sampleId 0).text true),
          .act 3 (sampleInput 0 4), .act 3 (sampleInput 0 4), .act 3 (sampleInput 0 4)])
      (fun world => decide world.calls.Quiescent &&
        (world.store.getTenant (sampleId 0).text).bind TenantInfo.suspendedAt ==
          some (sampleInput 0 4).now.seconds)
      (by decide +kernel)
  obtain ⟨quiescent, suspended⟩ : world.calls.Quiescent ∧
      (world.store.getTenant (sampleId 0).text).bind TenantInfo.suspendedAt =
        some (sampleInput 0 4).now.seconds := by
    simpa using outcome
  exact ⟨world, ⟨_, run⟩, ordered_tenants_survive ⟨_, run⟩ quiescent, suspended⟩

end SpellServer
