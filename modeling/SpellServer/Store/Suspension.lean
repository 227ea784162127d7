import SpellServer.Store.Revocation
import SpellServer.Store.TenantPresence

/-!
# A suspension lasts

`set_suspended` checks the cache, writes the row and then changes the cache.  A
call that returned, with no call for the opposite value beside it or after it,
has the last word: neither updates, nor admissions, nor restarts take the tenant
out of the state it was put into.
-/

namespace SpellServer

open Library

variable [Driver]

/-! ## The state of a tenant -/

/-- What a start would load. -/
def Database.suspension (database : Database) (id : String) : Option Bool :=
  (findBy TenantRow.id id database.tenants).map fun row => (readNullable row.suspendedAt).isSome

/-- What the gates see. -/
def Store.suspension (store : Store) (id : String) : Option Bool :=
  (store.getTenant id).map fun info => info.suspendedAt.isSome

/-- The row and the cached record agree on this state. -/
structure Store.SuspensionIs (store : Store) (id : String) (suspended : Bool) : Prop where
  stored : store.pool.suspension id = some suspended
  cached : store.suspension id = some suspended

/-- The tenant a call is working on, and the state it puts it into. -/
def TenantFrame.suspends : TenantFrame → Option (String × Bool)
  | .suspendCheck id suspended | .suspendWrite id suspended => some (id, suspended)
  | .suspendCache id suspendedAt => some (id, suspendedAt.isSome)
  | _ => none

def World.suspending (world : World) (ticket : ℕ) : Option (String × Bool) :=
  (world.tenantAt ticket).bind TenantFrame.suspends

/-- A call is made that will put the tenant into this state. -/
def Event.suspends (id : String) (suspended : Bool) : Event → Bool
  | .call _ (.setSuspended target wanted) => target = id && wanted = suspended
  | _ => false

/-! ## What the statements do to the state -/

namespace Database

variable {database : Database} {id : String}

theorem suspension_updateTenants {target : String} {change : TenantRow → TenantRow}
    {keeps : ∀ row, (change row).id = row.id} :
    (database.updateTenants target change keeps).suspension id =
      (findBy TenantRow.id id database.tenants).map fun row =>
        (readNullable (if row.id = target then change row else row).suspendedAt).isSome := by
  have sameId : ∀ row : TenantRow,
      (if row.id = target then change row else row).id = row.id := by
    intro row
    split
    · exact keeps row
    · rfl
  have found : findBy TenantRow.id id (database.updateTenants target change keeps).tenants =
      (findBy TenantRow.id id database.tenants).map fun row =>
        if row.id = target then change row else row :=
    findBy_map sameId id
  rw [suspension, found, Option.map_map]
  rfl

/-- An update of other columns. -/
theorem suspension_unchanged {target : String} {change : TenantRow → TenantRow}
    {keeps : ∀ row, (change row).id = row.id}
    (same : ∀ row, (change row).suspendedAt = row.suspendedAt) :
    (database.updateTenants target change keeps).suspension id = database.suspension id := by
  have column : ∀ row : TenantRow,
      (if row.id = target then change row else row).suspendedAt = row.suspendedAt := by
    intro row
    split
    · exact same row
    · rfl
  rw [suspension_updateTenants]
  simp only [column]
  rfl

@[simp] theorem suspension_updateTenant (target : String) (snapshot : TenantInfo) :
    (database.updateTenant target snapshot).suspension id = database.suspension id :=
  suspension_unchanged fun _ => rfl

@[simp] theorem suspension_updateRequestCount (target : String) (count : UInt64) :
    (database.updateRequestCount target count).suspension id = database.suspension id :=
  suspension_unchanged fun _ => rfl

theorem suspension_updateSuspendedAt_other {target : String} {suspendedAt : Option UInt64}
    (other : id ≠ target) :
    (database.updateSuspendedAt target suspendedAt).suspension id = database.suspension id := by
  rw [updateSuspendedAt, suspension_updateTenants, suspension]
  apply Option.map_congr
  intro row selected
  have rowId : row.id = id := (findBy_mem selected).2
  have different : row.id ≠ target := by
    rw [rowId]
    exact other
  rw [if_neg different]

theorem suspension_updateSuspendedAt (suspendedAt : Option Clock) :
    (database.updateSuspendedAt id (suspendedAt.map Clock.seconds)).suspension id =
      (database.suspension id).map fun _ => suspendedAt.isSome := by
  rw [updateSuspendedAt, suspension_updateTenants, suspension]
  cases selected : findBy TenantRow.id id database.tenants with
  | none => rfl
  | some row =>
      have rowId : row.id = id := (findBy_mem selected).2
      rw [Option.map_some, if_pos rowId]
      cases suspendedAt <;> simp

theorem suspension_insertTenant {pool : Database} {row : TenantRow} {suspended : Bool}
    (stored : database.suspension id = some suspended)
    (inserted : database.insertTenant row = some pool) : pool.suspension id = some suspended := by
  obtain ⟨_, rows, _⟩ := insertTenant_eq_some inserted
  obtain ⟨old, selected, state⟩ := Option.map_eq_some_iff.mp stored
  have first : findBy TenantRow.id id pool.tenants = some old := by
    rw [rows, findBy, List.find?_append]
    rw [findBy] at selected
    simp [selected]
  rw [suspension, first, Option.map_some, state]

end Database

namespace TenantFrame

variable {input : Input} {store : Store} {id : String} {suspended : Bool}

theorem suspends_exec {frame later : TenantFrame}
    (goes : (frame.exec input store).next = .running (.tenant later)) :
    later.suspends = none ∨ later.suspends = frame.suspends := by
  cases frame with
  | suspendCheck target wanted =>
      simp only [exec] at goes
      split at goes <;> cases goes
      exact Or.inr rfl
  | suspendWrite target wanted =>
      simp only [exec] at goes
      split at goes <;> cases goes
      right
      cases wanted <;> rfl
  | suspendCache target suspendedAt => cases goes
  | createInsert name language quotaLimit periodStart periodEnd =>
      simp only [exec] at goes
      split at goes <;> cases goes
      exact Or.inl rfl
  | createCache info => cases goes
  | updateCheck target patch =>
      simp only [exec] at goes
      split at goes <;> cases goes
      exact Or.inl rfl
  | updateApply target patch =>
      simp only [exec] at goes
      split at goes <;> cases goes
      exact Or.inl rfl
  | updateWrite target snapshot =>
      simp only [exec] at goes
      split at goes <;> cases goes
  | consumeQuota target =>
      simp only [exec] at goes
      (repeat' split at goes) <;> cases goes

/-- No action but a write of the opposite value changes the row's state. -/
theorem stored_exec {frame : TenantFrame} (stored : store.pool.suspension id = some suspended)
    (agrees : ∀ wanted, frame.suspends = some (id, wanted) → wanted = suspended) :
    (frame.exec input store).store.pool.suspension id = some suspended := by
  cases frame with
  | createInsert name language quotaLimit periodStart periodEnd =>
      simp only [exec]
      split
      · exact stored
      · rename_i pool executed
        exact Database.suspension_insertTenant stored (Input.execute_eq_some.mp executed).2
  | createCache info => exact stored
  | updateCheck target patch =>
      simp only [exec]
      split <;> exact stored
  | updateApply target patch =>
      simp only [exec]
      split <;> exact stored
  | updateWrite target snapshot =>
      simp only [exec]
      split
      · exact stored
      · rename_i pool executed
        cases (Input.execute_eq_some.mp executed).2
        rw [Outcome.finish_store, Database.suspension_updateTenant]
        exact stored
  | suspendCheck target wanted =>
      simp only [exec]
      split <;> exact stored
  | suspendWrite target wanted =>
      simp only [exec]
      split
      · exact stored
      · rename_i pool executed
        cases (Input.execute_eq_some.mp executed).2
        by_cases same : id = target
        · subst target
          obtain rfl := agrees wanted rfl
          rw [Outcome.goto_store, Database.suspension_updateSuspendedAt, stored]
          cases wanted <;> rfl
        · exact (Database.suspension_updateSuspendedAt_other same).trans stored
  | suspendCache target suspendedAt => exact stored
  | consumeQuota target =>
      simp only [exec]
      (repeat' split) <;> exact stored

/-- No action but one of a call for the opposite value changes the cached state. -/
theorem cached_exec {frame : TenantFrame} (cached : store.suspension id = some suspended)
    (agrees : ∀ wanted, frame.suspends = some (id, wanted) → wanted = suspended)
    (creates : ∀ info, frame = .createCache info → info.id ≠ id) :
    (frame.exec input store).store.suspension id = some suspended := by
  obtain ⟨known, found, state⟩ := Option.map_eq_some_iff.mp cached
  cases frame with
  | createInsert name language quotaLimit periodStart periodEnd =>
      simp only [exec]
      split <;> exact cached
  | createCache info =>
      have other : id ≠ info.id := (creates info rfl).symm
      simp only [exec, Outcome.goto_store]
      rw [Store.suspension, getTenant_insert, if_neg other]
      exact cached
  | updateCheck target patch =>
      simp only [exec]
      split <;> exact cached
  | updateApply target patch =>
      simp only [exec]
      split
      · exact cached
      · rename_i info stored
        rw [Outcome.goto_store, Store.suspension, getTenant_insert]
        split
        · rename_i same
          subst target
          cases stored.symm.trans found
          exact congrArg some state
        · exact cached
  | updateWrite target snapshot =>
      simp only [exec]
      split <;> exact cached
  | suspendCheck target wanted =>
      simp only [exec]
      split <;> exact cached
  | suspendWrite target wanted =>
      simp only [exec]
      split <;> exact cached
  | suspendCache target suspendedAt =>
      simp only [exec, Outcome.finish_store]
      rw [Store.suspension, getTenant_modify]
      split
      · rename_i same
        subst target
        rw [found, ← agrees suspendedAt.isSome rfl]
        simp
      · exact cached
  | consumeQuota target =>
      simp only [exec]
      split
      · exact cached
      · rename_i info stored
        split
        · exact cached
        · rw [Store.suspension, getTenant_insert]
          split
          · rename_i same
            subst target
            cases stored.symm.trans found
            exact congrArg some state
          · exact cached

end TenantFrame

/-! ## Runs -/

namespace World

variable {hashKey : String → String} {world next : World} {event : Event} {id : String}
  {suspended : Bool}

theorem suspending_of_frameAt {ticket : ℕ} {frame : TenantFrame}
    (running : world.calls.frameAt ticket = some (.tenant frame)) :
    world.suspending ticket = frame.suspends := by
  rw [suspending, tenantAt_of_frameAt running]
  rfl

theorem frameAt_of_suspending {ticket : ℕ} {state : String × Bool}
    (suspends : world.suspending ticket = some state) :
    ∃ frame, world.calls.frameAt ticket = some (.tenant frame) ∧ frame.suspends = some state := by
  obtain ⟨frame, seen, works⟩ := Option.bind_eq_some_iff.mp suspends
  exact ⟨frame, tenantAt_eq_some seen, works⟩

/-- Calls for a state come from events that ask for it. -/
theorem suspending_before (taken : world.step hashKey event = some next)
    (unasked : event.suspends id suspended = false) {ticket : ℕ}
    (suspends : next.suspending ticket = some (id, suspended)) :
    world.suspending ticket = some (id, suspended) := by
  obtain ⟨frame, seen, works⟩ := frameAt_of_suspending suspends
  rcases frameAt_cases taken seen with before | ⟨op, rfl, entered⟩ |
    ⟨input, old, rfl, running, goes, _⟩
  · rw [suspending_of_frameAt before, works]
  · cases op <;> cases entered <;> cases works
    simp [Event.suspends] at unasked
  · cases old with
    | tenant old =>
        rcases TenantFrame.suspends_exec goes with idle | same
        · rw [works] at idle
          cases idle
        · rw [suspending_of_frameAt running, ← same, works]
    | key old =>
        obtain ⟨later, moved⟩ := KeyFrame.exec_next goes
        cases moved
    | origin old =>
        obtain ⟨later, moved⟩ := OriginFrame.exec_next goes
        cases moved
    | dictionary old =>
        obtain ⟨later, moved⟩ := DictionaryFrame.exec_next goes
        cases moved

/-- No call is about to put the tenant into the opposite state. -/
def Unopposed (world : World) (id : String) (suspended : Bool) : Prop :=
  ∀ ticket, world.suspending ticket ≠ some (id, !suspended)

theorem Unopposed.step (unopposed : world.Unopposed id suspended)
    (taken : world.step hashKey event = some next)
    (unasked : event.suspends id (!suspended) = false) : next.Unopposed id suspended := by
  intro ticket suspends
  exact unopposed ticket (suspending_before taken unasked suspends)

theorem Unopposed.agrees (unopposed : world.Unopposed id suspended) {ticket : ℕ}
    {frame : TenantFrame} (running : world.calls.frameAt ticket = some (.tenant frame)) :
    ∀ wanted, frame.suspends = some (id, wanted) → wanted = suspended := by
  intro wanted works
  have other : wanted ≠ !suspended := by
    intro same
    apply unopposed ticket
    rw [suspending_of_frameAt running, works, same]
  cases wanted <;> cases suspended <;> simp_all

theorem stored_step (unopposed : world.Unopposed id suspended)
    (taken : world.step hashKey event = some next)
    (stored : world.store.pool.suspension id = some suspended) :
    next.store.pool.suspension id = some suspended := by
  rcases tenant_cases taken with ⟨same, _⟩ | ⟨ticket, input, frame, rfl, running, rfl⟩ |
    ⟨_, _, target, newCount, _, _, pool, _⟩ | ⟨_, same, _⟩
  · rw [Database.suspension, same.rows]
    exact stored
  · exact TenantFrame.stored_exec stored (unopposed.agrees running)
  · rw [pool, Database.suspension_updateRequestCount]
    exact stored
  · rw [Database.suspension, same.rows]
    exact stored

theorem cached_step (present : TenantsPresent world) (unopposed : world.Unopposed id suspended)
    (taken : world.step hashKey event = some next)
    (agreed : world.store.SuspensionIs id suspended) :
    next.store.suspension id = some suspended := by
  obtain ⟨stored, cached⟩ := agreed
  rcases tenant_cases taken with ⟨same, _⟩ | ⟨ticket, input, frame, rfl, running, rfl⟩ |
    ⟨_, _, target, newCount, _, _, _, tenants, _⟩ | ⟨_, same, _⟩
  · rw [Store.suspension, Store.getTenant, same.tenants]
    exact cached
  · apply TenantFrame.cached_exec cached (unopposed.agrees running)
    intro info creating
    subst frame
    obtain ⟨uncached, _⟩ := present.creating (tenantAt_of_frameAt running)
    intro sameId
    rw [Store.suspension, ← sameId, uncached] at cached
    cases cached
  · rw [Store.suspension, Store.getTenant, tenants]
    exact cached
  · rw [Store.suspension, Store.getTenant, same.tenants, Store.reload_tenants_lookup,
      Option.map_map]
    exact stored

/-- How far a call for this state has got: past its statement the row has the
state, and after the call so has the cached record. -/
structure Settles (world : World) (ticket : ℕ) (id : String) (suspended : Bool) : Prop where
  working : ∀ frame, world.calls.lookup ticket =
      some { op := .setSuspended id suspended, status := .running frame } →
    ∃ mine, frame = .tenant mine ∧ mine.suspends = some (id, suspended)
  written : ∀ suspendedAt, world.calls.lookup ticket =
      some
        { op := .setSuspended id suspended
          status := .running (.tenant (.suspendCache id suspendedAt)) } →
    world.store.pool.suspension id = some suspended
  settled : world.calls.Returned ticket (.setSuspended id suspended) (.setSuspended true) →
    world.store.SuspensionIs id suspended

theorem Settles.of_unmade {ticket : ℕ} (unmade : world.calls.lookup ticket = none) :
    world.Settles ticket id suspended := by
  constructor
  · intro frame found
    rw [unmade] at found
    cases found
  · intro suspendedAt found
    rw [unmade] at found
    cases found
  · intro returned
    rw [Calls.Returned, unmade] at returned
    cases returned

end World

theorem TenantFrame.working_exec {hashKey : String → String} {input : Input} {store : Store}
    {id : String} {suspended : Bool} {frame : TenantFrame} {later : Frame}
    (works : frame.suspends = some (id, suspended))
    (goes : (Frame.exec hashKey input store (.tenant frame)).next = .running later) :
    ∃ mine, later = .tenant mine ∧ mine.suspends = some (id, suspended) := by
  cases frame with
  | suspendCheck target wanted =>
      cases works
      simp only [Frame.exec, exec] at goes
      split at goes <;> cases goes
      exact ⟨_, rfl, rfl⟩
  | suspendWrite target wanted =>
      cases works
      simp only [Frame.exec, exec] at goes
      split at goes <;> cases goes
      refine ⟨_, rfl, ?_⟩
      cases suspended <;> rfl
  | suspendCache target suspendedAt => cases goes
  | _ => cases works

/-- A call gets to its cache action by writing the row. -/
theorem TenantFrame.written_exec {hashKey : String → String} {input : Input} {store : Store}
    {id : String} {suspended : Bool} {frame : TenantFrame} {suspendedAt : Option Clock}
    (works : frame.suspends = some (id, suspended))
    (present : ∀ target, frame.subject = some target → target ∈ store.pool.tenantIds)
    (goes : (Frame.exec hashKey input store (.tenant frame)).next =
      .running (.tenant (.suspendCache id suspendedAt))) :
    (frame.exec input store).store.pool.suspension id = some suspended := by
  cases frame with
  | suspendCheck target wanted =>
      simp only [Frame.exec, exec] at goes
      split at goes <;> cases goes
  | suspendWrite target wanted =>
      cases works
      simp only [Frame.exec, exec] at goes ⊢
      split at goes
      · cases goes
      · rename_i pool executed
        cases (Input.execute_eq_some.mp executed).2
        rw [Outcome.goto_store, Database.suspension_updateSuspendedAt]
        have member : id ∈ store.pool.tenants.map TenantRow.id := present id rfl
        cases selected : findBy TenantRow.id id store.pool.tenants with
        | none => exact absurd member (findBy_eq_none_iff.mp selected)
        | some row =>
            rw [Database.suspension, selected]
            cases suspended <;> rfl
  | suspendCache target wanted => cases goes
  | _ => cases works

/-- A call that returns `Ok(true)` has set the cached state. -/
theorem TenantFrame.settled_exec {hashKey : String → String} {input : Input} {store : Store}
    {id : String} {suspended : Bool} {frame : TenantFrame}
    (works : frame.suspends = some (id, suspended))
    (known : ∀ target, frame.subject = some target → (store.getTenant target).isSome = true)
    (returns : (Frame.exec hashKey input store (.tenant frame)).next =
      .returned (.setSuspended true)) :
    (∃ suspendedAt, frame = .suspendCache id suspendedAt) ∧
      (frame.exec input store).store.suspension id = some suspended := by
  cases frame with
  | suspendCheck target wanted =>
      simp only [Frame.exec, exec] at returns
      split at returns <;> cases returns
  | suspendWrite target wanted =>
      simp only [Frame.exec, exec] at returns
      split at returns <;> cases returns
  | suspendCache target suspendedAt =>
      cases works
      obtain ⟨info, found⟩ := Option.isSome_iff_exists.mp (known id rfl)
      refine ⟨⟨suspendedAt, rfl⟩, ?_⟩
      simp only [exec, Outcome.finish_store]
      rw [Store.suspension, getTenant_modify, if_pos rfl, found]
      simp
  | _ => cases works

namespace World

variable {hashKey : String → String} {world next : World} {event : Event} {ticket : ℕ}
  {id : String} {suspended : Bool}

theorem Settles.step (settles : world.Settles ticket id suspended)
    (present : TenantsPresent world) (unopposed : world.Unopposed id suspended)
    (taken : world.step hashKey event = some next) : next.Settles ticket id suspended := by
  constructor
  · intro frame found
    rcases lookup_cases taken found with before | entered | ⟨input, old, _, _, before, moved, _⟩
    · exact settles.working frame before
    · have same : frame = (Op.setSuspended id suspended).entry := Status.running.inj entered
      exact ⟨_, same, rfl⟩
    · obtain ⟨mine, rfl, works⟩ := settles.working old before
      exact TenantFrame.working_exec works moved.symm
  · intro suspendedAt found
    rcases lookup_cases taken found with before | entered | ⟨input, old, _, _, before, moved, rfl⟩
    · exact stored_step unopposed taken (settles.written suspendedAt before)
    · cases entered
    · obtain ⟨mine, rfl, works⟩ := settles.working old before
      have running : world.calls.frameAt ticket = some (.tenant mine) :=
        Calls.frameAt_eq_some_iff.mpr ⟨_, before⟩
      apply TenantFrame.written_exec works _ moved.symm
      intro target checked
      have known := present.checked (tenantAt_of_frameAt running) checked
      obtain ⟨info, found⟩ := Option.isSome_iff_exists.mp known
      exact (present.cached found).2
  · intro returned
    rcases lookup_cases taken returned with before | entered |
      ⟨input, old, rfl, _, before, moved, rfl⟩
    · have agreed := settles.settled before
      exact ⟨stored_step unopposed taken agreed.stored,
        cached_step present unopposed taken agreed⟩
    · cases entered
    · obtain ⟨mine, rfl, works⟩ := settles.working old before
      have running : world.calls.frameAt ticket = some (.tenant mine) :=
        Calls.frameAt_eq_some_iff.mpr ⟨_, before⟩
      obtain ⟨⟨suspendedAt, rfl⟩, cached⟩ := TenantFrame.settled_exec works
        (fun _ => present.checked (tenantAt_of_frameAt running)) moved.symm
      exact ⟨stored_step unopposed taken (settles.written suspendedAt before), cached⟩

/-- A call for a state that overlaps no call for the opposite one, and is followed
by none, decides the state of the row and of the cached record from its return on. -/
theorem suspension_settles {start finish : World} {events : List Event}
    (reached : Reachable hashKey start) (unmade : start.calls.lookup ticket = none)
    (unopposed : start.Unopposed id suspended)
    (run : RunWhen hashKey (fun _ event => event.suspends id (!suspended) = false) start events
      finish)
    (returned : finish.calls.Returned ticket (.setSuspended id suspended) (.setSuspended true)) :
    finish.store.SuspensionIs id suspended := by
  have preserved : ∀ before event after,
      (TenantsPresent before ∧ before.Unopposed id suspended ∧
        before.Settles ticket id suspended) →
      event.suspends id (!suspended) = false → World.step hashKey before event = some after →
      TenantsPresent after ∧ after.Unopposed id suspended ∧
        after.Settles ticket id suspended := by
    intro before event after ⟨present, alone, settles⟩ unasked taken
    exact ⟨present.step taken, alone.step taken unasked, settles.step present alone taken⟩
  have final := run.invariant preserved
    ⟨reachable_tenantsPresent reached, unopposed, .of_unmade unmade⟩
  exact final.2.2.settled returned

end World

end SpellServer
