import SpellServer.Store.TenantPresence

/-!
# The quota counter

The counter of a tenant lives in the cache; the row gets absolute values of it
from spawned tasks and from the snapshots of `update_tenant`, in any order.  What
counts is what a restart would read of these values: as long as no patch lowers the
counter below one that is stored or still on its way, and the driver turns none into
a larger one, the row never gets ahead of the cache.
-/

namespace SpellServer

open Library

section

variable [Driver]

/-! ## Counts on their way to the row -/

/-- What a restart reads of a count that has been written. -/
def storedCount (count : UInt64) : UInt64 := readWord count.toInt64

def Task.count? (id : String) : Task → Option UInt64
  | .requestCount tenantId newCount =>
      if tenantId = id then some (storedCount newCount) else none
  | .lastUsedAt _ _ => none

def TenantFrame.count? (id : String) : TenantFrame → Option UInt64
  | .updateWrite target snapshot =>
      if target = id then some (storedCount snapshot.requestCount) else none
  | _ => none

/-- The counts a restart reads of the row, now or after a write that is on its way. -/
def World.carriedCounts (world : World) (id : String) : List UInt64 :=
  ((findBy TenantRow.id id world.store.pool.tenants).map fun row =>
      readWord row.requestCount).toList ++
    (world.tasks.filterMap (Task.count? id) ++
      (Dict.values world.calls).filterMap fun call =>
        (call.status.frame?.bind Frame.tenant?).bind (TenantFrame.count? id))

theorem World.mem_carriedCounts {world : World} {id : String} {count : UInt64} :
    count ∈ world.carriedCounts id ↔
      (∃ row ∈ world.store.pool.tenants, row.id = id ∧ readWord row.requestCount = count) ∨
      (∃ newCount, .requestCount id newCount ∈ world.tasks ∧ storedCount newCount = count) ∨
      ∃ ticket snapshot, world.tenantAt ticket = some (.updateWrite id snapshot) ∧
        storedCount snapshot.requestCount = count := by
  unfold carriedCounts
  rw [List.mem_append, List.mem_append]
  refine or_congr ?_ (or_congr ?_ ?_)
  · rw [Option.mem_toList, Option.map_eq_some_iff]
    simp only [findBy_eq_some_iff world.store.pool.tenants_id_unique, and_assoc]
  · rw [List.mem_filterMap]
    constructor
    · intro waiting
      obtain ⟨task, member, carried⟩ := waiting
      cases task with
      | lastUsedAt other nowTs => cases carried
      | requestCount other newCount =>
          simp only [Task.count?, Option.ite_none_right_eq_some, Option.some.injEq] at carried
          obtain ⟨rfl, rfl⟩ := carried
          exact ⟨newCount, member, rfl⟩
    · intro waiting
      obtain ⟨newCount, member, rfl⟩ := waiting
      exact ⟨_, member, by simp [Task.count?]⟩
  · rw [List.mem_filterMap]
    constructor
    · intro waiting
      obtain ⟨call, member, carried⟩ := waiting
      obtain ⟨frame, seen, carried⟩ := Option.bind_eq_some_iff.mp carried
      obtain ⟨ticket, stored⟩ := Dict.mem_values_iff.mp member
      cases frame with
      | updateWrite target snapshot =>
          simp only [TenantFrame.count?, Option.ite_none_right_eq_some,
            Option.some.injEq] at carried
          obtain ⟨rfl, rfl⟩ := carried
          refine ⟨ticket, snapshot, ?_, rfl⟩
          simp [World.tenantAt, Calls.viewAt, Calls.frameAt, stored, seen]
      | _ => cases carried
    · intro waiting
      obtain ⟨ticket, snapshot, seen, rfl⟩ := waiting
      unfold World.tenantAt Calls.viewAt Calls.frameAt at seen
      cases stored : world.calls.lookup ticket with
      | none => simp [stored] at seen
      | some call =>
          rw [stored, Option.bind_some] at seen
          exact ⟨call, Dict.mem_values_iff.mpr ⟨ticket, stored⟩, by simp [seen, TenantFrame.count?]⟩

/-- A patch does not lower the counter below a count that is stored or on its
way, the counter of an unlimited tenant does not wrap, and a restart reads neither
of a patch nor of a request a larger count than it was. -/
def TenantFrame.keepsCountsBelow (world : World) : TenantFrame → Bool
  | .updateApply id patch =>
      patch.requestCount.all fun count =>
        decide (storedCount count ≤ count) && (world.carriedCounts id).all (· ≤ count)
  | .consumeQuota id =>
      (world.store.getTenant id).all fun info =>
        info.exhausted ||
          (decide (info.requestCount < info.consume.requestCount) &&
            decide (storedCount info.consume.requestCount ≤ info.consume.requestCount))
  | _ => true

def countsOrdered (world : World) : Event → Bool
  | .act ticket _ => (world.tenantAt ticket).all fun frame => frame.keepsCountsBelow world
  | _ => true

/-- Neither of this count nor of one that is stored or on its way does a restart read
a larger one. -/
structure World.CountBound (world : World) (id : String) (bound : UInt64) : Prop where
  stored : storedCount bound ≤ bound
  carried : ∀ {count}, count ∈ world.carriedCounts id → count ≤ bound

theorem World.CountBound.mono {world next : World} {id : String} {bound : UInt64}
    (bounds : world.CountBound id bound)
    (fewer : ∀ count, count ∈ next.carriedCounts id →
      count ∈ world.carriedCounts id ∨ count = storedCount bound) : next.CountBound id bound := by
  refine ⟨bounds.stored, ?_⟩
  intro count member
  rcases fewer count member with old | rfl
  · exact bounds.carried old
  · exact bounds.stored

/-- No count in the row or on its way to it is above the cached one. -/
structure CountsTracked (world : World) : Prop where
  cached : ∀ {id info}, world.store.getTenant id = some info →
    world.CountBound id info.requestCount
  creating : ∀ {ticket info}, world.tenantAt ticket = some (.createCache info) →
    world.CountBound info.id info.requestCount

namespace CountsTracked

variable {world next : World} {ticket : ℕ} {frame : TenantFrame} {status : Status Frame Result}

/-- A new tenant has still to be cached. -/
private def isCache : TenantFrame → Bool
  | .createCache _ => true
  | _ => false

/-- A snapshot has still to be written. -/
private def isWrite : TenantFrame → Bool
  | .updateWrite _ _ => true
  | _ => false

private def goesTo (wanted : TenantFrame → Bool) (status : Status Frame Result) : Bool :=
  (status.frame?.bind Frame.tenant?).any wanted

/-- A count that is new is the one of every record it belongs to. -/
private theorem of_carried (tracked : CountsTracked world)
    (carried : ∀ id count, count ∈ next.carriedCounts id → count ∈ world.carriedCounts id ∨
      (∀ info, next.store.getTenant id = some info → count = storedCount info.requestCount) ∧
        ∀ other info, next.tenantAt other = some (.createCache info) → info.id = id →
          count = storedCount info.requestCount)
    (cached : ∀ id info, next.store.getTenant id = some info →
      (∃ old, world.store.getTenant id = some old ∧ old.requestCount = info.requestCount) ∨
        world.CountBound id info.requestCount)
    (creates : ∀ other info, next.tenantAt other = some (.createCache info) →
      world.tenantAt other = some (.createCache info) ∨
        world.CountBound info.id info.requestCount) :
    CountsTracked next := by
  constructor
  · intro id info found
    have before : world.CountBound id info.requestCount := by
      rcases cached id info found with ⟨old, known, same⟩ | bounds
      · rw [← same]
        exact tracked.cached known
      · exact bounds
    apply before.mono
    intro count member
    exact (carried id count member).imp_right fun new => new.1 info found
  · intro other info seen
    have before : world.CountBound info.id info.requestCount := by
      rcases creates other info seen with old | bounds
      · exact tracked.creating old
      · exact bounds
    apply before.mono
    intro count member
    exact (carried info.id count member).imp_right fun new => new.2 other info seen rfl

/-- Where the counts after a step of a call come from. -/
private theorem carried_of_act
    (running : world.calls.frameAt ticket = some (.tenant frame))
    (calls : next.calls = world.calls.advance ticket status) {id : String} {count : UInt64}
    (member : count ∈ next.carriedCounts id) :
    (∃ row ∈ next.store.pool.tenants, row.id = id ∧ readWord row.requestCount = count) ∨
      (∃ newCount, .requestCount id newCount ∈ next.tasks ∧ storedCount newCount = count) ∨
      (∃ snapshot, status = .running (.tenant (.updateWrite id snapshot)) ∧
        storedCount snapshot.requestCount = count) ∨
      count ∈ world.carriedCounts id := by
  rcases World.mem_carriedCounts.mp member with row | task | ⟨other, snapshot, seen, same⟩
  · exact Or.inl row
  · exact Or.inr (Or.inl task)
  · right; right
    rw [World.tenantAt_advance running calls] at seen
    split at seen
    · cases status with
      | running later =>
          cases later with
          | tenant later =>
              cases seen
              exact Or.inl ⟨snapshot, rfl, same⟩
          | key later | origin later | dictionary later => cases seen
      | returned result => cases seen
    · exact Or.inr (World.mem_carriedCounts.mpr (Or.inr (Or.inr ⟨other, snapshot, seen, same⟩)))

private theorem carried_of_rows {id : String} {count : UInt64}
    (row : ∃ row ∈ world.store.pool.tenants, row.id = id ∧ readWord row.requestCount = count) :
    count ∈ world.carriedCounts id :=
  World.mem_carriedCounts.mpr (Or.inl row)

/-- A statement for one tenant that leaves in the row a count that was carried. -/
private theorem carried_of_updated {id : String} {change : TenantRow → TenantRow}
    (keeps : ∀ row, (change row).id = row.id)
    (carried : ∀ row ∈ world.store.pool.tenants, row.id = id →
      readWord (change row).requestCount ∈ world.carriedCounts id) :
    ∀ row ∈ (world.store.pool.updateTenants id change keeps).tenants,
      readWord row.requestCount ∈ world.carriedCounts row.id := by
  intro row member
  obtain ⟨old, oldMember, rfl⟩ := List.mem_map.mp member
  by_cases selected : old.id = id
  · rw [if_pos selected, keeps, selected]
    exact carried old oldMember selected
  · rw [if_neg selected]
    exact carried_of_rows ⟨old, oldMember, rfl, rfl⟩

/-- No row, task or snapshot names a tenant that is only now inserted. -/
private theorem uncarried (present : TenantsPresent world) {id : String}
    (fresh : id ∉ world.store.pool.tenantIds) (count : UInt64) :
    count ∉ world.carriedCounts id := by
  intro member
  rcases World.mem_carriedCounts.mp member with ⟨row, stored, same, _⟩ | ⟨_, task, _⟩ |
    ⟨other, snapshot, seen, _⟩
  · exact fresh (same ▸ List.mem_map_of_mem stored)
  · obtain ⟨known, found⟩ := Option.isSome_iff_exists.mp (present.counted task)
    exact fresh (present.cached found).2
  · obtain ⟨known, found⟩ := Option.isSome_iff_exists.mp (present.checked seen rfl)
    exact fresh (present.cached found).2

private theorem creates_of_act
    (running : world.calls.frameAt ticket = some (.tenant frame))
    (calls : next.calls = world.calls.advance ticket status)
    (goes : goesTo isCache status = false) {other : ℕ}
    {info : TenantInfo} (seen : next.tenantAt other = some (.createCache info)) :
    world.tenantAt other = some (.createCache info) := by
  have nothing : (status.frame?.bind Frame.tenant?).bind TenantFrame.created = none := by
    unfold goesTo at goes
    cases later : status.frame?.bind Frame.tenant? with
    | none => rfl
    | some mine =>
        rw [later] at goes
        cases mine with
        | createCache created => cases goes
        | _ => rfl
  exact World.creates_before running calls nothing seen

/-- A step that puts no new count on its way and lowers no cached one. -/
private theorem of_quiet (tracked : CountsTracked world)
    (running : world.calls.frameAt ticket = some (.tenant frame))
    (calls : next.calls = world.calls.advance ticket status)
    (rows : ∀ row ∈ next.store.pool.tenants,
      readWord row.requestCount ∈ world.carriedCounts row.id)
    (tasks : next.tasks = world.tasks)
    (cached : ∀ id info, next.store.getTenant id = some info →
      ∃ old, world.store.getTenant id = some old ∧ old.requestCount = info.requestCount)
    (quiet : (goesTo isWrite status || goesTo isCache status) = false) :
    CountsTracked next := by
  obtain ⟨writes, creates⟩ : goesTo isWrite status = false ∧ goesTo isCache status = false := by
    simpa only [Bool.or_eq_false_iff] using quiet
  have fewer : ∀ id count, count ∈ next.carriedCounts id → count ∈ world.carriedCounts id := by
    intro id count member
    rcases carried_of_act running calls member with ⟨row, stored, rfl, rfl⟩ | task |
      ⟨snapshot, goes, _⟩ | old
    · exact rows row stored
    · rw [tasks] at task
      exact World.mem_carriedCounts.mpr (Or.inr (Or.inl task))
    · rw [goes] at writes
      cases writes
    · exact old
  refine tracked.of_carried (fun id count member => Or.inl (fewer id count member))
    (fun id info found => Or.inl (cached id info found)) ?_
  intro other info seen
  exact Or.inl (creates_of_act running calls creates seen)

private theorem createInsert {name : String} {language : Option String}
    {quotaLimit periodStart periodEnd : Option UInt64} {info : TenantInfo} {pool : Database}
    (tracked : CountsTracked world) (present : TenantsPresent world)
    (running : world.calls.frameAt ticket =
      some (.tenant (.createInsert name language quotaLimit periodStart periodEnd)))
    (zero : info.requestCount = 0) (fresh : info.id ∉ world.store.pool.tenantIds)
    (rows : pool.tenants = world.store.pool.tenants ++ [newTenantRow info])
    (store : next.store = { world.store with pool })
    (tasks : next.tasks = world.tasks)
    (calls : next.calls = world.calls.advance ticket (.running (.tenant (.createCache info)))) :
    CountsTracked next := by
  have lookup : ∀ id, next.store.getTenant id = world.store.getTenant id := by
    intro id
    rw [store]
    rfl
  have carried : ∀ id count, count ∈ next.carriedCounts id →
      count ∈ world.carriedCounts id ∨ (id = info.id ∧ count = 0) := by
    intro id count member
    rcases carried_of_act running calls member with ⟨row, stored, rfl, rfl⟩ | task |
      ⟨snapshot, goes, _⟩ | old
    · rw [store, rows, List.mem_append, List.mem_singleton] at stored
      rcases stored with old | rfl
      · exact Or.inl (carried_of_rows ⟨row, old, rfl, rfl⟩)
      · exact Or.inr ⟨rfl, readWord_zero⟩
    · rw [tasks] at task
      exact Or.inl (World.mem_carriedCounts.mpr (Or.inr (Or.inl task)))
    · cases goes
    · exact Or.inl old
  have onlyMine : ∀ other created, next.tenantAt other = some (.createCache created) →
      created = info ∨ world.tenantAt other = some (.createCache created) ∧ created.id ≠ info.id := by
    intro other created seen
    rw [World.tenantAt_advance running calls] at seen
    split at seen
    · cases seen
      exact Or.inl rfl
    · refine Or.inr ⟨seen, ?_⟩
      intro same
      exact fresh (same ▸ (present.creating seen).2)
  refine tracked.of_carried ?_ ?_ ?_
  · intro id count member
    refine (carried id count member).imp_right ?_
    intro new
    obtain ⟨rfl, rfl⟩ := new
    constructor
    · intro known found
      rw [lookup] at found
      exact absurd (present.cached found).2 fresh
    · intro other created seen same
      rcases onlyMine other created seen with rfl | ⟨_, differs⟩
      · rw [zero]
        exact readWord_zero.symm
      · exact absurd same differs
  · intro id known found
    rw [lookup] at found
    exact Or.inl ⟨known, found, rfl⟩
  · intro other created seen
    rcases onlyMine other created seen with rfl | ⟨before, _⟩
    · right
      constructor
      · rw [zero]
        exact UInt64.le_of_eq readWord_zero
      · intro count member
        exact absurd member (uncarried present fresh count)
    · exact Or.inl before

private theorem createCache {info : TenantInfo} (tracked : CountsTracked world)
    (running : world.calls.frameAt ticket = some (.tenant (.createCache info)))
    (pool : next.store.pool = world.store.pool)
    (lookup : ∀ id, next.store.getTenant id =
      if id = info.id then some info else world.store.getTenant id)
    (tasks : next.tasks = world.tasks)
    (calls : next.calls = world.calls.advance ticket status)
    (leaves : status.frame?.bind Frame.tenant? = none) : CountsTracked next := by
  have fewer : ∀ id count, count ∈ next.carriedCounts id → count ∈ world.carriedCounts id := by
    intro id count member
    rcases carried_of_act running calls member with row | task | ⟨snapshot, goes, _⟩ | old
    · rw [pool] at row
      exact carried_of_rows row
    · rw [tasks] at task
      exact World.mem_carriedCounts.mpr (Or.inr (Or.inl task))
    · rw [goes] at leaves
      cases leaves
    · exact old
  refine tracked.of_carried (fun id count member => Or.inl (fewer id count member)) ?_ ?_
  · intro id known found
    rw [lookup] at found
    split at found
    · rename_i same
      cases found
      right
      rw [same]
      exact tracked.creating (World.tenantAt_of_frameAt running)
    · exact Or.inl ⟨known, found, rfl⟩
  · intro other created seen
    have elsewhere : goesTo isCache status = false := by simp [goesTo, leaves]
    exact Or.inl (creates_of_act running calls elsewhere seen)

/-- A step that caches a record no count is above, and puts at most its own
count on its way. -/
private theorem of_recount {id : String} {info recounted : TenantInfo}
    (tracked : CountsTracked world) (present : TenantsPresent world)
    (running : world.calls.frameAt ticket = some (.tenant frame))
    (calls : next.calls = world.calls.advance ticket status)
    (goes : goesTo isCache status = false) (found : world.store.getTenant id = some info)
    (bound : world.CountBound id recounted.requestCount)
    (lookup : ∀ other, next.store.getTenant other =
      if other = id then some recounted else world.store.getTenant other)
    (carried : ∀ other count, count ∈ next.carriedCounts other →
      count ∈ world.carriedCounts other ∨
        (other = id ∧ count = storedCount recounted.requestCount)) :
    CountsTracked next := by
  refine tracked.of_carried ?_ ?_ ?_
  · intro other count member
    refine (carried other count member).imp_right ?_
    intro mine
    obtain ⟨rfl, rfl⟩ := mine
    constructor
    · intro known seen
      rw [lookup, if_pos rfl] at seen
      cases seen
      rfl
    · intro other created seen same
      have absent := (present.creating (creates_of_act running calls goes seen)).1
      rw [same, found] at absent
      cases absent
  · intro other known seen
    rw [lookup] at seen
    split at seen
    · cases seen
      subst other
      exact Or.inr bound
    · exact Or.inl ⟨known, seen, rfl⟩
  · intro other created seen
    exact Or.inl (creates_of_act running calls goes seen)

/-- The snapshot carries the counter just cached, and nothing carries more. -/
private theorem updateApply {id : String} {patch : TenantPatch} {info : TenantInfo}
    (tracked : CountsTracked world) (present : TenantsPresent world)
    (running : world.calls.frameAt ticket = some (.tenant (.updateApply id patch)))
    (found : world.store.getTenant id = some info)
    (above : ∀ count ∈ patch.requestCount, world.CountBound id count)
    (pool : next.store.pool = world.store.pool)
    (lookup : ∀ other, next.store.getTenant other =
      if other = id then some (patch.apply info) else world.store.getTenant other)
    (tasks : next.tasks = world.tasks)
    (calls : next.calls =
      world.calls.advance ticket (.running (.tenant (.updateWrite id (patch.apply info))))) :
    CountsTracked next := by
  have carried : ∀ other count, count ∈ next.carriedCounts other →
      count ∈ world.carriedCounts other ∨
        (other = id ∧ count = storedCount (patch.apply info).requestCount) := by
    intro other count member
    rcases carried_of_act running calls member with row | task | ⟨snapshot, goes, same⟩ | old
    · rw [pool] at row
      exact Or.inl (carried_of_rows row)
    · rw [tasks] at task
      exact Or.inl (World.mem_carriedCounts.mpr (Or.inr (Or.inl task)))
    · cases goes
      exact Or.inr ⟨rfl, same.symm⟩
    · exact Or.inl old
  have bound : world.CountBound id (patch.apply info).requestCount := by
    cases patched : patch.requestCount with
    | none =>
        simp only [TenantPatch.apply, patched, Option.getD_none]
        exact tracked.cached found
    | some lowered =>
        simp only [TenantPatch.apply, patched, Option.getD_some]
        exact above lowered patched
  exact tracked.of_recount present running calls rfl found bound lookup carried

private theorem consumeQuota {id : String} {info : TenantInfo} {result : Result}
    (tracked : CountsTracked world) (present : TenantsPresent world)
    (running : world.calls.frameAt ticket = some (.tenant (.consumeQuota id)))
    (found : world.store.getTenant id = some info)
    (grows : info.requestCount < info.consume.requestCount)
    (stored : storedCount info.consume.requestCount ≤ info.consume.requestCount)
    (pool : next.store.pool = world.store.pool)
    (lookup : ∀ other, next.store.getTenant other =
      if other = id then some info.consume else world.store.getTenant other)
    (tasks : next.tasks =
      world.tasks ++ [.requestCount id info.consume.requestCount])
    (calls : next.calls = world.calls.advance ticket (.returned result)) :
    CountsTracked next := by
  have carried : ∀ other count, count ∈ next.carriedCounts other →
      count ∈ world.carriedCounts other ∨
        (other = id ∧ count = storedCount info.consume.requestCount) := by
    intro other count member
    rcases carried_of_act running calls member with row | ⟨newCount, task, rfl⟩ |
      ⟨snapshot, goes, _⟩ | old
    · rw [pool] at row
      exact Or.inl (carried_of_rows row)
    · rw [tasks, List.mem_append, List.mem_singleton] at task
      rcases task with old | new
      · exact Or.inl (World.mem_carriedCounts.mpr (Or.inr (Or.inl ⟨newCount, old, rfl⟩)))
      · cases new
        exact Or.inr ⟨rfl, rfl⟩
    · cases goes
    · exact Or.inl old
  have bound : world.CountBound id info.consume.requestCount :=
    ⟨stored, fun member =>
      UInt64.le_trans ((tracked.cached found).carried member) (UInt64.le_of_lt grows)⟩
  exact tracked.of_recount present running calls rfl found bound lookup carried

theorem of_act {input : Input} (tracked : CountsTracked world) (present : TenantsPresent world)
    (running : world.calls.frameAt ticket = some (.tenant frame))
    (ordered : frame.keepsCountsBelow world = true)
    (result : next = world.acted ticket (frame.exec input world.store)) : CountsTracked next := by
  subst next
  unfold World.acted
  have kept : ∀ row ∈ world.store.pool.tenants,
      readWord row.requestCount ∈ world.carriedCounts row.id :=
    fun row member => carried_of_rows ⟨row, member, rfl, rfl⟩
  have unchanged : ∀ id info, world.store.getTenant id = some info →
      ∃ old, world.store.getTenant id = some old ∧ old.requestCount = info.requestCount :=
    fun _ info found => ⟨info, found, rfl⟩
  have mine := World.tenantAt_of_frameAt running
  cases frame with
  | createInsert name language quotaLimit periodStart periodEnd =>
      simp only [TenantFrame.exec]
      split
      · exact tracked.of_quiet running rfl kept (by simp) unchanged rfl
      · rename_i pool executed
        obtain ⟨fresh, appended, _⟩ :=
          Database.insertTenant_eq_some (Input.execute_eq_some.mp executed).2
        exact tracked.createInsert present running rfl fresh appended rfl (by simp) rfl
  | createCache info =>
      exact tracked.createCache running rfl (getTenant_insert world.store info info.id)
        (by simp [TenantFrame.exec]) rfl rfl
  | updateCheck id patch | suspendCheck id suspended =>
      simp only [TenantFrame.exec]
      split <;> exact tracked.of_quiet running rfl kept (by simp) unchanged rfl
  | updateApply id patch =>
      obtain ⟨info, found⟩ := Option.isSome_iff_exists.mp (present.checked mine rfl)
      have stored : world.store.tenants.lookup id = some info := found
      simp only [TenantFrame.exec, stored]
      refine tracked.updateApply present running found ?_ rfl
        (getTenant_insert world.store (patch.apply info) id) (by simp) rfl
      intro count patched
      have lowered : patch.requestCount = some count := patched
      have allowed : storedCount count ≤ count ∧
          ∀ old ∈ world.carriedCounts id, old ≤ count := by
        simpa [TenantFrame.keepsCountsBelow, lowered] using ordered
      exact ⟨allowed.1, fun member => allowed.2 _ member⟩
  | updateWrite id snapshot =>
      simp only [TenantFrame.exec]
      split
      · exact tracked.of_quiet running rfl kept (by simp) unchanged rfl
      · rename_i pool executed
        cases (Input.execute_eq_some.mp executed).2
        refine tracked.of_quiet running rfl ?_ (by simp) unchanged rfl
        apply carried_of_updated
        · intro row
          rfl
        · intro row member selected
          exact World.mem_carriedCounts.mpr (Or.inr (Or.inr ⟨ticket, snapshot, mine, rfl⟩))
  | suspendWrite id suspended =>
      simp only [TenantFrame.exec]
      split
      · exact tracked.of_quiet running rfl kept (by simp) unchanged rfl
      · rename_i pool executed
        cases (Input.execute_eq_some.mp executed).2
        refine tracked.of_quiet running rfl ?_ (by simp) unchanged rfl
        apply carried_of_updated
        · intro row
          rfl
        · intro row member selected
          exact carried_of_rows ⟨row, member, selected, rfl⟩
  | suspendCache id suspendedAt =>
      refine tracked.of_quiet running rfl kept (by simp [TenantFrame.exec]) ?_ rfl
      intro other info found
      simp only [TenantFrame.exec, Outcome.finish_store] at found
      rw [getTenant_modify] at found
      split at found
      · rename_i same
        obtain ⟨old, before, rfl⟩ := Option.map_eq_some_iff.mp found
        exact ⟨old, same ▸ before, rfl⟩
      · exact unchanged other info found
  | consumeQuota id =>
      simp only [TenantFrame.exec]
      split
      · exact tracked.of_quiet running rfl kept (by simp) unchanged rfl
      · rename_i info stored
        have found : world.store.getTenant id = some info := stored
        split
        · exact tracked.of_quiet running rfl kept (by simp) unchanged rfl
        · rename_i admitted
          obtain ⟨grows, stored⟩ : info.requestCount < info.consume.requestCount ∧
              storedCount info.consume.requestCount ≤ info.consume.requestCount := by
            simpa [TenantFrame.keepsCountsBelow, found, admitted] using ordered
          exact tracked.consumeQuota present running found grows stored rfl
            (getTenant_insert world.store info.consume id) rfl rfl

theorem of_idle {pool : Database} (same : SameTenants (Store.reload pool) next.store)
    (idle : ∀ ticket, next.calls.frameAt ticket = none) (tasks : next.tasks = []) :
    CountsTracked next := by
  have nobody : ∀ ticket, next.tenantAt ticket = none := by
    intro ticket
    simp [World.tenantAt, Calls.viewAt, idle]
  constructor
  · intro id info found
    rw [Store.getTenant, same.tenants, Store.reload_tenants_lookup] at found
    obtain ⟨row, selected, rfl⟩ := Option.map_eq_some_iff.mp found
    refine ⟨UInt64.le_of_eq (readWord_readWord row.requestCount), ?_⟩
    intro count member
    rcases World.mem_carriedCounts.mp member with ⟨other, stored, sameId, rfl⟩ | ⟨_, task, _⟩ |
      ⟨ticket, snapshot, seen, _⟩
    · rw [same.rows] at stored
      have mine := (findBy_eq_some_iff pool.tenants_id_unique).mpr ⟨stored, sameId⟩
      rw [selected] at mine
      cases mine
      exact UInt64.le_refl _
    · rw [tasks] at task
      cases task
    · rw [nobody] at seen
      cases seen
  · intro ticket info seen
    rw [nobody] at seen
    cases seen

/-- A step that leaves the calls past their check where they are. -/
private theorem of_undisturbed (tracked : CountsTracked world)
    (calls : Calls.Undisturbed Frame.tenant? TenantFrame.IsEntry world.calls next.calls)
    (rows : ∀ row ∈ next.store.pool.tenants,
      readWord row.requestCount ∈ world.carriedCounts row.id)
    (tenants : next.store.tenants = world.store.tenants)
    (tasks : ∀ id newCount, .requestCount id newCount ∈ next.tasks →
      .requestCount id newCount ∈ world.tasks) : CountsTracked next := by
  have fewer : ∀ id count, count ∈ next.carriedCounts id → count ∈ world.carriedCounts id := by
    intro id count member
    rcases World.mem_carriedCounts.mp member with ⟨row, stored, rfl, rfl⟩ | ⟨newCount, task, same⟩ |
      ⟨ticket, snapshot, seen, same⟩
    · exact rows row stored
    · exact World.mem_carriedCounts.mpr (Or.inr (Or.inl ⟨newCount, tasks id newCount task, same⟩))
    · have before := (calls.begun seen).resolve_right fun entry => entry
      exact World.mem_carriedCounts.mpr (Or.inr (Or.inr ⟨ticket, snapshot, before, same⟩))
  refine tracked.of_carried (fun id count member => Or.inl (fewer id count member)) ?_ ?_
  · intro id info found
    rw [Store.getTenant, tenants] at found
    exact Or.inl ⟨info, found, rfl⟩
  · intro ticket info seen
    exact Or.inl ((calls.begun seen).resolve_right fun entry => entry)

theorem step {hashKey : String → String} {event : Event} (tracked : CountsTracked world)
    (present : TenantsPresent world) (ordered : countsOrdered world event = true)
    (taken : world.step hashKey event = some next) : CountsTracked next := by
  rcases World.tenant_cases taken with ⟨same, calls, tasks, _⟩ |
    ⟨ticket, input, frame, rfl, running, result⟩ |
    ⟨_, _, id, newCount, _, pending, pool, tenants, calls, tasks⟩ | ⟨_, same, idle, tasks⟩
  · refine tracked.of_undisturbed calls ?_ same.tenants tasks
    intro row member
    rw [same.rows] at member
    exact carried_of_rows ⟨row, member, rfl, rfl⟩
  · refine tracked.of_act present running ?_ result
    simpa [countsOrdered, World.tenantAt_of_frameAt running] using ordered
  · refine tracked.of_undisturbed ?_ ?_ tenants fun _ _ => tasks _
    · rw [calls]
      exact .refl _
    · rw [pool]
      apply carried_of_updated
      intro row member selected
      exact World.mem_carriedCounts.mpr (Or.inr (Or.inl ⟨newCount, pending, rfl⟩))
  · exact of_idle same idle tasks

end CountsTracked

/-- The limit that a restart reads of the tenant's row is no stricter than this one. -/
def Database.LimitStored (pool : Database) (info : TenantInfo) : Prop :=
  ∀ row ∈ pool.tenants, row.id = info.id →
    readWord row.quotaLimit = 0 ∨
      info.quotaLimit ≠ 0 ∧ info.quotaLimit ≤ readWord row.quotaLimit

/-- In an ordered run a restart never loads a higher count than the cached one, and
exhausts no tenant that was not exhausted, unless its row has a stricter limit. -/
theorem ordered_restart_never_overcounts {hashKey : String → String} {world next : World}
    {now : Clock} {input : Input} {id : String} {info info' : TenantInfo}
    (reached : World.ReachableWhen hashKey
      (fun before event => countsOrdered before event = true) world)
    (restarted : world.step hashKey (.restart now input) = some next)
    (before : world.store.getTenant id = some info)
    (after : next.store.getTenant id = some info') :
    info'.requestCount ≤ info.requestCount ∧
      (world.store.pool.LimitStored info → info'.exhausted = true → info.exhausted = true) := by
  obtain ⟨events, run⟩ := reached
  have unchanged : SameTenants (Store.reload Database.empty) World.blank.store := ⟨rfl, rfl⟩
  have preserved : ∀ before event after, TenantsPresent before ∧ CountsTracked before →
      countsOrdered before event = true → before.step hashKey event = some after →
      TenantsPresent after ∧ CountsTracked after := by
    intro before event after kept ordered taken
    obtain ⟨present, tracked⟩ := kept
    exact ⟨present.step taken, tracked.step present ordered taken⟩
  obtain ⟨present, tracked⟩ := run.invariant preserved
    ⟨.of_idle unchanged (fun _ => rfl) rfl, .of_idle unchanged (fun _ => rfl) rfl⟩
  rw [Store.getTenant, (World.restart_sameTenants restarted).tenants,
    Store.reload_tenants_lookup] at after
  obtain ⟨row, selected, rfl⟩ := Option.map_eq_some_iff.mp after
  obtain ⟨member, sameId⟩ := findBy_mem selected
  have bounded : (tenantInfoFromRow row).requestCount ≤ info.requestCount :=
    (tracked.cached before).carried
      (World.mem_carriedCounts.mpr (Or.inl ⟨row, member, sameId, rfl⟩))
  refine ⟨bounded, ?_⟩
  intro limit exhausted
  rw [TenantInfo.exhausted_iff] at exhausted ⊢
  have named : row.id = info.id := sameId.trans (present.cached before).1.symm
  obtain ⟨given, reached⟩ := exhausted
  rcases limit row member named with none | ⟨limited, looser⟩
  · exact absurd none given
  · exact ⟨limited, UInt64.le_trans looser (UInt64.le_trans reached bounded)⟩

end

open scoped DefaultBackend

/-- A tenant limited to two requests uses them up, is reset by a patch, and only
then do the spawned writes of its two requests reach the row. -/
def lateCounts : List Event :=
  [.restart (sampleInput 0 0).now (sampleInput 0 0),
    .call 0 (.createTenant "acme" none (some 2) none none),
    .act 0 (sampleInput 0 4), .act 0 (sampleInput 0 4),
    .act 0 (sampleInput 1 1), .act 0 (sampleInput 0 4),
    .call 1 (.tryConsumeQuota (sampleId 0).text), .act 1 (sampleInput 0 4),
    .call 2 (.tryConsumeQuota (sampleId 0).text), .act 2 (sampleInput 0 4),
    .call 3 (.updateTenant (sampleId 0).text
      { name := none
        language := none
        quotaLimit := none
        requestCount := some 0
        periodStart := none
        periodEnd := none }),
    .act 3 (sampleInput 0 4), .act 3 (sampleInput 0 4), .act 3 (sampleInput 0 4),
    .background 0 true, .background 0 true]

theorem count_overtakes_reset :
    ¬∀ hashKey world next now input id info info', World.Reachable hashKey world →
      world.step hashKey (.restart now input) = some next →
      world.store.getTenant id = some info → next.store.getTenant id = some info' →
      info'.requestCount ≤ info.requestCount := by
  intro claim
  obtain ⟨world, run, outcome⟩ :=
    World.exists_run sampleHash (fun _ _ => true) lateCounts
      (fun world =>
        ((world.store.getTenant (sampleId 0).text).map TenantInfo.requestCount == some 0 &&
          ((world.step sampleHash (.restart (sampleInput 0 4).now (sampleInput 0 4))).bind
            fun next => (next.store.getTenant (sampleId 0).text).map TenantInfo.requestCount) ==
              some 2))
      (by decide +kernel)
  obtain ⟨cached, loaded⟩ :
      (world.store.getTenant (sampleId 0).text).map TenantInfo.requestCount = some 0 ∧
      ((world.step sampleHash (.restart (sampleInput 0 4).now (sampleInput 0 4))).bind
        fun next => (next.store.getTenant (sampleId 0).text).map TenantInfo.requestCount) =
          some 2 := by
    simpa using outcome
  obtain ⟨info, before, zero⟩ := Option.map_eq_some_iff.mp cached
  obtain ⟨next, restarted, reloaded⟩ := Option.bind_eq_some_iff.mp loaded
  obtain ⟨info', after, two⟩ := Option.map_eq_some_iff.mp reloaded
  have bounded := claim sampleHash world next _ _ _ info info'
    (World.ReachableWhen.reachable ⟨_, run⟩) restarted before after
  rw [zero, two] at bounded
  exact absurd bounded (by decide)

theorem ordered_restart_never_overcounts_one_write_pending :
    ∃ (world next : World) (info info' : TenantInfo),
      world.step sampleHash (.restart (sampleInput 0 4).now (sampleInput 0 4)) = some next ∧
      world.store.getTenant (sampleId 0).text = some info ∧
      next.store.getTenant (sampleId 0).text = some info' ∧
      info.requestCount = 2 ∧ info'.requestCount = 1 ∧ info'.requestCount ≤ info.requestCount := by
  obtain ⟨world, run, outcome⟩ :=
    World.exists_run sampleHash countsOrdered (lateCounts.take 10 ++ [.background 0 true])
      (fun world =>
        ((world.store.getTenant (sampleId 0).text).map TenantInfo.requestCount == some 2 &&
          ((world.step sampleHash (.restart (sampleInput 0 4).now (sampleInput 0 4))).bind
            fun next => (next.store.getTenant (sampleId 0).text).map TenantInfo.requestCount) ==
              some 1))
      (by decide +kernel)
  obtain ⟨cached, loaded⟩ :
      (world.store.getTenant (sampleId 0).text).map TenantInfo.requestCount = some 2 ∧
      ((world.step sampleHash (.restart (sampleInput 0 4).now (sampleInput 0 4))).bind
        fun next => (next.store.getTenant (sampleId 0).text).map TenantInfo.requestCount) =
          some 1 := by
    simpa using outcome
  obtain ⟨info, before, two⟩ := Option.map_eq_some_iff.mp cached
  obtain ⟨next, restarted, reloaded⟩ := Option.bind_eq_some_iff.mp loaded
  obtain ⟨info', after, one⟩ := Option.map_eq_some_iff.mp reloaded
  exact ⟨world, next, info, info', restarted, before, after, two, one,
    (ordered_restart_never_overcounts ⟨_, run⟩ restarted before after).1⟩

end SpellServer
