import SpellServer.Store.Locality

/-!
# Concurrent registration and revocation of origins

The union set and the per-tenant map are written under two locks, after the
statement that changes the table.  Nothing orders these actions between calls,
so a revocation can undo half of a registration that has just been completed.
`originsOrdered` is the condition on an action under which it does not, and
the invariant below then holds in every state of a run.
-/

namespace SpellServer

open Library

section

variable [Driver]

/-- A tenant's claim on an origin, in the table. -/
def Database.HasOrigin (database : Database) (tenantId origin : String) : Prop :=
  (tenantId, origin) ∈ database.tenantOrigins.map OriginRow.owned

instance (database : Database) (tenantId origin : String) :
    Decidable (database.HasOrigin tenantId origin) :=
  inferInstanceAs (Decidable (_ ∈ _))

/-- The union set, the per-tenant map and the table say the same. -/
structure OriginsAgree (store : Store) : Prop where
  union : ∀ origin, store.isRegisteredOrigin origin = true ↔
    ∃ tenantId, store.tenantOwnsOrigin tenantId origin = true
  table : ∀ tenantId origin, store.tenantOwnsOrigin tenantId origin = true ↔
    store.pool.HasOrigin tenantId origin

namespace OriginFrame

def entersUnion (origin : String) : OriginFrame → Bool
  | .registerAny info => info.origin = origin
  | _ => false

def entersMap (origin : String) : OriginFrame → Bool
  | .registerByTenant info => info.origin = origin
  | _ => false

def registers (tenantId origin : String) : OriginFrame → Bool
  | .registerAny info | .registerByTenant info =>
      info.tenantId = tenantId && info.origin = origin
  | _ => false

def leavesMap (tenantId origin : String) : OriginFrame → Bool
  | .revokeByTenant tenant revoked => tenant = tenantId && revoked = origin
  | _ => false

def leavesUnion (origin : String) : OriginFrame → Bool
  | .revokeStillOwned revoked | .revokeAny revoked => revoked = origin
  | _ => false

def deletes (id : String) : OriginFrame → Bool
  | .revokeDelete _ target _ => target = id
  | _ => false

end OriginFrame

def World.originInFlight (world : World) (wanted : OriginFrame → Bool) : Bool :=
  world.calls.inFlight Frame.origin? wanted

/-- A cache is written as the table, or a registration still under way, wants
it; and a new row does not take the id of one that is being deleted. -/
def OriginFrame.ordered (world : World) (input : Input) : OriginFrame → Bool
  | .registerInsert _ _ => !world.originInFlight (deletes input.newId.text)
  | .registerByTenant info =>
      decide (world.store.pool.HasOrigin info.tenantId info.origin) ||
        world.originInFlight (leavesMap info.tenantId info.origin)
  | .revokeByTenant tenantId origin =>
      !decide (world.store.pool.HasOrigin tenantId origin) ||
        world.originInFlight (registers tenantId origin)
  | .revokeAny origin =>
      !decide (origin ∈ world.store.pool.tenantOrigins.map OriginRow.origin) ||
        world.originInFlight (entersUnion origin)
  | _ => true

def originsOrdered (world : World) : Event → Bool
  | .act ticket input =>
      (world.calls.viewAt Frame.origin? ticket).all fun frame => frame.ordered world input
  | _ => true

/-- What is out of step between the table and the caches is the work of a call
in flight. -/
structure OriginsTracked (world : World) : Prop where
  held : ∀ tenantId origin, world.store.pool.HasOrigin tenantId origin →
    world.store.tenantOwnsOrigin tenantId origin = true ∨
      world.originInFlight (OriginFrame.registers tenantId origin) = true
  backed : ∀ tenantId origin, world.store.tenantOwnsOrigin tenantId origin = true →
    world.store.pool.HasOrigin tenantId origin ∨
      world.originInFlight (OriginFrame.leavesMap tenantId origin) = true
  listed : ∀ tenantId origin, world.store.pool.HasOrigin tenantId origin →
    world.store.isRegisteredOrigin origin = true ∨
      world.originInFlight (OriginFrame.entersUnion origin) = true
  justified : ∀ origin, world.store.isRegisteredOrigin origin = true →
    (∃ tenantId, world.store.tenantOwnsOrigin tenantId origin = true) ∨
      world.originInFlight (OriginFrame.entersMap origin) = true ∨
      world.originInFlight (OriginFrame.leavesUnion origin) = true
  targets : ∀ ticket tenantId id origin,
    world.calls.viewAt Frame.origin? ticket = some (.revokeDelete tenantId id origin) →
    ∀ row ∈ world.store.pool.tenantOrigins, row.id = id → row.owned = (tenantId, origin)

/-- Once no call is in flight nothing is out of step. -/
theorem OriginsTracked.agree {world : World} (tracked : OriginsTracked world)
    (quiescent : world.calls.Quiescent) : OriginsAgree world.store := by
  have nothing : ∀ wanted, world.originInFlight wanted = false := fun _ => quiescent.inFlight
  have table : ∀ tenantId origin, world.store.tenantOwnsOrigin tenantId origin = true ↔
      world.store.pool.HasOrigin tenantId origin := by
    intro tenantId origin
    constructor
    · intro owner
      simpa [nothing] using tracked.backed tenantId origin owner
    · intro row
      simpa [nothing] using tracked.held tenantId origin row
  refine ⟨?_, table⟩
  intro origin
  constructor
  · intro registered
    simpa [nothing] using tracked.justified origin registered
  · intro owner
    obtain ⟨tenantId, owner⟩ := owner
    simpa [nothing] using tracked.listed tenantId origin ((table tenantId origin).mp owner)

/-! ## The caches after each action -/

omit [Driver] in
theorem hasOrigin_iff {database : Database} {tenantId origin : String} :
    database.HasOrigin tenantId origin ↔
      ∃ row ∈ database.tenantOrigins, row.owned = (tenantId, origin) :=
  List.mem_map

omit [Driver] in
theorem tenantOwnsOrigin_insert (store : Store) (info : OriginInfo) (tenantId origin : String) :
    ({ store with
        originsByTenant := insertOriginInfo store.originsByTenant info } : Store).tenantOwnsOrigin
        tenantId origin = true ↔
      (tenantId = info.tenantId ∧ origin = info.origin) ∨
        store.tenantOwnsOrigin tenantId origin = true := by
  simp only [Store.tenantOwnsOrigin, originOf_insertOriginInfo, Prod.mk.injEq]
  split <;> simp_all

omit [Driver] in
theorem tenantOwnsOrigin_remove (store : Store) (revokedTenant revoked tenantId origin : String) :
    ({ store with
        originsByTenant :=
          removeOriginInfo store.originsByTenant revokedTenant revoked } : Store).tenantOwnsOrigin
        tenantId origin = true ↔
      ¬(tenantId = revokedTenant ∧ origin = revoked) ∧
        store.tenantOwnsOrigin tenantId origin = true := by
  simp only [Store.tenantOwnsOrigin, originOf_removeOriginInfo, Prod.mk.injEq]
  split <;> simp_all

theorem OriginsAgree.reload (pool : Database) : OriginsAgree (Store.reload pool) := by
  have table : ∀ tenantId origin, (Store.reload pool).tenantOwnsOrigin tenantId origin = true ↔
      pool.HasOrigin tenantId origin := by
    intro tenantId origin
    rw [Store.tenantOwnsOrigin, Store.reload_originOf, Option.isSome_map, hasOrigin_iff]
    rw [Option.isSome_iff_exists]
    simp only [findBy_eq_some_iff pool.tenantOrigins_owned_unique]
  refine ⟨?_, table⟩
  intro origin
  simp only [table, hasOrigin_iff, Store.isRegisteredOrigin, decide_eq_true_iff,
    Store.mem_reload_originsAny]
  constructor
  · intro listed
    obtain ⟨row, member, rfl⟩ := listed
    exact ⟨row.tenantId, row, member, rfl⟩
  · intro listed
    obtain ⟨tenantId, row, member, owned⟩ := listed
    exact ⟨row, member, congrArg Prod.snd owned⟩

/-! ## Every action keeps the invariant -/

namespace OriginsTracked

variable {world next : World}

/-- Only the caches, the table and the calls past their first action count. -/
theorem of_undisturbed (tracked : OriginsTracked world)
    (same : SameOrigins world.store next.store)
    (calls : Calls.Undisturbed Frame.origin? OriginFrame.IsEntry world.calls next.calls) :
    OriginsTracked next := by
  have flights : ∀ wanted, (∀ mine, wanted mine = true → ¬OriginFrame.IsEntry mine) →
      next.originInFlight wanted = world.originInFlight wanted := fun _ past => calls.inFlight past
  have rows : ∀ tenantId origin, next.store.pool.HasOrigin tenantId origin ↔
      world.store.pool.HasOrigin tenantId origin := by
    intro tenantId origin
    rw [Database.HasOrigin, Database.HasOrigin, same.rows]
  have owns : ∀ tenantId origin, next.store.tenantOwnsOrigin tenantId origin =
      world.store.tenantOwnsOrigin tenantId origin := by
    intro tenantId origin
    rw [Store.tenantOwnsOrigin, Store.tenantOwnsOrigin, same.originsByTenant]
  have union : ∀ origin, next.store.isRegisteredOrigin origin =
      world.store.isRegisteredOrigin origin := by
    intro origin
    rw [Store.isRegisteredOrigin, Store.isRegisteredOrigin, same.originsAny]
  constructor
  · intro tenantId origin row
    rw [owns, flights]
    · exact tracked.held tenantId origin ((rows tenantId origin).mp row)
    · intro mine accepted entry
      cases mine <;> first | exact entry | cases accepted
  · intro tenantId origin owner
    rw [rows, flights]
    · exact tracked.backed tenantId origin (owns tenantId origin ▸ owner)
    · intro mine accepted entry
      cases mine <;> first | exact entry | cases accepted
  · intro tenantId origin row
    rw [union, flights]
    · exact tracked.listed tenantId origin ((rows tenantId origin).mp row)
    · intro mine accepted entry
      cases mine <;> first | exact entry | cases accepted
  · intro origin registered
    rw [flights, flights]
    · simpa only [owns] using tracked.justified origin (union origin ▸ registered)
    · intro mine accepted entry
      cases mine <;> first | exact entry | cases accepted
    · intro mine accepted entry
      cases mine <;> first | exact entry | cases accepted
  · intro ticket tenantId id origin seen row member
    rw [same.rows] at member
    rcases calls.begun seen with before | new
    · exact tracked.targets ticket tenantId id origin before row member
    · exact new.elim

section Acting

variable {ticket : ℕ} {frame : OriginFrame} {status : Status Frame Result}
  {wanted : OriginFrame → Bool}

private theorem stays (running : world.calls.frameAt ticket = some (.origin frame))
    (calls : next.calls = world.calls.advance ticket status) (outside : wanted frame = false)
    (before : world.originInFlight wanted = true) : next.originInFlight wanted = true :=
  Calls.inFlight_stays running rfl calls outside before

private theorem arrives {later : OriginFrame}
    (running : world.calls.frameAt ticket = some (.origin frame))
    (calls : next.calls = world.calls.advance ticket (.running (.origin later)))
    (accepted : wanted later = true) : next.originInFlight wanted = true :=
  Calls.inFlight_arrives running calls rfl accepted

private theorem targets_of_advance (tracked : OriginsTracked world)
    (running : world.calls.frameAt ticket = some (.origin frame))
    (calls : next.calls = world.calls.advance ticket status)
    (rows : ∀ row ∈ next.store.pool.tenantOrigins, row ∈ world.store.pool.tenantOrigins)
    (elsewhere : ∀ tenantId id origin,
      status ≠ .running (.origin (.revokeDelete tenantId id origin))) :
    ∀ other tenantId id origin,
      next.calls.viewAt Frame.origin? other = some (.revokeDelete tenantId id origin) →
      ∀ row ∈ next.store.pool.tenantOrigins, row.id = id → row.owned = (tenantId, origin) := by
  intro other tenantId id origin seen row member
  rw [calls, Calls.viewAt_advance running] at seen
  split at seen
  · cases status with
    | running later =>
        cases later <;> cases seen
        exact absurd rfl (elsewhere tenantId id origin)
    | returned result => cases seen
  · exact tracked.targets other tenantId id origin seen row (rows row member)

/-- A call moves without writing. -/
private theorem of_move (tracked : OriginsTracked world)
    (running : world.calls.frameAt ticket = some (.origin frame))
    (calls : next.calls = world.calls.advance ticket status)
    (store : next.store = world.store)
    (idle : ∀ tenantId origin, OriginFrame.registers tenantId origin frame = false ∧
      OriginFrame.leavesMap tenantId origin frame = false ∧
      OriginFrame.entersUnion origin frame = false ∧ OriginFrame.entersMap origin frame = false)
    (justified : ∀ origin, OriginFrame.leavesUnion origin frame = true →
      (∃ tenantId, world.store.tenantOwnsOrigin tenantId origin = true) ∨
        next.originInFlight (OriginFrame.leavesUnion origin) = true)
    (targets : ∀ tenantId id origin,
      status = .running (.origin (.revokeDelete tenantId id origin)) →
      ∀ row ∈ world.store.pool.tenantOrigins, row.id = id → row.owned = (tenantId, origin)) :
    OriginsTracked next := by
  have staysIn : ∀ {wanted : OriginFrame → Bool}, wanted frame = false →
      world.originInFlight wanted = true → next.originInFlight wanted = true :=
    stays running calls
  constructor
  · intro tenantId origin row
    rw [store] at row ⊢
    exact (tracked.held tenantId origin row).imp_right (staysIn (idle tenantId origin).1)
  · intro tenantId origin owner
    rw [store] at owner ⊢
    exact (tracked.backed tenantId origin owner).imp_right (staysIn (idle tenantId origin).2.1)
  · intro tenantId origin row
    rw [store] at row ⊢
    exact (tracked.listed tenantId origin row).imp_right (staysIn (idle tenantId origin).2.2.1)
  · intro origin registered
    rw [store] at registered ⊢
    rcases tracked.justified origin registered with owner | entering | leaving
    · exact Or.inl owner
    · exact Or.inr (Or.inl (staysIn (idle "" origin).2.2.2 entering))
    · cases mine : OriginFrame.leavesUnion origin frame with
      | true => exact (justified origin mine).imp_right Or.inr
      | false => exact Or.inr (Or.inr (staysIn mine leaving))
  · intro other tenantId id origin seen row member
    rw [store] at member
    rw [calls, Calls.viewAt_advance running] at seen
    split at seen
    · cases status with
      | running later =>
          cases later <;> cases seen
          exact targets tenantId id origin rfl row member
      | returned result => cases seen
    · exact tracked.targets other tenantId id origin seen row member

private theorem registerInsert {input : Input} {tenantId origin : String}
    (tracked : OriginsTracked world)
    (running : world.calls.frameAt ticket = some (.origin (.registerInsert tenantId origin)))
    (ordered : (OriginFrame.registerInsert tenantId origin).ordered world input = true)
    (store : next.store =
      ((OriginFrame.registerInsert tenantId origin).exec input world.store).store)
    (calls : next.calls = world.calls.advance ticket
      ((OriginFrame.registerInsert tenantId origin).exec input world.store).next) :
    OriginsTracked next := by
  have free : world.originInFlight (OriginFrame.deletes input.newId.text) = false := by
    simpa [OriginFrame.ordered] using ordered
  simp only [OriginFrame.exec] at store calls
  split at store
  · rename_i failed
    simp only [failed] at calls
    refine tracked.of_move running calls store (fun _ _ => ⟨rfl, rfl, rfl, rfl⟩) ?_ ?_
    · intro origin leaving
      cases leaving
    · intro tenantId id origin goes
      cases goes
  · rename_i pool executed
    simp only [executed] at calls
    obtain ⟨fresh, appended, _⟩ :=
      Database.insertOrigin_eq_some (Input.execute_eq_some.mp executed).2
    have rows : ∀ otherTenant other, next.store.pool.HasOrigin otherTenant other ↔
        world.store.pool.HasOrigin otherTenant other ∨
          (otherTenant = tenantId ∧ other = origin) := by
      intro otherTenant other
      simp [store, Outcome.goto, Database.HasOrigin, appended, newOriginRow, newOrigin,
        OriginRow.owned]
    have staysIn : ∀ {wanted : OriginFrame → Bool},
        wanted (.registerInsert tenantId origin) = false →
        world.originInFlight wanted = true → next.originInFlight wanted = true :=
      stays running calls
    constructor
    · intro otherTenant other row
      rcases (rows otherTenant other).mp row with old | ⟨rfl, rfl⟩
      · rw [store]
        exact (tracked.held otherTenant other old).imp_right (staysIn rfl)
      · exact Or.inr (arrives running calls (by simp [OriginFrame.registers, newOrigin]))
    · intro otherTenant other owner
      rw [store] at owner
      rcases tracked.backed otherTenant other owner with row | leaving
      · exact Or.inl ((rows otherTenant other).mpr (Or.inl row))
      · exact Or.inr (staysIn rfl leaving)
    · intro otherTenant other row
      rcases (rows otherTenant other).mp row with old | ⟨rfl, rfl⟩
      · rw [store]
        exact (tracked.listed otherTenant other old).imp_right (staysIn rfl)
      · exact Or.inr (arrives running calls (by simp [OriginFrame.entersUnion, newOrigin]))
    · intro other registered
      rw [store] at registered ⊢
      exact (tracked.justified other registered).imp_right
        (Or.imp (staysIn rfl) (staysIn rfl))
    · intro other otherTenant id target seen row member sameId
      rw [calls, Calls.viewAt_advance running] at seen
      split at seen
      · cases seen
      · rw [store, Outcome.goto_store, appended] at member
        rcases List.mem_append.mp member with old | new
        · exact tracked.targets other otherTenant id target seen row old sameId
        · -- The deletion would be of the row just inserted.
          cases List.mem_singleton.mp new
          have deleting : world.originInFlight (OriginFrame.deletes input.newId.text) = true :=
            Calls.inFlight_iff.mpr
              ⟨other, _, seen, by simp [OriginFrame.deletes, ← sameId, newOriginRow, newOrigin]⟩
          rw [free] at deleting
          cases deleting

private theorem registerAny {info : OriginInfo} (tracked : OriginsTracked world)
    (running : world.calls.frameAt ticket = some (.origin (.registerAny info)))
    (store : next.store =
      { world.store with originsAny := insert info.origin world.store.originsAny })
    (calls : next.calls =
      world.calls.advance ticket (.running (.origin (.registerByTenant info)))) :
    OriginsTracked next := by
  have staysIn : ∀ {wanted : OriginFrame → Bool}, wanted (.registerAny info) = false →
      world.originInFlight wanted = true → next.originInFlight wanted = true :=
    stays running calls
  have union : ∀ origin, next.store.isRegisteredOrigin origin = true ↔
      origin = info.origin ∨ world.store.isRegisteredOrigin origin = true := by
    intro origin
    simp [store, Store.isRegisteredOrigin]
  constructor
  · intro tenantId origin row
    rw [store] at row ⊢
    rcases tracked.held tenantId origin row with owner | registering
    · exact Or.inl owner
    · right
      cases mine : OriginFrame.registers tenantId origin (.registerAny info) with
      | true => exact arrives running calls mine
      | false => exact staysIn mine registering
  · intro tenantId origin owner
    rw [store] at owner ⊢
    exact (tracked.backed tenantId origin owner).imp_right (staysIn rfl)
  · intro tenantId origin row
    rw [union]
    rw [store] at row
    by_cases same : origin = info.origin
    · exact Or.inl (Or.inl same)
    · rcases tracked.listed tenantId origin row with registered | entering
      · exact Or.inl (Or.inr registered)
      · exact Or.inr (staysIn (by simp [OriginFrame.entersUnion, Ne.symm same]) entering)
  · intro origin registered
    rcases (union origin).mp registered with rfl | before
    · exact Or.inr (Or.inl (arrives running calls (by simp [OriginFrame.entersMap])))
    · rw [store]
      exact (tracked.justified origin before).imp_right (Or.imp (staysIn rfl) (staysIn rfl))
  · refine tracked.targets_of_advance running calls ?_ ?_
    · intro row member
      rwa [store] at member
    · intro tenantId id origin goes
      cases goes

private theorem registerByTenant {info : OriginInfo} (tracked : OriginsTracked world)
    (running : world.calls.frameAt ticket = some (.origin (.registerByTenant info)))
    (wanted : world.store.pool.HasOrigin info.tenantId info.origin ∨
      world.originInFlight (OriginFrame.leavesMap info.tenantId info.origin) = true)
    (store : next.store =
      { world.store with originsByTenant := insertOriginInfo world.store.originsByTenant info })
    (calls : next.calls = world.calls.advance ticket (.returned (.registeredOrigin info))) :
    OriginsTracked next := by
  have staysIn : ∀ {wanted : OriginFrame → Bool}, wanted (.registerByTenant info) = false →
      world.originInFlight wanted = true → next.originInFlight wanted = true :=
    stays running calls
  have owns : ∀ tenantId origin, next.store.tenantOwnsOrigin tenantId origin = true ↔
      (tenantId = info.tenantId ∧ origin = info.origin) ∨
        world.store.tenantOwnsOrigin tenantId origin = true := by
    intro tenantId origin
    rw [store]
    exact tenantOwnsOrigin_insert world.store info tenantId origin
  constructor
  · intro tenantId origin row
    rw [owns]
    rw [store] at row
    rcases tracked.held tenantId origin row with owner | registering
    · exact Or.inl (Or.inr owner)
    · by_cases same : tenantId = info.tenantId ∧ origin = info.origin
      · exact Or.inl (Or.inl same)
      · have different : ¬(info.tenantId = tenantId ∧ info.origin = origin) :=
          fun equal => same ⟨equal.1.symm, equal.2.symm⟩
        exact Or.inr (staysIn (by simpa [OriginFrame.registers] using different) registering)
  · intro tenantId origin owner
    rcases (owns tenantId origin).mp owner with ⟨rfl, rfl⟩ | before
    · rw [store]
      exact wanted.imp_right (staysIn rfl)
    · rw [store]
      exact (tracked.backed tenantId origin before).imp_right (staysIn rfl)
  · intro tenantId origin row
    rw [store] at row ⊢
    exact (tracked.listed tenantId origin row).imp_right (staysIn rfl)
  · intro origin registered
    simp only [owns]
    rw [store] at registered
    by_cases same : origin = info.origin
    · exact Or.inl ⟨info.tenantId, Or.inl ⟨rfl, same⟩⟩
    · rcases tracked.justified origin registered with ⟨tenantId, owner⟩ | entering | leaving
      · exact Or.inl ⟨tenantId, Or.inr owner⟩
      · exact Or.inr (Or.inl
          (staysIn (by simp [OriginFrame.entersMap, Ne.symm same]) entering))
      · exact Or.inr (Or.inr (staysIn rfl leaving))
  · refine tracked.targets_of_advance running calls ?_ ?_
    · intro row member
      rwa [store] at member
    · intro tenantId id origin goes
      cases goes

private theorem revokeSelect {input : Input} {tenantId id : String}
    (tracked : OriginsTracked world)
    (running : world.calls.frameAt ticket = some (.origin (.revokeSelect tenantId id)))
    (store : next.store = ((OriginFrame.revokeSelect tenantId id).exec input world.store).store)
    (calls : next.calls = world.calls.advance ticket
      ((OriginFrame.revokeSelect tenantId id).exec input world.store).next) :
    OriginsTracked next := by
  have unchanged : next.store = world.store := by
    rw [store]
    simp only [OriginFrame.exec]
    split
    · split <;> rfl
    · rfl
  refine tracked.of_move running calls unchanged (fun _ _ => ⟨rfl, rfl, rfl, rfl⟩) ?_ ?_
  · intro origin leaving
    cases leaving
  · intro target targetId origin goes row member sameId
    simp only [OriginFrame.exec] at goes
    split at goes
    · split at goes
      · cases goes
      · rename_i selected
        cases goes
        obtain ⟨found, first, rfl⟩ := Option.map_eq_some_iff.mp selected
        have foundMember := List.mem_of_find?_eq_some first
        obtain ⟨foundId, foundTenant⟩ : found.id = id ∧ found.tenantId = tenantId := by
          simpa using List.find?_some first
        have same : row = found :=
          List.inj_on_of_nodup_map world.store.pool.tenantOrigins_id_unique member foundMember
            (sameId.trans foundId.symm)
        rw [same, OriginRow.owned, foundTenant]
    · cases goes

private theorem revokeDelete {input : Input} {tenantId id origin : String}
    (tracked : OriginsTracked world)
    (running : world.calls.frameAt ticket = some (.origin (.revokeDelete tenantId id origin)))
    (store : next.store =
      ((OriginFrame.revokeDelete tenantId id origin).exec input world.store).store)
    (calls : next.calls = world.calls.advance ticket
      ((OriginFrame.revokeDelete tenantId id origin).exec input world.store).next) :
    OriginsTracked next := by
  simp only [OriginFrame.exec] at store calls
  split at store
  · rename_i failed
    simp only [failed] at calls
    refine tracked.of_move running calls store (fun _ _ => ⟨rfl, rfl, rfl, rfl⟩) ?_ ?_
    · intro origin leaving
      cases leaving
    · intro tenantId id origin goes
      cases goes
  · rename_i pool executed
    simp only [executed] at calls
    cases (Input.execute_eq_some.mp executed).2
    have target := tracked.targets ticket tenantId id origin
      (by simp [Calls.viewAt, running, Frame.origin?])
    have kept : ∀ row ∈ next.store.pool.tenantOrigins,
        row ∈ world.store.pool.tenantOrigins := by
      intro row member
      rw [store] at member
      exact List.mem_of_mem_filter member
    have fewer : ∀ otherTenant other, next.store.pool.HasOrigin otherTenant other →
        world.store.pool.HasOrigin otherTenant other := by
      intro otherTenant other row
      obtain ⟨row, member, owned⟩ := hasOrigin_iff.mp row
      exact hasOrigin_iff.mpr ⟨row, kept row member, owned⟩
    have staysIn : ∀ {wanted : OriginFrame → Bool},
        wanted (.revokeDelete tenantId id origin) = false →
        world.originInFlight wanted = true → next.originInFlight wanted = true :=
      stays running calls
    constructor
    · intro otherTenant other row
      have before := fewer otherTenant other row
      rw [store]
      exact (tracked.held otherTenant other before).imp_right (staysIn rfl)
    · intro otherTenant other owner
      rw [store] at owner
      rcases tracked.backed otherTenant other owner with row | leaving
      · obtain ⟨row, member, owned⟩ := hasOrigin_iff.mp row
        by_cases deleted : row.id = id
        · -- The deleted row is the one this call is about to drop from the map.
          have same := owned.symm.trans (target row member deleted)
          cases same
          exact Or.inr (arrives running calls (by simp [OriginFrame.leavesMap]))
        · left
          refine hasOrigin_iff.mpr ⟨row, ?_, owned⟩
          rw [store]
          exact List.mem_filter.mpr ⟨member, by simpa using deleted⟩
      · exact Or.inr (staysIn rfl leaving)
    · intro otherTenant other row
      have before := fewer otherTenant other row
      rw [store]
      exact (tracked.listed otherTenant other before).imp_right (staysIn rfl)
    · intro other registered
      rw [store] at registered ⊢
      exact (tracked.justified other registered).imp_right (Or.imp (staysIn rfl) (staysIn rfl))
    · refine tracked.targets_of_advance running calls kept ?_
      intro tenantId id origin goes
      cases goes

private theorem revokeByTenant {tenantId origin : String} (tracked : OriginsTracked world)
    (running : world.calls.frameAt ticket = some (.origin (.revokeByTenant tenantId origin)))
    (wanted : ¬world.store.pool.HasOrigin tenantId origin ∨
      world.originInFlight (OriginFrame.registers tenantId origin) = true)
    (store : next.store =
      { world.store with
        originsByTenant := removeOriginInfo world.store.originsByTenant tenantId origin })
    (calls : next.calls =
      world.calls.advance ticket (.running (.origin (.revokeStillOwned origin)))) :
    OriginsTracked next := by
  have staysIn : ∀ {wanted : OriginFrame → Bool},
      wanted (.revokeByTenant tenantId origin) = false →
      world.originInFlight wanted = true → next.originInFlight wanted = true :=
    stays running calls
  have owns : ∀ otherTenant other, next.store.tenantOwnsOrigin otherTenant other = true ↔
      ¬(otherTenant = tenantId ∧ other = origin) ∧
        world.store.tenantOwnsOrigin otherTenant other = true := by
    intro otherTenant other
    rw [store]
    exact tenantOwnsOrigin_remove world.store tenantId origin otherTenant other
  constructor
  · intro otherTenant other row
    rw [owns]
    rw [store] at row
    by_cases same : otherTenant = tenantId ∧ other = origin
    · obtain ⟨rfl, rfl⟩ := same
      rcases wanted with missing | registering
      · exact absurd row missing
      · exact Or.inr (staysIn rfl registering)
    · exact (tracked.held otherTenant other row).imp (And.intro same) (staysIn rfl)
  · intro otherTenant other owner
    obtain ⟨different, before⟩ := (owns otherTenant other).mp owner
    have elsewhere : ¬(tenantId = otherTenant ∧ origin = other) :=
      fun equal => different ⟨equal.1.symm, equal.2.symm⟩
    rw [store]
    refine (tracked.backed otherTenant other before).imp_right (staysIn ?_)
    simpa [OriginFrame.leavesMap] using elsewhere
  · intro otherTenant other row
    rw [store] at row ⊢
    exact (tracked.listed otherTenant other row).imp_right (staysIn rfl)
  · intro other registered
    simp only [owns]
    rw [store] at registered
    by_cases same : other = origin
    · exact Or.inr (Or.inr (arrives running calls (by simp [OriginFrame.leavesUnion, same])))
    · rcases tracked.justified other registered with ⟨owner, holds⟩ | entering | leaving
      · exact Or.inl ⟨owner, fun equal => same equal.2, holds⟩
      · exact Or.inr (Or.inl (staysIn rfl entering))
      · exact Or.inr (Or.inr (staysIn rfl leaving))
  · refine tracked.targets_of_advance running calls ?_ ?_
    · intro row member
      rwa [store] at member
    · intro tenantId id origin goes
      cases goes

private theorem revokeStillOwned {input : Input} {origin : String}
    (tracked : OriginsTracked world)
    (running : world.calls.frameAt ticket = some (.origin (.revokeStillOwned origin)))
    (store : next.store = ((OriginFrame.revokeStillOwned origin).exec input world.store).store)
    (calls : next.calls = world.calls.advance ticket
      ((OriginFrame.revokeStillOwned origin).exec input world.store).next) :
    OriginsTracked next := by
  have unchanged : next.store = world.store := by
    rw [store]
    simp only [OriginFrame.exec]
    split <;> rfl
  refine tracked.of_move running calls unchanged (fun _ _ => ⟨rfl, rfl, rfl, rfl⟩) ?_ ?_
  · intro other leaving
    obtain rfl : origin = other := by simpa [OriginFrame.leavesUnion] using leaving
    simp only [OriginFrame.exec] at calls
    split at calls
    · rename_i owned
      exact Or.inl ((stillOwned_iff _ _).mp owned)
    · exact Or.inr (arrives running calls (by simp [OriginFrame.leavesUnion]))
  · intro tenantId id other goes
    simp only [OriginFrame.exec] at goes
    split at goes <;> cases goes

private theorem revokeAny {origin : String} (tracked : OriginsTracked world)
    (running : world.calls.frameAt ticket = some (.origin (.revokeAny origin)))
    (wanted : (∀ tenantId, ¬world.store.pool.HasOrigin tenantId origin) ∨
      world.originInFlight (OriginFrame.entersUnion origin) = true)
    (store : next.store =
      { world.store with originsAny := world.store.originsAny.erase origin })
    (calls : next.calls = world.calls.advance ticket (.returned (.revokedOrigin true))) :
    OriginsTracked next := by
  have staysIn : ∀ {wanted : OriginFrame → Bool}, wanted (.revokeAny origin) = false →
      world.originInFlight wanted = true → next.originInFlight wanted = true :=
    stays running calls
  have union : ∀ other, next.store.isRegisteredOrigin other = true ↔
      other ≠ origin ∧ world.store.isRegisteredOrigin other = true := by
    intro other
    simp [store, Store.isRegisteredOrigin]
  constructor
  · intro tenantId other row
    rw [store] at row ⊢
    exact (tracked.held tenantId other row).imp_right (staysIn rfl)
  · intro tenantId other owner
    rw [store] at owner ⊢
    exact (tracked.backed tenantId other owner).imp_right (staysIn rfl)
  · intro tenantId other row
    rw [union]
    rw [store] at row
    by_cases same : other = origin
    · subst other
      rcases wanted with unowned | entering
      · exact absurd row (unowned tenantId)
      · exact Or.inr (staysIn rfl entering)
    · exact (tracked.listed tenantId other row).imp (And.intro same) (staysIn rfl)
  · intro other registered
    obtain ⟨different, before⟩ := (union other).mp registered
    rw [store]
    exact (tracked.justified other before).imp_right
      (Or.imp (staysIn rfl) (staysIn (decide_eq_false (Ne.symm different))))
  · refine tracked.targets_of_advance running calls ?_ ?_
    · intro row member
      rwa [store] at member
    · intro tenantId id origin goes
      cases goes

end Acting

theorem of_act {ticket : ℕ} {input : Input} {frame : OriginFrame}
    (tracked : OriginsTracked world)
    (running : world.calls.frameAt ticket = some (.origin frame))
    (ordered : frame.ordered world input = true)
    (store : next.store = (frame.exec input world.store).store)
    (calls : next.calls = world.calls.advance ticket (frame.exec input world.store).next) :
    OriginsTracked next := by
  cases frame with
  | registerInsert tenantId origin => exact tracked.registerInsert running ordered store calls
  | registerAny info => exact tracked.registerAny running store calls
  | registerByTenant info =>
      refine tracked.registerByTenant running ?_ store calls
      simpa [OriginFrame.ordered] using ordered
  | revokeSelect tenantId id => exact tracked.revokeSelect running store calls
  | revokeDelete tenantId id origin => exact tracked.revokeDelete running store calls
  | revokeByTenant tenantId origin =>
      refine tracked.revokeByTenant running ?_ store calls
      simpa [OriginFrame.ordered] using ordered
  | revokeStillOwned origin => exact tracked.revokeStillOwned running store calls
  | revokeAny origin =>
      refine tracked.revokeAny running ?_ store calls
      rcases Bool.or_eq_true_iff.mp ordered with unlisted | entering
      · left
        intro tenantId row
        obtain ⟨row, member, owned⟩ := hasOrigin_iff.mp row
        have absent : origin ∉ world.store.pool.tenantOrigins.map OriginRow.origin := by
          simpa using unlisted
        exact absent (List.mem_map.mpr ⟨row, member, congrArg Prod.snd owned⟩)
      · exact Or.inr entering

theorem of_agree (agree : OriginsAgree world.store)
    (idle : ∀ ticket, world.calls.frameAt ticket = none) : OriginsTracked world := by
  constructor
  · intro tenantId origin row
    exact Or.inl ((agree.table tenantId origin).mpr row)
  · intro tenantId origin owner
    exact Or.inl ((agree.table tenantId origin).mp owner)
  · intro tenantId origin row
    exact Or.inl ((agree.union origin).mpr ⟨tenantId, (agree.table tenantId origin).mpr row⟩)
  · intro origin registered
    exact Or.inl ((agree.union origin).mp registered)
  · intro ticket tenantId id origin seen
    simp [Calls.viewAt, idle] at seen

theorem step {hashKey : String → String} {event : Event} (tracked : OriginsTracked world)
    (ordered : originsOrdered world event = true)
    (taken : world.step hashKey event = some next) : OriginsTracked next := by
  rcases World.origin_cases taken with ⟨same, calls⟩ |
    ⟨ticket, input, frame, rfl, running, store, calls⟩ | ⟨same, idle⟩
  · exact tracked.of_undisturbed same calls
  · refine tracked.of_act running ?_ store calls
    simpa [originsOrdered, Calls.viewAt, running, Frame.origin?] using ordered
  · refine of_agree ?_ idle
    have agree := OriginsAgree.reload world.store.pool
    constructor
    · intro origin
      simpa only [Store.isRegisteredOrigin, Store.tenantOwnsOrigin, same.originsAny,
        same.originsByTenant] using agree.union origin
    · intro tenantId origin
      simpa only [Store.tenantOwnsOrigin, Database.HasOrigin, same.originsByTenant,
        same.rows] using agree.table tenantId origin

end OriginsTracked

theorem World.blank_originsTracked : OriginsTracked World.blank :=
  .of_agree (.reload Database.empty) fun _ => rfl

/-- In an ordered run the sets and the table agree whenever no call is in
flight. -/
theorem ordered_origins_agree {hashKey : String → String} {world : World}
    (reached : World.ReachableWhen hashKey
      (fun before event => originsOrdered before event = true) world)
    (quiescent : world.calls.Quiescent) : OriginsAgree world.store := by
  obtain ⟨events, run⟩ := reached
  have tracked : OriginsTracked world :=
    run.invariant (fun _ _ _ tracked ordered taken => tracked.step ordered taken)
      World.blank_originsTracked
  exact tracked.agree quiescent

end

open scoped DefaultBackend

/-- Two tenants and one origin, registered by the first tenant. -/
def sharedOriginSetup : List Event :=
  [.restart (sampleInput 0 0).now (sampleInput 0 0),
    .call 0 (.createTenant "acme" none none none none),
    .act 0 (sampleInput 0 4), .act 0 (sampleInput 0 4),
    .act 0 (sampleInput 1 1), .act 0 (sampleInput 0 4),
    .call 1 (.createTenant "globex" none none none none),
    .act 1 (sampleInput 1 4), .act 1 (sampleInput 0 4),
    .act 1 (sampleInput 2 2), .act 1 (sampleInput 0 4),
    .call 2 (.registerOrigin (sampleId 0).text "https://app.example"),
    .act 2 (sampleInput 0 4), .act 2 (sampleInput 0 4), .act 2 (sampleInput 0 4)]

/-- The first tenant revokes the origin and sees no other owner; the second
tenant registers it; the revocation then drops it from the union set. -/
def overtakenRevocation : List Event :=
  [.call 3 (.revokeOrigin (sampleId 0).text (sampleId 0).text),
    .act 3 (sampleInput 0 4), .act 3 (sampleInput 0 4),
    .act 3 (sampleInput 0 4), .act 3 (sampleInput 0 4),
    .call 4 (.registerOrigin (sampleId 1).text "https://app.example"),
    .act 4 (sampleInput 1 4), .act 4 (sampleInput 0 4), .act 4 (sampleInput 0 4),
    .act 3 (sampleInput 0 4)]

theorem origins_disagree_after_race :
    ¬∀ hashKey world, World.Reachable hashKey world → world.calls.Quiescent →
      OriginsAgree world.store := by
  intro claim
  obtain ⟨world, run, outcome⟩ :=
    World.exists_run sampleHash (fun _ _ => true) (sharedOriginSetup ++ overtakenRevocation)
      (fun world => decide world.calls.Quiescent &&
        (world.store.tenantOwnsOrigin (sampleId 1).text "https://app.example" &&
          !world.store.isRegisteredOrigin "https://app.example"))
      (by decide +kernel)
  obtain ⟨quiescent, owned, unlisted⟩ : world.calls.Quiescent ∧
      world.store.tenantOwnsOrigin (sampleId 1).text "https://app.example" = true ∧
      world.store.isRegisteredOrigin "https://app.example" = false := by
    simpa using outcome
  have agree := claim sampleHash world (World.ReachableWhen.reachable ⟨_, run⟩) quiescent
  have listed := (agree.union "https://app.example").mpr ⟨_, owned⟩
  rw [unlisted] at listed
  cases listed

theorem ordered_origins_agree_after_revocation :
    ∃ world, World.ReachableWhen sampleHash
        (fun before event => originsOrdered before event = true) world ∧
      OriginsAgree world.store ∧
      world.store.isRegisteredOrigin "https://app.example" = false := by
  obtain ⟨world, run, outcome⟩ :=
    World.exists_run sampleHash originsOrdered
      (sharedOriginSetup ++ overtakenRevocation.take 5 ++ [.act 3 (sampleInput 0 4)])
      (fun world => decide world.calls.Quiescent &&
        !world.store.isRegisteredOrigin "https://app.example")
      (by decide +kernel)
  obtain ⟨quiescent, unlisted⟩ : world.calls.Quiescent ∧
      world.store.isRegisteredOrigin "https://app.example" = false := by
    simpa using outcome
  exact ⟨world, ⟨_, run⟩, ordered_origins_agree ⟨_, run⟩ quiescent, unlisted⟩

end SpellServer
