import SpellServer.Store.KeyMoves
import SpellServer.Store.KeyOwnership

/-!
# Concurrent revocation

`revoke_key` marks the entry under the hash it has read, and a rotation may have
moved the entry by then.  A key is dead when its row and all its entries are
revoked; `keysRevocable` is the condition on a step under which a returned
`revoke_key` leaves the key dead and nothing brings it back.
-/

namespace SpellServer

open Library

section

variable [Driver]

/-! ## What the calls are doing -/

def KeyFrame.ServesRevoke (tenantId id : String) : KeyFrame → Prop
  | .revokeFind tenant target => tenant = tenantId ∧ target = id
  | .revokeUpdate target _ | .revokeMark target _ _ => target = id
  | _ => False

def KeyFrame.ServesAuthenticate (hash rawKey : String) : KeyFrame → Prop
  | .authLookup presented => presented = rawKey
  | .authLoad wanted _ | .authStore wanted _ => wanted = hash
  | _ => False

/-- The frames a revocation or an authentication can be in. -/
def Op.Serves (hashKey : String → String) : Op → Frame → Prop
  | .revokeKey tenantId id, frame =>
      ∃ mine, frame = .key mine ∧ mine.ServesRevoke tenantId id
  | .authenticate rawKey, frame =>
      ∃ mine, frame = .key mine ∧ mine.ServesAuthenticate (hashKey rawKey) rawKey
  | _, _ => True

def World.CallsFit (hashKey : String → String) (world : World) : Prop :=
  ∀ ticket op frame, world.calls.lookup ticket = some { op, status := .running frame } →
    op.Serves hashKey frame

theorem KeyFrame.servesRevoke_exec {hashKey : String → String} {input : Input} {store : Store}
    {tenantId id : String} {frame later : KeyFrame} (serves : frame.ServesRevoke tenantId id)
    (goes : (frame.exec hashKey input store).next = .running (.key later)) :
    later.ServesRevoke tenantId id := by
  cases frame with
  | revokeFind tenant target =>
      obtain ⟨_, rfl⟩ := serves
      simp only [KeyFrame.exec, KeyFrame.withKeys] at goes
      split at goes
      · cases goes
      · split at goes <;> cases goes
        rfl
  | revokeUpdate target keyHash =>
      simp only [KeyFrame.exec] at goes
      split at goes <;> cases goes
      exact serves
  | revokeMark target keyHash revokedAt =>
      simp only [KeyFrame.exec, KeyFrame.withKeys] at goes
      split at goes <;> cases goes
  | _ => exact serves.elim

theorem KeyFrame.servesAuthenticate_exec {hashKey : String → String} {input : Input}
    {store : Store} {rawKey : String} {frame later : KeyFrame}
    (serves : frame.ServesAuthenticate (hashKey rawKey) rawKey)
    (goes : (frame.exec hashKey input store).next = .running (.key later)) :
    later.ServesAuthenticate (hashKey rawKey) rawKey := by
  cases frame with
  | authLookup presented =>
      cases serves
      simp only [KeyFrame.exec, KeyFrame.withKeys] at goes
      split at goes
      · cases goes
      · split at goes <;> cases goes
        rfl
  | authLoad hash now =>
      simp only [KeyFrame.exec] at goes
      split at goes
      · cases goes
      · split at goes <;> cases goes
        exact serves
  | authStore hash record =>
      simp only [KeyFrame.exec, KeyFrame.withKeys] at goes
      split at goes <;> cases goes
  | _ => exact serves.elim

theorem Op.serves_entry (hashKey : String → String) (op : Op) : op.Serves hashKey op.entry := by
  cases op with
  | revokeKey tenantId id => exact ⟨_, rfl, rfl, rfl⟩
  | authenticate rawKey => exact ⟨_, rfl, rfl⟩
  | _ => trivial

theorem Op.serves_exec {hashKey : String → String} {input : Input} {store : Store} {op : Op}
    {frame later : Frame} (serves : op.Serves hashKey frame)
    (goes : (frame.exec hashKey input store).next = .running later) :
    op.Serves hashKey later := by
  cases op with
  | revokeKey tenantId id =>
      obtain ⟨mine, rfl, mineServes⟩ := serves
      obtain ⟨next, rfl⟩ := KeyFrame.exec_next goes
      exact ⟨next, rfl, KeyFrame.servesRevoke_exec mineServes goes⟩
  | authenticate rawKey =>
      obtain ⟨mine, rfl, mineServes⟩ := serves
      obtain ⟨next, rfl⟩ := KeyFrame.exec_next goes
      exact ⟨next, rfl, KeyFrame.servesAuthenticate_exec mineServes goes⟩
  | _ => trivial

namespace World

variable {hashKey : String → String} {world next : World} {event : Event}

theorem CallsFit.step (fit : CallsFit hashKey world)
    (taken : world.step hashKey event = some next) : CallsFit hashKey next := by
  intro ticket op frame found
  rcases lookup_cases taken found with before | entered | ⟨input, old, _, _, before, moved, _⟩
  · exact fit ticket op frame before
  · rw [Status.running.inj entered]
    exact op.serves_entry hashKey
  · exact Op.serves_exec (fit ticket op old before) moved.symm

theorem blank_callsFit (hashKey : String → String) : CallsFit hashKey blank := by
  intro ticket op frame found
  cases found

end World

/-! ## Dead keys -/

/-- The id a returned `revoke_key` has reported as revoked. -/
def revokedId : Call Op Frame Result → Option String
  | { op := .revokeKey _ id, status := .returned (.revokedKey true) } => some id
  | _ => none

/-- The ids some `revoke_key` has reported as revoked. -/
def World.revokedIds (world : World) : List String :=
  (Dict.values world.calls).filterMap revokedId

theorem World.mem_revokedIds {world : World} {id : String} :
    id ∈ world.revokedIds ↔
      ∃ ticket tenantId,
        world.calls.Returned ticket (.revokeKey tenantId id) (.revokedKey true) := by
  rw [revokedIds, List.mem_filterMap]
  constructor
  · intro ⟨call, member, reported⟩
    obtain ⟨ticket, stored⟩ := Dict.mem_values_iff.mp member
    unfold revokedId at reported
    split at reported
    · cases reported
      exact ⟨ticket, _, stored⟩
    · cases reported
  · intro ⟨ticket, tenantId, stored⟩
    exact ⟨_, Dict.mem_values_iff.mpr ⟨ticket, stored⟩, rfl⟩

structure Store.Dead (store : Store) (id : String) : Prop where
  row : ∃ row ∈ store.pool.apiKeys, row.id = id ∧ row.revokedAt.isSome = true
  entries : ∀ hash record, store.keys.lookup hash = some record → record.id = id →
    record.revokedAt.isSome = true

/-- Every cached entry of the id is under this hash or revoked. -/
def Store.othersRevoked (store : Store) (id keyHash : String) : Bool :=
  (Dict.values store.keys).all fun record =>
    record.id ≠ id || record.keyHash = keyHash || record.revokedAt.isSome

/-- `revoke_key` marks its entry only where no unrevoked entry of the key is
filed elsewhere; no entry is written for a key reported as revoked; and once
there is one, no rotation misses its entry. -/
def KeyFrame.revocable (world : World) : KeyFrame → Bool
  | .revokeMark id keyHash _ => world.store.othersRevoked id keyHash
  | .createCache created _ => created.record.id ∉ world.revokedIds
  | .authStore _ record => record.id ∉ world.revokedIds
  | .rotateRekey oldHash _ _ _ _ =>
      world.revokedIds.isEmpty || (world.store.keys.lookup oldHash).isSome
  | _ => true

def keysRevocable (world : World) : Event → Bool
  | .act ticket _ => (world.keyAt ticket).all fun frame => frame.revocable world
  | _ => true

theorem KeyFrame.rowRevoked_exec {hashKey : String → String} {input : Input} {store : Store}
    {id : String} (frame : KeyFrame)
    (revoked : ∃ row ∈ store.pool.apiKeys, row.id = id ∧ row.revokedAt.isSome = true) :
    ∃ row ∈ (frame.exec hashKey input store).store.pool.apiKeys,
      row.id = id ∧ row.revokedAt.isSome = true := by
  obtain ⟨row, member, sameId, stamped⟩ := revoked
  have writes : frame.Writes hashKey input store.pool (frame.exec hashKey input store).store.pool :=
    frame.exec_writes
  generalize (frame.exec hashKey input store).store.pool = later at writes ⊢
  cases writes with
  | nothing => exact ⟨row, member, sameId, stamped⟩
  | inserts inserted =>
      obtain ⟨_, rows, _⟩ := Database.insertApiKey_eq_some inserted
      refine ⟨row, ?_, sameId, stamped⟩
      rw [rows]
      exact List.mem_append_left _ member
  | revokes target keyHash =>
      refine ⟨_, List.mem_map_of_mem member, ?_⟩
      split
      · exact ⟨sameId, by simp⟩
      · exact ⟨sameId, stamped⟩
  | rekeys updated =>
      obtain ⟨_, rows, _⟩ := Database.updateKeyHash_eq_some updated
      rw [rows]
      refine ⟨_, List.mem_map_of_mem member, ?_⟩
      split <;> exact ⟨sameId, stamped⟩

/-- An action that writes no entry of the key leaves its entries revoked. -/
theorem KeyFrame.entriesRevoked_exec {hashKey : String → String} {input : Input} {store : Store}
    {id : String} (frame : KeyFrame)
    (revoked : ∀ hash record, store.keys.lookup hash = some record → record.id = id →
      record.revokedAt.isSome = true)
    (creates : ∀ created caller, frame = .createCache created caller → created.record.id ≠ id)
    (loads : ∀ hash record, frame = .authStore hash record → record.id ≠ id) :
    ∀ hash record, (frame.exec hashKey input store).store.keys.lookup hash = some record →
      record.id = id → record.revokedAt.isSome = true := by
  intro hash record found sameId
  cases KeyFrame.exec_files found with
  | renewed stored renews =>
      exact renews.revoked (revoked _ _ stored (renews.id.symm.trans sameId))
  | created created caller => exact absurd sameId (creates created caller rfl)
  | loaded hash record => exact absurd sameId (loads hash record rfl)

theorem KeyFrame.poisoned_exec {hashKey : String → String} {input : Input} {store : Store}
    (frame : KeyFrame) :
    (frame.exec hashKey input store).store.keysPoisoned = store.keysPoisoned ∨
      ∃ oldHash newHash rawKey id caller,
        frame = .rotateRekey oldHash newHash rawKey id caller ∧
          store.keys.lookup oldHash = none := by
  cases frame with
  | rotateRekey oldHash newHash rawKey id caller =>
      simp only [KeyFrame.exec, KeyFrame.withKeys]
      split
      · exact Or.inl rfl
      · split
        · rename_i missing
          exact Or.inr ⟨_, _, _, _, _, rfl, missing⟩
        · exact Or.inl rfl
  | _ =>
      simp only [KeyFrame.exec, KeyFrame.withKeys]
      (repeat' split) <;> exact Or.inl rfl

namespace Store.Dead

omit [Driver] in
theorem of_same {store later : Store} {id : String} (dead : store.Dead id)
    (same : SameKeys store later) : later.Dead id := by
  constructor
  · rw [same.apiKeys]
    exact dead.row
  · rw [same.keys]
    exact dead.entries

omit [Driver] in
theorem background {store later : Store} {id target : String} {lastUsedAt : Int64}
    (dead : store.Dead id)
    (pool : later.pool = store.pool.updateLastUsedAt target lastUsedAt)
    (keys : later.keys = store.keys) : later.Dead id := by
  constructor
  · obtain ⟨row, member, sameId, stamped⟩ := dead.row
    rw [pool]
    refine ⟨_, List.mem_map_of_mem member, ?_⟩
    split <;> exact ⟨sameId, stamped⟩
  · rw [keys]
    exact dead.entries

/-- A revoked row is loaded as a revoked entry. -/
theorem reopened {hashKey : String → String} {now : Clock} {input : Input} {store : Store}
    {opened : Opened} {id : String} (dead : store.Dead id)
    (loads : ∀ row ∈ store.pool.apiKeys, row.revokedAt.isSome = true →
      (readNullable row.revokedAt).isSome = true)
    (success : Store.open hashKey now input store.pool = some opened) :
    opened.store.Dead id := by
  obtain ⟨row, member, sameId, stamped⟩ := dead.row
  have entries : ∀ hash record, (Store.reload store.pool).keys.lookup hash = some record →
      record.id = id → record.revokedAt.isSome = true := by
    intro hash record found recordId
    rw [Store.reload_keys_lookup] at found
    obtain ⟨source, selected, rfl⟩ := Option.map_eq_some_iff.mp found
    have same : source = row :=
      List.inj_on_of_nodup_map store.pool.apiKeys_id_unique (findBy_mem selected).1 member
        (recordId.trans sameId.symm)
    rw [same]
    exact loads row member stamped
  rcases Store.open_cases success with rfl | ⟨pool, inserted, rfl⟩
  · exact ⟨⟨row, member, sameId, stamped⟩, entries⟩
  · obtain ⟨⟨fresh, _⟩, rows, _⟩ := Database.insertApiKey_eq_some inserted
    constructor
    · refine ⟨row, ?_, sameId, stamped⟩
      rw [rows]
      exact List.mem_append_left _ member
    · intro hash record found recordId
      rw [Dict.lookup_insert_ite] at found
      split at found
      · cases found
        exact absurd (List.mem_map.mpr ⟨row, member, sameId.trans recordId.symm⟩) fresh
      · exact entries hash record found recordId

end Store.Dead

/-! ## Runs that keep revoked keys dead -/

/-- Between its statement and its mark a revocation has the row on its side;
a key reported as revoked is dead. -/
structure RevocationsHold (world : World) : Prop where
  healthy : ∀ {id}, id ∈ world.revokedIds → world.store.keysPoisoned = false
  marking : ∀ {ticket id keyHash revokedAt},
    world.keyAt ticket = some (.revokeMark id keyHash revokedAt) →
    ∃ row ∈ world.store.pool.apiKeys, row.id = id ∧ row.revokedAt.isSome = true
  dead : ∀ {id}, id ∈ world.revokedIds → world.store.Dead id

namespace World

variable {hashKey : String → String} {world next : World} {event : Event}

/-- An id is reported as revoked when its mark is set. -/
theorem revokedIds_cases (fit : CallsFit hashKey world)
    (taken : world.step hashKey event = some next) {id : String} (reported : id ∈ next.revokedIds) :
    id ∈ world.revokedIds ∨
      ∃ ticket input keyHash revokedAt, event = .act ticket input ∧
        world.keyAt ticket = some (.revokeMark id keyHash revokedAt) ∧
        next.keyAt ticket = none ∧ world.store.keysPoisoned = false ∧
        next.store =
          { world.store with
            keys := world.store.keys.modify keyHash (KeyRecord.revoke revokedAt.seconds) } := by
  obtain ⟨ticket, tenantId, returned⟩ := mem_revokedIds.mp reported
  rcases lookup_cases taken returned with before | entered |
    ⟨input, frame, rfl, _, before, finished, rfl⟩
  · exact Or.inl (mem_revokedIds.mpr ⟨ticket, tenantId, before⟩)
  · cases entered
  · obtain ⟨mine, rfl, serves⟩ := fit _ _ _ before
    right
    have seen : world.keyAt ticket = some mine :=
      keyAt_of_frameAt (Calls.frameAt_eq_some_iff.mpr ⟨_, before⟩)
    cases mine with
    | revokeFind tenant target =>
        simp only [Frame.exec, KeyFrame.exec, KeyFrame.withKeys] at finished
        (repeat' split at finished) <;> cases finished
    | revokeUpdate target keyHash =>
        simp only [Frame.exec, KeyFrame.exec] at finished
        split at finished <;> cases finished
    | revokeMark target keyHash revokedAt =>
        cases serves
        by_cases poisoned : world.store.keysPoisoned = true
        · simp [Frame.exec, KeyFrame.exec, KeyFrame.withKeys, poisoned] at finished
        · have healthy : world.store.keysPoisoned = false := by simpa using poisoned
          refine ⟨ticket, input, keyHash, revokedAt, rfl, seen, ?_, healthy, ?_⟩
          · rw [keyAt, Calls.viewAt, Calls.Returned.frameAt returned]
            rfl
          · simp only [acted, Frame.exec, KeyFrame.exec, KeyFrame.withKeys_healthy healthy,
              Outcome.finish_store]
    | _ => exact serves.elim

end World

omit [Driver] in
theorem Store.othersRevoked_iff {store : Store} {id keyHash : String} :
    store.othersRevoked id keyHash = true ↔
      ∀ hash record, store.keys.lookup hash = some record → record.id = id →
        record.keyHash = keyHash ∨ record.revokedAt.isSome = true := by
  unfold othersRevoked
  rw [List.all_eq_true]
  constructor
  · intro all hash record found sameId
    simpa [sameId] using all record (Dict.mem_values_iff.mpr ⟨hash, found⟩)
  · intro others record member
    obtain ⟨hash, found⟩ := Dict.mem_values_iff.mp member
    by_cases sameId : record.id = id
    · simpa [sameId] using others hash record found sameId
    · simp [sameId]

namespace RevocationsHold

variable {hashKey : String → String} {world next : World}

/-- The marking step itself. -/
private theorem marked {ticket : ℕ} {id keyHash : String} {revokedAt : Clock}
    (hold : RevocationsHold world) (owned : KeysOwned hashKey world)
    (seen : world.keyAt ticket = some (.revokeMark id keyHash revokedAt))
    (others : world.store.othersRevoked id keyHash = true)
    (store : next.store =
      { world.store with
        keys := world.store.keys.modify keyHash (KeyRecord.revoke revokedAt.seconds) }) :
    next.store.Dead id := by
  constructor
  · rw [store]
    exact hold.marking seen
  · intro hash record found sameId
    rw [store, Dict.lookup_modify] at found
    split at found
    · obtain ⟨old, _, rfl⟩ := Option.map_eq_some_iff.mp found
      simp [KeyRecord.revoke]
    · rename_i elsewhere
      rcases Store.othersRevoked_iff.mp others hash record found sameId with filed | revoked
      · exact absurd ((owned.cached found).1.symm.trans filed) elsewhere
      · exact revoked

private theorem marking_of_act {ticket other : ℕ} {input : Input} {frame : KeyFrame}
    {id keyHash : String} {revokedAt : Clock} (hold : RevocationsHold world)
    (owned : KeysOwned hashKey world)
    (running : world.calls.frameAt ticket = some (.key frame))
    (result : next = world.acted ticket (frame.exec hashKey input world.store))
    (seen : next.keyAt other = some (.revokeMark id keyHash revokedAt)) :
    ∃ row ∈ next.store.pool.apiKeys, row.id = id ∧ row.revokedAt.isSome = true := by
  have mine := World.keyAt_of_frameAt running
  subst result
  rcases World.keyAt_cases running rfl seen with ⟨_, goes⟩ | ⟨_, before⟩
  · cases frame with
    | revokeUpdate target hash =>
        have known := owned.known_of_issued (owned.held mine (List.mem_singleton.mpr rfl))
        obtain ⟨row, member, sameId⟩ := List.mem_map.mp known
        simp only [World.acted, KeyFrame.exec] at goes ⊢
        split at goes
        · cases goes
        · rename_i pool executed
          cases goes
          cases (Input.execute_eq_some.mp executed).2
          refine ⟨_, List.mem_map_of_mem member, ?_⟩
          rw [if_pos sameId]
          exact ⟨sameId, by simp⟩
    | _ =>
        simp only [KeyFrame.exec, KeyFrame.withKeys] at goes
        (repeat' split at goes) <;> cases goes
  · exact frame.rowRevoked_exec (hold.marking before)

private theorem of_undisturbed (hold : RevocationsHold world)
    (calls : Calls.Undisturbed Frame.key? KeyFrame.IsEntry world.calls next.calls)
    (reports : ∀ id ∈ next.revokedIds, id ∈ world.revokedIds)
    (poisoned : next.store.keysPoisoned = world.store.keysPoisoned)
    (rows : ∀ row ∈ world.store.pool.apiKeys, ∃ later ∈ next.store.pool.apiKeys,
      later.id = row.id ∧ later.revokedAt = row.revokedAt)
    (dead : ∀ id, world.store.Dead id → next.store.Dead id) : RevocationsHold next := by
  constructor
  · intro id reported
    rw [poisoned]
    exact hold.healthy (reports id reported)
  · intro ticket id keyHash revokedAt seen
    rcases calls.begun seen with before | entry
    · obtain ⟨row, member, sameId, stamped⟩ := hold.marking before
      obtain ⟨later, laterMember, laterId, laterStamp⟩ := rows row member
      exact ⟨later, laterMember, laterId.trans sameId, laterStamp ▸ stamped⟩
    · exact entry.elim
  · intro id reported
    exact dead id (hold.dead (reports id reported))

private theorem of_act {ticket : ℕ} {input : Input} {frame : KeyFrame}
    (hold : RevocationsHold world) (owned : KeysOwned hashKey world)
    (fit : World.CallsFit hashKey world)
    (running : world.calls.frameAt ticket = some (.key frame))
    (revocable : frame.revocable world = true)
    (taken : world.step hashKey (.act ticket input) = some next)
    (result : next = world.acted ticket (frame.exec hashKey input world.store)) :
    RevocationsHold next := by
  have mine := World.keyAt_of_frameAt running
  have store : next.store = (frame.exec hashKey input world.store).store := by rw [result]; rfl
  -- Only a rotation that misses its entry poisons the lock.
  have healthy : ∀ {id}, id ∈ world.revokedIds → next.store.keysPoisoned = false := by
    intro id reported
    rw [store]
    rcases frame.poisoned_exec with same | ⟨oldHash, newHash, rawKey, target, caller, rfl, missing⟩
    · rw [same]
      exact hold.healthy reported
    · rcases (Bool.or_eq_true ..).mp revocable with none | found
      · rw [List.isEmpty_iff.mp none] at reported
        cases reported
      · rw [missing] at found
        cases found
  have reported : ∀ {id}, id ∈ next.revokedIds →
      id ∈ world.revokedIds ∨
        ∃ keyHash revokedAt, frame = .revokeMark id keyHash revokedAt ∧
          next.store.keysPoisoned = false ∧ next.store.Dead id := by
    intro id reports
    rcases World.revokedIds_cases fit taken reports with
      before | ⟨marker, other, keyHash, revokedAt, same, seen, _, open_, changed⟩
    · exact Or.inl before
    · cases same
      rw [mine] at seen
      cases seen
      refine Or.inr ⟨keyHash, revokedAt, rfl, ?_, hold.marked owned mine revocable changed⟩
      rw [changed]
      exact open_
  constructor
  · intro id reports
    rcases reported reports with before | ⟨_, _, _, open_, _⟩
    · exact healthy before
    · exact open_
  · intro other id keyHash revokedAt seen
    exact hold.marking_of_act owned running result seen
  · intro id reports
    rcases reported reports with before | ⟨_, _, _, _, dead⟩
    · have dead := hold.dead before
      rw [store]
      refine ⟨frame.rowRevoked_exec dead.row, frame.entriesRevoked_exec dead.entries ?_ ?_⟩
      · intro created caller same sameId
        subst same
        rw [KeyFrame.revocable, sameId] at revocable
        exact absurd before (of_decide_eq_true revocable)
      · intro hash record same sameId
        subst same
        rw [KeyFrame.revocable, sameId] at revocable
        exact absurd before (of_decide_eq_true revocable)
    · exact dead

theorem step {event : Event} (hold : RevocationsHold world) (owned : KeysOwned hashKey world)
    (fit : World.CallsFit hashKey world) (revocable : keysRevocable world event = true)
    (taken : world.step hashKey event = some next) : RevocationsHold next := by
  rcases World.key_cases taken with ⟨same, calls, _, _⟩ |
    ⟨ticket, input, frame, rfl, _, running, result⟩ |
    ⟨id, nowTs, _, pool, keys, poisoned, calls, _, _⟩ |
    ⟨now, input, opened, rfl, _, success, result⟩
  · refine hold.of_undisturbed calls ?_ same.poisoned ?_ fun id dead => dead.of_same same
    · intro id reported
      rcases World.revokedIds_cases fit taken reported with
        before | ⟨ticket, _, _, _, _, seen, gone, _⟩
      · exact before
      · cases (calls.kept seen).symm.trans gone
    · intro row member
      rw [same.apiKeys]
      exact ⟨row, member, rfl, rfl⟩
  · refine hold.of_act owned fit running ?_ taken result
    simpa [keysRevocable, World.keyAt_of_frameAt running] using revocable
  · have refl : Calls.Undisturbed Frame.key? KeyFrame.IsEntry world.calls next.calls := by
      rw [calls]
      exact .refl _
    refine hold.of_undisturbed refl ?_ poisoned ?_ fun id dead => dead.background pool keys
    · intro id reported
      rwa [World.revokedIds, calls] at reported
    · intro row member
      rw [pool]
      refine ⟨_, List.mem_map_of_mem member, ?_⟩
      split <;> exact ⟨rfl, rfl⟩
  · constructor
    · intro id reported
      rw [result]
      rcases Store.open_cases success with rfl | ⟨_, _, rfl⟩ <;> rfl
    · intro ticket id keyHash revokedAt seen
      simp [result, World.keyAt, Calls.viewAt, Calls.frameAt_dropRunning] at seen
    · intro id reported
      rw [result]
      rcases World.revokedIds_cases fit taken reported with before | ⟨_, _, _, _, same, _⟩
      · exact (hold.dead before).reopened owned.revoked success
      · cases same

end RevocationsHold

/-! ## What authentication answers -/

namespace World

variable {hashKey : String → String} {world next : World} {event : Event}

theorem returned_kept (taken : world.step hashKey event = some next) {ticket : ℕ} {op : Op}
    {result : Result} (returned : world.calls.Returned ticket op result) :
    next.calls.Returned ticket op result := by
  unfold Calls.Returned at returned ⊢
  rcases step_cases taken with ⟨made, other, rfl, free, rfl⟩ |
    ⟨mover, input, frame, rfl, _, running, rfl⟩ |
    ⟨position, succeeds, task, rfl, _, rfl⟩ | ⟨now, input, opened, rfl, _, _, rfl⟩
  · rw [Calls.start, Dict.lookup_insert_ite, if_neg]
    · exact returned
    · intro same
      rw [same, free] at returned
      cases returned
  · rw [acted, Calls.lookup_advance, if_neg]
    · exact returned
    · intro same
      rw [← same, Calls.Returned.frameAt returned] at running
      cases running
  · exact returned
  · rw [Calls.dropRunning, Dict.lookup_retain, returned]
    rfl

/-- An accepted record is unrevoked in the cache, or about to be stored there. -/
def Accepts (hashKey : String → String) (world : World) (ticket : ℕ) (rawKey : String)
    (record : KeyRecord) : Prop :=
  (world.store.keys.lookup (hashKey rawKey) = some record ∧ record.revokedAt = none) ∨
    world.keyAt ticket = some (.authStore (hashKey rawKey) record)

theorem authenticate_cases (fit : CallsFit hashKey world)
    (taken : world.step hashKey event = some next) {ticket : ℕ} {rawKey : String} {result : Result}
    (returned : next.calls.Returned ticket (.authenticate rawKey) result) :
    world.calls.Returned ticket (.authenticate rawKey) result ∨
      world.store.keysPoisoned = true ∨
      result = .authenticated none ∨
      ∃ record, result = .authenticated (some record) ∧
        world.Accepts hashKey ticket rawKey record ∧ ∃ input, event = .act ticket input := by
  rcases lookup_cases taken returned with before | entered |
    ⟨input, frame, rfl, _, before, finished, rfl⟩
  · exact Or.inl before
  · cases entered
  · right
    obtain ⟨mine, rfl, serves⟩ := fit _ _ _ before
    have seen : world.keyAt ticket = some mine :=
      keyAt_of_frameAt (Calls.frameAt_eq_some_iff.mpr ⟨_, before⟩)
    by_cases poisoned : world.store.keysPoisoned = true
    · exact Or.inl poisoned
    have healthy : world.store.keysPoisoned = false := by simpa using poisoned
    right
    cases mine with
    | authLookup presented =>
        cases serves
        simp only [Frame.exec, KeyFrame.exec, KeyFrame.withKeys_healthy healthy] at finished
        split at finished
        · rename_i record found
          cases finished
          obtain ⟨cached, active⟩ := Option.filter_eq_some_iff.mp found
          have unrevoked := ((record.isActive_iff _).mp active).1
          exact Or.inr ⟨record, rfl, Or.inl ⟨cached, unrevoked⟩, input, rfl⟩
        · cases finished
    | authLoad wanted now =>
        simp only [Frame.exec, KeyFrame.exec] at finished
        split at finished
        · cases finished
          exact Or.inl rfl
        · split at finished <;> cases finished
          exact Or.inl rfl
    | authStore wanted record =>
        cases serves
        simp only [Frame.exec, KeyFrame.exec, KeyFrame.withKeys_healthy healthy] at finished
        cases finished
        exact Or.inr ⟨record, rfl, Or.inr seen, input, rfl⟩
    | _ => exact serves.elim

/-- The calls that have answered since `start` refused, or accepted a key other
than `id`. -/
def RefusesSince (start world : World) (id : String) : Prop :=
  ∀ ticket rawKey result, world.calls.Returned ticket (.authenticate rawKey) result →
    start.calls.Returned ticket (.authenticate rawKey) result ∨
      result = .authenticated none ∨
      ∃ record, result = .authenticated (some record) ∧
        (record.id, rawKey) ∈ world.issued ∧ record.id ≠ id

theorem Accepts.issued {ticket : ℕ} {rawKey : String} {record : KeyRecord}
    (owned : KeysOwned hashKey world) (injective : Function.Injective hashKey)
    (accepts : world.Accepts hashKey ticket rawKey record) :
    (record.id, rawKey) ∈ world.issued := by
  have issued : world.Issued hashKey (hashKey rawKey) record.id := by
    rcases accepts with ⟨cached, _⟩ | storing
    · exact (owned.cached cached).2
    · exact owned.held storing (List.mem_singleton.mpr rfl)
  obtain ⟨otherRaw, member, hashed⟩ := issued
  rwa [injective hashed] at member

/-- No action accepts a key reported as revoked. -/
theorem Accepts.not_reported {ticket : ℕ} {input : Input} {rawKey : String} {record : KeyRecord}
    (hold : RevocationsHold world) (revocable : keysRevocable world (.act ticket input) = true)
    (accepts : world.Accepts hashKey ticket rawKey record) : record.id ∉ world.revokedIds := by
  intro reported
  rcases accepts with ⟨cached, unrevoked⟩ | storing
  · have stamped := (hold.dead reported).entries _ _ cached rfl
    rw [unrevoked] at stamped
    cases stamped
  · simp only [keysRevocable, storing, Option.all_some, KeyFrame.revocable] at revocable
    exact of_decide_eq_true revocable reported

theorem RefusesSince.step {start : World} {id : String} (refuses : RefusesSince start world id)
    (owned : KeysOwned hashKey world) (injective : Function.Injective hashKey)
    (fit : CallsFit hashKey world) (hold : RevocationsHold world)
    (reported : id ∈ world.revokedIds) (revocable : keysRevocable world event = true)
    (taken : world.step hashKey event = some next) : RefusesSince start next id := by
  intro ticket rawKey result returned
  rcases authenticate_cases fit taken returned with
    before | poisoned | none | ⟨record, rfl, accepts, input, rfl⟩
  · refine (refuses ticket rawKey result before).imp_right (Or.imp_right ?_)
    intro ⟨record, accepted, issued, other⟩
    exact ⟨record, accepted, (issued_extends taken).subset issued, other⟩
  · rw [hold.healthy reported] at poisoned
    cases poisoned
  · exact Or.inr (Or.inl none)
  · refine Or.inr (Or.inr ⟨record, rfl, (issued_extends taken).subset (accepts.issued owned injective), ?_⟩)
    intro same
    exact accepts.not_reported hold revocable (same ▸ reported)

end World

/-- A dead key is refused in two actions. -/
theorem Store.Dead.refused {hashKey : String → String} {world : World} {id rawKey : String}
    (dead : world.store.Dead id) (owned : KeysOwned hashKey world)
    (injective : Function.Injective hashKey) (healthy : world.store.keysPoisoned = false)
    (issued : (id, rawKey) ∈ world.issued) (first second : Input) :
    (KeyFrame.authLookup rawKey).exec hashKey first world.store =
        .goto world.store (.key (.authLoad (hashKey rawKey) first.now)) ∧
      (KeyFrame.authLoad (hashKey rawKey) first.now).exec hashKey second world.store =
        .finish world.store (.authenticated none) := by
  have mine : world.Issued hashKey (hashKey rawKey) id := ⟨rawKey, issued, rfl⟩
  constructor
  · simp only [KeyFrame.exec, KeyFrame.withKeys_healthy healthy]
    split
    · rename_i record found
      obtain ⟨cached, active⟩ := Option.filter_eq_some_iff.mp found
      have stamped := dead.entries _ _ cached (owned.unique injective (owned.cached cached).2 mine)
      rw [((record.isActive_iff _).mp active).1] at stamped
      cases stamped
    · rfl
  · simp only [KeyFrame.exec]
    split
    · rfl
    · rename_i row executed
      obtain ⟨member, filed⟩ := findBy_mem (Input.execute_eq_some.mp executed).2
      obtain ⟨revoked, revokedMember, revokedId, stamped⟩ := dead.row
      have sameId : row.id = id := owned.unique injective (filed ▸ owned.rows row member) mine
      have same : row = revoked :=
        List.inj_on_of_nodup_map world.store.pool.apiKeys_id_unique member revokedMember
          (sameId.trans revokedId.symm)
      have loaded := owned.revoked revoked revokedMember stamped
      rw [if_neg]
      intro active
      have unrevoked := ((keyRecordFromRow row).isActive_iff first.now.seconds).mp active |>.1
      rw [same, show (keyRecordFromRow revoked).revokedAt = readNullable revoked.revokedAt from rfl]
        at unrevoked
      rw [unrevoked] at loaded
      cases loaded

/-! ## Whole runs -/

structure RevocationsTracked (hashKey : String → String) (world : World) : Prop where
  owned : KeysOwned hashKey world
  fit : World.CallsFit hashKey world
  hold : RevocationsHold world

namespace RevocationsTracked

variable {hashKey : String → String} {world later : World} {events : List Event}

theorem blank (hashKey : String → String) : RevocationsTracked hashKey World.blank := by
  refine ⟨World.blank_keysOwned hashKey, World.blank_callsFit hashKey, ?_, ?_, ?_⟩
  · intro id reported
    cases reported
  · intro ticket id keyHash revokedAt seen
    cases seen
  · intro id reported
    cases reported

theorem step {event : Event} (tracked : RevocationsTracked hashKey world)
    (injective : Function.Injective hashKey) (revocable : keysRevocable world event = true)
    (taken : world.step hashKey event = some later) : RevocationsTracked hashKey later :=
  ⟨tracked.owned.step injective taken, tracked.fit.step taken,
    tracked.hold.step tracked.owned tracked.fit revocable taken⟩

theorem run (tracked : RevocationsTracked hashKey world) (injective : Function.Injective hashKey)
    (run : World.RunWhen hashKey (fun before event => keysRevocable before event = true)
      world events later) : RevocationsTracked hashKey later :=
  run.invariant (fun _ _ _ before revocable taken => before.step injective revocable taken) tracked

theorem refuses {id : String} (tracked : RevocationsTracked hashKey world)
    (injective : Function.Injective hashKey) (reported : id ∈ world.revokedIds)
    (run : World.RunWhen hashKey (fun before event => keysRevocable before event = true)
      world events later) :
    RevocationsTracked hashKey later ∧ id ∈ later.revokedIds ∧
      World.RefusesSince world later id := by
  have preserved : ∀ before event after,
      (RevocationsTracked hashKey before ∧ id ∈ before.revokedIds ∧
        World.RefusesSince world before id) →
      keysRevocable before event = true → before.step hashKey event = some after →
      RevocationsTracked hashKey after ∧ id ∈ after.revokedIds ∧
        World.RefusesSince world after id := by
    intro before event after ⟨old, oldReported, oldRefuses⟩ revocable taken
    obtain ⟨ticket, tenantId, returned⟩ := World.mem_revokedIds.mp oldReported
    exact ⟨old.step injective revocable taken,
      World.mem_revokedIds.mpr ⟨ticket, tenantId, World.returned_kept taken returned⟩,
      oldRefuses.step old.owned injective old.fit old.hold oldReported revocable taken⟩
  exact run.invariant preserved ⟨tracked, reported, fun _ _ _ before => Or.inl before⟩

end RevocationsTracked

/-- In a run that keeps revocable keys so, once `revoke_key` has returned
`Ok(true)` every authentication with a raw key of that id, whenever it was
issued, is refused, and one that runs alone is refused in two actions. -/
theorem marked_revocation_lasts {hashKey : String → String} {world later : World}
    {events : List Event} {ticket : ℕ} {tenantId id : String}
    (injective : Function.Injective hashKey)
    (reached : World.ReachableWhen hashKey
      (fun before event => keysRevocable before event = true) world)
    (revoked : world.calls.Returned ticket (.revokeKey tenantId id) (.revokedKey true))
    (run : World.RunWhen hashKey (fun before event => keysRevocable before event = true)
      world events later) :
    (∀ caller rawKey result, (id, rawKey) ∈ later.issued →
      later.calls.Returned caller (.authenticate rawKey) result →
      result = .authenticated none ∨
        world.calls.Returned caller (.authenticate rawKey) result) ∧
    ∀ rawKey first second, (id, rawKey) ∈ later.issued →
      (KeyFrame.authLookup rawKey).exec hashKey first later.store =
          .goto later.store (.key (.authLoad (hashKey rawKey) first.now)) ∧
        (KeyFrame.authLoad (hashKey rawKey) first.now).exec hashKey second later.store =
          .finish later.store (.authenticated none) := by
  obtain ⟨earlier, firstRun⟩ := reached
  have tracked := (RevocationsTracked.blank hashKey).run injective firstRun
  have reported : id ∈ world.revokedIds :=
    World.mem_revokedIds.mpr ⟨ticket, tenantId, revoked⟩
  obtain ⟨trackedLater, reportedLater, refuses⟩ := tracked.refuses injective reported run
  constructor
  · intro caller rawKey result issued returned
    rcases refuses caller rawKey result returned with before | none | ⟨record, _, mine, other⟩
    · exact Or.inr before
    · exact Or.inl none
    · have same : (id, rawKey) = (record.id, rawKey) :=
        List.inj_on_of_nodup_map trackedLater.owned.raws issued mine rfl
      exact absurd (congrArg Prod.fst same).symm other
  · intro rawKey first second issued
    exact (trackedLater.hold.dead reportedLater).refused trackedLater.owned injective
      (trackedLater.hold.healthy reportedLater) issued first second

end

open scoped DefaultBackend

/-- A rotation and a revocation of the default key; the revocation reads the old
hash and marks it after the entry has moved. -/
def overtakenKeyRevocation : List Event :=
  [.call 1 (.rotateKey (sampleId 1).text (sampleId 2).text),
    .call 2 (.revokeKey (sampleId 1).text (sampleId 2).text),
    .act 1 (sampleInput 0 4), .act 2 (sampleInput 0 4),
    .act 1 (sampleInput 0 2), .act 1 (sampleInput 0 4),
    .act 2 (sampleInput 0 4), .act 2 (sampleInput 0 4)]

def rotatedDefault : KeyRecord :=
  { id := (sampleId 2).text
    tenantId := some (sampleId 1).text
    label := "default"
    role := .admin
    keyHash := sampleHash (sampleKey 2)
    createdAt := 1760000000
    expiresAt := none
    lastUsedAt := none
    revokedAt := none }

theorem revoked_key_still_accepted :
    ¬∀ hashKey world events later ticket tenantId id, Function.Injective hashKey →
      World.Reachable hashKey world →
      world.calls.Returned ticket (.revokeKey tenantId id) (.revokedKey true) →
      World.RunWhen hashKey (fun _ _ => True) world events later →
      ∀ caller rawKey result, (id, rawKey) ∈ later.issued →
        later.calls.Returned caller (.authenticate rawKey) result →
        result = .authenticated none ∨
          world.calls.Returned caller (.authenticate rawKey) result := by
  intro claim
  obtain ⟨world, later, first, second, outcome⟩ :=
    World.exists_runs sampleHash (fun _ _ => true) (fun _ _ => true)
      (tenantSetup ++ overtakenKeyRevocation)
      [.call 3 (.authenticate (sampleKey 2)), .act 3 (sampleInput 0 4)]
      (fun world later =>
        decide (world.calls.Returned 2 (.revokeKey (sampleId 1).text (sampleId 2).text)
          (.revokedKey true)) &&
        decide (world.calls.lookup 3 = none) &&
        decide (((sampleId 2).text, sampleKey 2) ∈ later.issued) &&
        decide (later.calls.Returned 3 (.authenticate (sampleKey 2))
          (.authenticated (some rotatedDefault))))
      (by decide +kernel)
  obtain ⟨⟨⟨revoked, unmade⟩, issued⟩, accepted⟩ : ((_ ∧ _) ∧ _) ∧ _ := by
    simpa only [Bool.and_eq_true, decide_eq_true_eq] using outcome
  have answers := claim sampleHash world _ later 2 _ _ sampleHash_injective
    (World.ReachableWhen.reachable ⟨_, first⟩) revoked
    (second.weaken fun _ _ _ => trivial) 3 _ _ issued accepted
  rcases answers with refused | before
  · cases refused
  · rw [Calls.Returned, unmade] at before
    cases before

theorem marked_revocation_lasts_after_rotation :
    ∃ later : World,
      later.calls.Returned 3 (.authenticate (sampleKey 2)) (.authenticated none) ∧
      ∀ caller result, later.calls.Returned caller (.authenticate (sampleKey 2)) result →
        result = .authenticated none := by
  obtain ⟨world, later, first, second, outcome⟩ :=
    World.exists_runs sampleHash keysRevocable keysRevocable
      (tenantSetup ++
        [.call 1 (.rotateKey (sampleId 1).text (sampleId 2).text),
          .act 1 (sampleInput 0 4), .act 1 (sampleInput 0 2), .act 1 (sampleInput 0 4),
          .call 2 (.revokeKey (sampleId 1).text (sampleId 2).text),
          .act 2 (sampleInput 0 4), .act 2 (sampleInput 0 4), .act 2 (sampleInput 0 4)])
      [.call 3 (.authenticate (sampleKey 2)), .act 3 (sampleInput 0 4), .act 3 (sampleInput 0 4)]
      (fun world later =>
        decide (world.calls.Returned 2 (.revokeKey (sampleId 1).text (sampleId 2).text)
          (.revokedKey true)) &&
        (Dict.values world.calls).all (fun call => call.op ≠ .authenticate (sampleKey 2)) &&
        decide (((sampleId 2).text, sampleKey 2) ∈ later.issued) &&
        decide (later.calls.Returned 3 (.authenticate (sampleKey 2)) (.authenticated none)))
      (by decide +kernel)
  obtain ⟨⟨⟨revoked, unmade⟩, issued⟩, refused⟩ : ((_ ∧ _) ∧ _) ∧ _ := by
    simpa only [Bool.and_eq_true, decide_eq_true_eq] using outcome
  refine ⟨later, refused, ?_⟩
  intro caller result returned
  rcases (marked_revocation_lasts sampleHash_injective ⟨_, first⟩ revoked second).1 caller _ result
    issued returned with none | before
  · exact none
  · have other := List.all_eq_true.mp unmade _ (Dict.mem_values_iff.mpr ⟨caller, before⟩)
    simp at other

end SpellServer
