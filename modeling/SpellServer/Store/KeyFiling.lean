import SpellServer.Store.KeyOwnership

/-!
# Concurrent rotation

A rotation reads the hash its key is cached under, changes the row, and moves
the cache entry from the old hash to the new one, expecting to find it.  Two
overlapping rotations of a key break that: the second finds nothing and panics
under the write lock.  An id is filed under the hash where its cache entry has
to be now; `keysFiled` is the condition on a step under which it is there.
-/

namespace SpellServer

open Library

section

variable [Driver]

namespace KeyFrame

/-- A rotation of the id is between its statement and its change of the cache. -/
def rekeys (id : String) : KeyFrame → Bool
  | .rotateRekey _ _ _ target _ => target = id
  | _ => false

def rekeysFrom (hash id : String) : KeyFrame → Bool
  | .rotateRekey oldHash _ _ target _ => target = id && oldHash = hash
  | _ => false

end KeyFrame

/-- The hash the cache entry of the id has to have: the old one as long as a
rotation has still to move the entry, else the stored one. -/
def World.filedAt (world : World) (hash id : String) : Bool :=
  world.keyInFlight (KeyFrame.rekeysFrom hash id) ||
    (!world.keyInFlight (KeyFrame.rekeys id) &&
      world.store.pool.apiKeys.any fun row => row.id = id && row.keyHash = hash)

/-- A rotation changes the row only while the hash it has read is cached and no
other rotation of the key has to move the entry; an entry is written only where
the key is filed. -/
def KeyFrame.filed (world : World) (input : Input) : KeyFrame → Bool
  | .rotateUpdate oldHash id _ =>
      !input.sql ||
        (!world.keyInFlight (rekeys id) && (world.store.keys.lookup oldHash).isSome)
  | .createCache created _ => world.filedAt created.record.keyHash created.record.id
  | .authStore hash record => world.filedAt hash record.id
  | _ => true

def keysFiled (world : World) : Event → Bool
  | .act ticket input => (world.keyAt ticket).all fun frame => frame.filed world input
  | _ => true

/-- Exactly one cache entry for every row, under its stored hash. -/
structure CacheFiled (store : Store) : Prop where
  present : ∀ row ∈ store.pool.apiKeys,
    ∃ record, store.keys.lookup row.keyHash = some record ∧ record.id = row.id
  filed : ∀ hash record, store.keys.lookup hash = some record →
    ∃ row ∈ store.pool.apiKeys, row.id = record.id ∧ row.keyHash = hash

def World.Rekeying (world : World) (ticket : ℕ) (oldHash newHash id : String) : Prop :=
  ∃ rawKey caller, world.keyAt ticket = some (.rotateRekey oldHash newHash rawKey id caller)

def World.FiledAt (world : World) (hash id : String) : Prop :=
  (∃ ticket newHash, world.Rekeying ticket hash newHash id) ∨
    ((∀ ticket oldHash newHash, ¬world.Rekeying ticket oldHash newHash id) ∧
      ∃ row ∈ world.store.pool.apiKeys, row.id = id ∧ row.keyHash = hash)

theorem World.rekeys_iff {world : World} {id : String} :
    world.keyInFlight (KeyFrame.rekeys id) = true ↔
      ∃ ticket oldHash newHash, world.Rekeying ticket oldHash newHash id := by
  rw [keyInFlight, Calls.inFlight_iff]
  constructor
  · intro inFlight
    obtain ⟨ticket, frame, seen, wanted⟩ := inFlight
    cases frame with
    | rotateRekey oldHash newHash rawKey target caller =>
        have same : target = id := by simpa [KeyFrame.rekeys] using wanted
        exact ⟨ticket, oldHash, newHash, rawKey, caller, same ▸ seen⟩
    | _ => cases wanted
  · intro moving
    obtain ⟨ticket, oldHash, newHash, rawKey, caller, seen⟩ := moving
    exact ⟨ticket, _, seen, by simp [KeyFrame.rekeys]⟩

theorem World.rekeysFrom_iff {world : World} {hash id : String} :
    world.keyInFlight (KeyFrame.rekeysFrom hash id) = true ↔
      ∃ ticket newHash, world.Rekeying ticket hash newHash id := by
  rw [keyInFlight, Calls.inFlight_iff]
  constructor
  · intro inFlight
    obtain ⟨ticket, frame, seen, wanted⟩ := inFlight
    cases frame with
    | rotateRekey oldHash newHash rawKey target caller =>
        obtain ⟨rfl, rfl⟩ : target = id ∧ oldHash = hash := by
          simpa [KeyFrame.rekeysFrom] using wanted
        exact ⟨ticket, newHash, rawKey, caller, seen⟩
    | _ => cases wanted
  · intro moving
    obtain ⟨ticket, newHash, rawKey, caller, seen⟩ := moving
    exact ⟨ticket, _, seen, by simp [KeyFrame.rekeysFrom]⟩

theorem World.filedAt_iff {world : World} {hash id : String} :
    world.filedAt hash id = true ↔ world.FiledAt hash id := by
  unfold filedAt FiledAt
  rw [Bool.or_eq_true, Bool.and_eq_true, Bool.not_eq_true', rekeysFrom_iff,
    ← Bool.not_eq_true, rekeys_iff]
  simp

/-- While no process step has gone wrong, the lock is healthy, every entry is
where its key is filed, every key has one, and a rotation's second half finds
what it expects. -/
structure KeysTracked (world : World) : Prop where
  healthy : world.store.keysPoisoned = false
  single : ∀ {ticket other oldHash newHash oldHash' newHash' id},
    world.Rekeying ticket oldHash newHash id → world.Rekeying other oldHash' newHash' id →
    ticket = other
  moving : ∀ {ticket oldHash newHash id}, world.Rekeying ticket oldHash newHash id →
    (∃ record, world.store.keys.lookup oldHash = some record ∧ record.id = id) ∧
      ∀ row ∈ world.store.pool.apiKeys, row.id = id → row.keyHash = newHash
  filed : ∀ {hash record}, world.store.keys.lookup hash = some record →
    world.FiledAt hash record.id
  present : ∀ row ∈ world.store.pool.apiKeys,
    (∃ hash record, world.store.keys.lookup hash = some record ∧ record.id = row.id) ∨
      ∃ ticket created caller, world.keyAt ticket = some (.createCache created caller) ∧
        created.record.id = row.id

namespace KeysTracked

variable {world next : World}

/-- A key is filed in one place. -/
theorem filed_unique (tracked : KeysTracked world) {hash other id : String}
    (first : world.FiledAt hash id) (second : world.FiledAt other id) : hash = other := by
  rcases first with ⟨ticket, newHash, moving⟩ | ⟨still, row, member, sameId, stored⟩
  · rcases second with ⟨ticket', newHash', moving'⟩ | ⟨still', _⟩
    · cases tracked.single moving moving'
      obtain ⟨rawKey, caller, seen⟩ := moving
      obtain ⟨rawKey', caller', seen'⟩ := moving'
      cases seen.symm.trans seen'
      rfl
    · exact absurd moving (still' ticket hash newHash)
  · rcases second with ⟨ticket', newHash', moving'⟩ | ⟨_, row', member', sameId', stored'⟩
    · exact absurd moving' (still ticket' other newHash')
    · have same : row = row' :=
        List.inj_on_of_nodup_map world.store.pool.apiKeys_id_unique member member'
          (sameId.trans sameId'.symm)
      rw [← stored, ← stored', same]

theorem cacheFiled (tracked : KeysTracked world) (quiescent : world.calls.Quiescent) :
    CacheFiled world.store := by
  have nobody : ∀ ticket, world.keyAt ticket = none := fun ticket => quiescent.viewAt ticket
  have still : ∀ {hash id}, world.FiledAt hash id →
      ∃ row ∈ world.store.pool.apiKeys, row.id = id ∧ row.keyHash = hash := by
    intro hash id filed
    rcases filed with ⟨ticket, newHash, rawKey, caller, seen⟩ | ⟨_, row⟩
    · rw [nobody] at seen
      cases seen
    · exact row
  constructor
  · intro row member
    rcases tracked.present row member with ⟨hash, record, found, sameId⟩ |
      ⟨ticket, created, caller, seen, _⟩
    · obtain ⟨other, otherMember, otherId, otherHash⟩ := still (tracked.filed found)
      have same : other = row :=
        List.inj_on_of_nodup_map world.store.pool.apiKeys_id_unique otherMember member
          (otherId.trans sameId)
      exact ⟨record, by rw [← same, otherHash, found], sameId⟩
    · rw [nobody] at seen
      cases seen
  · intro hash record found
    exact still (tracked.filed found)

private theorem filedAt_of_same
    (rekeying : ∀ ticket oldHash newHash id,
      next.Rekeying ticket oldHash newHash id ↔ world.Rekeying ticket oldHash newHash id)
    (rows : ∀ row ∈ world.store.pool.apiKeys, ∃ later ∈ next.store.pool.apiKeys,
      later.id = row.id ∧ later.keyHash = row.keyHash) {hash id : String}
    (filed : world.FiledAt hash id) : next.FiledAt hash id := by
  rcases filed with ⟨ticket, newHash, moving⟩ | ⟨still, row, member, sameId, sameHash⟩
  · exact Or.inl ⟨ticket, newHash, (rekeying _ _ _ _).mpr moving⟩
  · obtain ⟨later, laterMember, laterId, laterHash⟩ := rows row member
    refine Or.inr ⟨?_, later, laterMember, laterId.trans sameId, laterHash.trans sameHash⟩
    intro ticket oldHash newHash moving
    exact still ticket oldHash newHash ((rekeying _ _ _ _).mp moving)

/-- A step that changes no id and no hash, and moves no call into or out of a
rotation's second half. -/
private theorem of_same (tracked : KeysTracked world)
    (rekeying : ∀ ticket oldHash newHash id,
      next.Rekeying ticket oldHash newHash id ↔ world.Rekeying ticket oldHash newHash id)
    (creates : ∀ ticket created caller,
      world.keyAt ticket = some (.createCache created caller) →
      next.keyAt ticket = some (.createCache created caller))
    (rows : ∀ row ∈ next.store.pool.apiKeys, ∃ old ∈ world.store.pool.apiKeys,
      row.id = old.id ∧ row.keyHash = old.keyHash)
    (rowsBack : ∀ row ∈ world.store.pool.apiKeys, ∃ later ∈ next.store.pool.apiKeys,
      later.id = row.id ∧ later.keyHash = row.keyHash)
    (keys : ∀ hash, (next.store.keys.lookup hash).map KeyRecord.id =
      (world.store.keys.lookup hash).map KeyRecord.id)
    (healthy : next.store.keysPoisoned = world.store.keysPoisoned) : KeysTracked next := by
  have back : ∀ {hash record}, world.store.keys.lookup hash = some record →
      ∃ later, next.store.keys.lookup hash = some later ∧ later.id = record.id := by
    intro hash record found
    have same := keys hash
    rw [found] at same
    exact Option.map_eq_some_iff.mp same
  constructor
  · rw [healthy]
    exact tracked.healthy
  · intro ticket other oldHash newHash oldHash' newHash' id moving moving'
    exact tracked.single ((rekeying _ _ _ _).mp moving) ((rekeying _ _ _ _).mp moving')
  · intro ticket oldHash newHash id moving
    obtain ⟨⟨record, found, sameId⟩, stored⟩ := tracked.moving ((rekeying _ _ _ _).mp moving)
    obtain ⟨later, laterFound, laterId⟩ := back found
    refine ⟨⟨later, laterFound, laterId.trans sameId⟩, ?_⟩
    intro row member rowId
    obtain ⟨old, oldMember, oldId, oldHash⟩ := rows row member
    rw [oldHash]
    exact stored old oldMember (oldId.symm.trans rowId)
  · intro hash record found
    have same := keys hash
    rw [found] at same
    obtain ⟨old, oldFound, sameId⟩ := Option.map_eq_some_iff.mp same.symm
    exact sameId ▸ filedAt_of_same rekeying rowsBack (tracked.filed oldFound)
  · intro row member
    obtain ⟨old, oldMember, oldId, _⟩ := rows row member
    rw [oldId]
    rcases tracked.present old oldMember with ⟨hash, record, found, sameId⟩ |
      ⟨ticket, created, caller, seen, sameId⟩
    · obtain ⟨later, laterFound, laterId⟩ := back found
      exact Or.inl ⟨hash, later, laterFound, laterId.trans sameId⟩
    · exact Or.inr ⟨ticket, created, caller, creates _ _ _ seen, sameId⟩

section Acting

/-- A rotation has still to move the cache entry. -/
private def isRekey : KeyFrame → Bool
  | .rotateRekey .. => true
  | _ => false

/-- A new key has still to be cached. -/
private def isCache : KeyFrame → Bool
  | .createCache .. => true
  | _ => false

private def entersRekey (status : Status Frame Result) : Bool :=
  (status.frame?.bind Frame.key?).any isRekey

variable {hashKey : String → String} {ticket : ℕ} {frame : KeyFrame}
  {status : Status Frame Result}

private theorem rekeying_of_act
    (running : world.calls.frameAt ticket = some (.key frame))
    (calls : next.calls = world.calls.advance ticket status)
    (outside : isRekey frame = false) (goes : entersRekey status = false)
    (other : ℕ) (oldHash newHash id : String) :
    next.Rekeying other oldHash newHash id ↔ world.Rekeying other oldHash newHash id := by
  constructor
  · intro moving
    obtain ⟨rawKey, caller, seen⟩ := moving
    rcases World.keyAt_cases running calls seen with ⟨_, arrived⟩ | ⟨_, before⟩
    · rw [arrived] at goes
      cases goes
    · exact ⟨rawKey, caller, before⟩
  · intro moving
    obtain ⟨rawKey, caller, seen⟩ := moving
    refine ⟨rawKey, caller, World.keyAt_stays running calls seen ?_⟩
    intro same
    rw [← same] at outside
    cases outside

private theorem creates_of_act
    (running : world.calls.frameAt ticket = some (.key frame))
    (calls : next.calls = world.calls.advance ticket status)
    (outside : isCache frame = false) (other : ℕ)
    (created : CreatedApiKey) (caller : Caller)
    (seen : world.keyAt other = some (.createCache created caller)) :
    next.keyAt other = some (.createCache created caller) := by
  refine World.keyAt_stays running calls seen ?_
  intro same
  rw [← same] at outside
  cases outside

private theorem createInsert {tenantId : Option String} {label : String}
    {role : Role} {expiresAt : Option UInt64} {caller : Caller} {created : CreatedApiKey}
    {pool : Database} (tracked : KeysTracked world) (owned : KeysOwned hashKey world)
    (running : world.calls.frameAt ticket =
      some (.key (.createInsert tenantId label role expiresAt caller)))
    (inserted : world.store.pool.insertApiKey (newApiKeyRow created.record) = some pool)
    (store : next.store = { world.store with pool })
    (calls : next.calls = world.calls.advance ticket
      (.running (.key (.createCache created caller)))) : KeysTracked next := by
  obtain ⟨⟨fresh, _⟩, rows, _⟩ := Database.insertApiKey_eq_some inserted
  have rekeying := rekeying_of_act running calls rfl rfl
  have creates := creates_of_act running calls rfl
  have memberCases : ∀ {row}, row ∈ next.store.pool.apiKeys →
      row ∈ world.store.pool.apiKeys ∨ row = newApiKeyRow created.record := by
    intro row member
    rw [store, rows] at member
    simpa using member
  have keys : next.store.keys = world.store.keys := by rw [store]
  constructor
  · rw [store]
    exact tracked.healthy
  · intro other other' oldHash newHash oldHash' newHash' id moving moving'
    exact tracked.single ((rekeying _ _ _ _).mp moving) ((rekeying _ _ _ _).mp moving')
  · intro other oldHash newHash id moving
    obtain ⟨found, stored⟩ := tracked.moving ((rekeying _ _ _ _).mp moving)
    rw [keys]
    refine ⟨found, ?_⟩
    intro row member sameId
    rcases memberCases member with old | rfl
    · exact stored row old sameId
    · -- The id of a rotation in progress is in the table already.
      obtain ⟨rawKey, caller, seen⟩ := (rekeying _ _ _ _).mp moving
      have known := owned.known_of_issued (owned.held seen (List.mem_cons_self ..))
      exact absurd (sameId ▸ known) fresh
  · intro hash record found
    rw [keys] at found
    refine filedAt_of_same rekeying ?_ (tracked.filed found)
    intro row member
    refine ⟨row, ?_, rfl, rfl⟩
    rw [store, rows]
    exact List.mem_append_left _ member
  · intro row member
    rw [keys]
    rcases memberCases member with old | rfl
    · refine (tracked.present row old).imp_right ?_
      intro creating
      obtain ⟨other, made, maker, seen, sameId⟩ := creating
      exact ⟨other, made, maker, creates _ _ _ seen, sameId⟩
    · refine Or.inr ⟨ticket, created, caller, ?_, rfl⟩
      rw [World.keyAt_advance running calls, if_pos rfl]
      rfl

/-- An entry is written for an id, where the id is filed; other ids keep theirs
and the id keeps no other. -/
private theorem of_store {hash : String} {record : KeyRecord} {result : Result}
    (tracked : KeysTracked world) (owned : KeysOwned hashKey world)
    (injective : Function.Injective hashKey)
    (running : world.calls.frameAt ticket = some (.key frame))
    (calls : next.calls = world.calls.advance ticket (.returned result))
    (mine : (hash, record.id) ∈ frame.holds)
    (outside : isRekey frame = false)
    (creates : ∀ created caller, frame = .createCache created caller →
      created.record.id = record.id)
    (filed : world.FiledAt hash record.id)
    (pool : next.store.pool = world.store.pool)
    (stored : next.store.keys.lookup hash = some record)
    (kept : ∀ other found, other ≠ hash → found.id ≠ record.id →
      world.store.keys.lookup other = some found → next.store.keys.lookup other = some found)
    (old : ∀ other found, other ≠ hash → next.store.keys.lookup other = some found →
      world.store.keys.lookup other = some found)
    (healthy : next.store.keysPoisoned = world.store.keysPoisoned) : KeysTracked next := by
  have rekeying := rekeying_of_act running calls outside rfl
  have sameRows : ∀ row ∈ world.store.pool.apiKeys, ∃ later ∈ next.store.pool.apiKeys,
      later.id = row.id ∧ later.keyHash = row.keyHash := by
    intro row member
    rw [pool]
    exact ⟨row, member, rfl, rfl⟩
  have issued : world.Issued hashKey hash record.id :=
    owned.held (World.keyAt_of_frameAt running) mine
  -- Any entry of another id is under another hash, and stays.
  have survives : ∀ {other found}, world.store.keys.lookup other = some found →
      found.id ≠ record.id → next.store.keys.lookup other = some found := by
    intro other found before different
    apply kept other found _ different before
    intro same
    subst same
    exact different (owned.unique injective (owned.cached before).2 issued)
  constructor
  · rw [healthy]
    exact tracked.healthy
  · intro first second oldHash newHash oldHash' newHash' id moving moving'
    exact tracked.single ((rekeying _ _ _ _).mp moving) ((rekeying _ _ _ _).mp moving')
  · intro other oldHash newHash id moving
    have before := (rekeying _ _ _ _).mp moving
    obtain ⟨⟨found, cached, sameId⟩, rows⟩ := tracked.moving before
    rw [pool]
    refine ⟨?_, rows⟩
    by_cases same : id = record.id
    · have place : hash = oldHash := by
        apply tracked.filed_unique filed
        exact Or.inl ⟨other, newHash, same ▸ before⟩
      exact ⟨record, place ▸ stored, same.symm⟩
    · have different : found.id ≠ record.id := fun equal => same (sameId.symm.trans equal)
      exact ⟨found, survives cached different, sameId⟩
  · intro other found cached
    apply filedAt_of_same rekeying sameRows
    by_cases same : other = hash
    · subst other
      cases stored.symm.trans cached
      exact filed
    · exact tracked.filed (old other found same cached)
  · intro row member
    rw [pool] at member
    by_cases same : row.id = record.id
    · exact Or.inl ⟨hash, record, stored, same.symm⟩
    · rcases tracked.present row member with ⟨other, found, cached, sameId⟩ |
        ⟨other, created, caller, seen, sameId⟩
      · have different : found.id ≠ record.id := fun equal => same (sameId.symm.trans equal)
        exact Or.inl ⟨other, found, survives cached different, sameId⟩
      · refine Or.inr ⟨other, created, caller, ?_, sameId⟩
        refine World.keyAt_stays running calls seen ?_
        intro here
        exact same (sameId.symm.trans (creates _ _ here.symm))

private theorem rotateUpdate {input : Input} {oldHash id : String} {caller : Caller}
    {newHash : String} {pool : Database} (tracked : KeysTracked world)
    (owned : KeysOwned hashKey world) (injective : Function.Injective hashKey)
    (running : world.calls.frameAt ticket = some (.key (.rotateUpdate oldHash id caller)))
    (alone : ∀ other oldHash newHash, ¬world.Rekeying other oldHash newHash id)
    (cached : (world.store.keys.lookup oldHash).isSome = true)
    (updated : world.store.pool.updateKeyHash id newHash = some pool)
    (store : next.store = { world.store with pool })
    (calls : next.calls = world.calls.advance ticket
      (.running (.key (.rotateRekey oldHash newHash input.rawKey id caller)))) :
    KeysTracked next := by
  obtain ⟨_, rows, _⟩ := Database.updateKeyHash_eq_some updated
  obtain ⟨record, found⟩ := Option.isSome_iff_exists.mp cached
  have sameId : record.id = id :=
    owned.unique injective (owned.cached found).2
      (owned.held (World.keyAt_of_frameAt running) (List.mem_singleton.mpr rfl))
  have keys : next.store.keys = world.store.keys := by rw [store]
  have rowCases : ∀ {row}, row ∈ next.store.pool.apiKeys →
      (row.id = id ∧ row.keyHash = newHash ∧ ∃ old ∈ world.store.pool.apiKeys, old.id = id) ∨
        (row.id ≠ id ∧ row ∈ world.store.pool.apiKeys) := by
    intro row member
    rw [store, rows] at member
    obtain ⟨old, oldMember, rfl⟩ := List.mem_map.mp member
    by_cases selected : old.id = id
    · simp only [selected, if_true]
      exact Or.inl ⟨trivial, trivial, old, oldMember, selected⟩
    · simp only [selected, if_false]
      exact Or.inr ⟨selected, oldMember⟩
  have moves : next.Rekeying ticket oldHash newHash id := by
    refine ⟨input.rawKey, caller, ?_⟩
    rw [World.keyAt_advance running calls, if_pos rfl]
    rfl
  have rekeyingCases : ∀ {other from_ to_ target}, next.Rekeying other from_ to_ target →
      (other = ticket ∧ from_ = oldHash ∧ to_ = newHash ∧ target = id) ∨
        (other ≠ ticket ∧ world.Rekeying other from_ to_ target) := by
    intro other from_ to_ target moving
    obtain ⟨rawKey, maker, seen⟩ := moving
    rcases World.keyAt_cases running calls seen with ⟨here, arrived⟩ | ⟨elsewhere, before⟩
    · cases arrived
      exact Or.inl ⟨here, rfl, rfl, rfl⟩
    · exact Or.inr ⟨elsewhere, rawKey, maker, before⟩
  have stays : ∀ {other from_ to_ target}, world.Rekeying other from_ to_ target →
      next.Rekeying other from_ to_ target := by
    intro other from_ to_ target moving
    obtain ⟨rawKey, maker, seen⟩ := moving
    refine ⟨rawKey, maker, ?_⟩
    refine World.keyAt_stays running calls seen ?_
    intro here
    cases here
  constructor
  · rw [store]
    exact tracked.healthy
  · intro first second from_ to_ from' to' target moving moving'
    rcases rekeyingCases moving with ⟨rfl, rfl, rfl, rfl⟩ | ⟨_, before⟩
    · rcases rekeyingCases moving' with ⟨rfl, _⟩ | ⟨_, before'⟩
      · rfl
      · exact absurd before' (alone _ _ _)
    · rcases rekeyingCases moving' with ⟨rfl, rfl, rfl, rfl⟩ | ⟨_, before'⟩
      · exact absurd before (alone _ _ _)
      · exact tracked.single before before'
  · intro other from_ to_ target moving
    rw [keys]
    rcases rekeyingCases moving with ⟨rfl, rfl, rfl, rfl⟩ | ⟨_, before⟩
    · refine ⟨⟨record, found, sameId⟩, ?_⟩
      intro row member rowId
      rcases rowCases member with ⟨_, stored, _⟩ | ⟨different, _⟩
      · exact stored
      · exact absurd rowId different
    · obtain ⟨entry, stored⟩ := tracked.moving before
      refine ⟨entry, ?_⟩
      intro row member rowId
      rcases rowCases member with ⟨mine, _⟩ | ⟨_, old⟩
      · exact absurd (mine.symm.trans rowId ▸ before) (alone _ _ _)
      · exact stored row old rowId
  · intro hash entry stored
    rw [keys] at stored
    have before := tracked.filed stored
    by_cases mine : entry.id = id
    · -- Until the entry has moved the id stays filed under its old hash.
      have place : hash = oldHash := by
        apply tracked.filed_unique (mine ▸ before)
        exact sameId ▸ tracked.filed found
      rw [place, mine]
      exact Or.inl ⟨ticket, newHash, moves⟩
    · rcases before with ⟨other, to_, moving⟩ | ⟨still, row, member, rowId, rowHash⟩
      · exact Or.inl ⟨other, to_, stays moving⟩
      · refine Or.inr ⟨?_, row, ?_, rowId, rowHash⟩
        · intro other from_ to_ moving
          rcases rekeyingCases moving with ⟨_, _, _, same⟩ | ⟨_, earlier⟩
          · exact mine same
          · exact still other from_ to_ earlier
        · rw [store, rows]
          refine List.mem_map.mpr ⟨row, member, if_neg ?_⟩
          rw [rowId]
          exact mine
  · intro row member
    rw [keys]
    rcases rowCases member with ⟨mine, _⟩ | ⟨_, old⟩
    · exact Or.inl ⟨oldHash, record, found, sameId.trans mine.symm⟩
    · refine (tracked.present row old).imp_right ?_
      intro creating
      obtain ⟨other, created, maker, seen, createdId⟩ := creating
      exact ⟨other, created, maker, creates_of_act running calls rfl _ _ _ seen, createdId⟩

private theorem rotateRekey {oldHash newHash rawKey id : String} {caller : Caller}
    {record : KeyRecord} {result : Result} (tracked : KeysTracked world)
    (owned : KeysOwned hashKey world) (injective : Function.Injective hashKey)
    (running : world.calls.frameAt ticket =
      some (.key (.rotateRekey oldHash newHash rawKey id caller)))
    (found : world.store.keys.lookup oldHash = some record)
    (store : next.store =
      { world.store with
        keys := AList.insert newHash (record.rekey newHash) (world.store.keys.erase oldHash) })
    (calls : next.calls = world.calls.advance ticket (.returned result)) :
    KeysTracked next := by
  have mine := World.keyAt_of_frameAt running
  have moved : world.Rekeying ticket oldHash newHash id := ⟨rawKey, caller, mine⟩
  obtain ⟨⟨entry, entryFound, sameId⟩, rows⟩ := tracked.moving moved
  cases found.symm.trans entryFound
  have oldIssued := owned.held mine (List.mem_cons_self ..)
  have newIssued := owned.held mine (List.mem_cons_of_mem _ (List.mem_singleton.mpr rfl))
  have lookup : ∀ hash, next.store.keys.lookup hash =
      if hash = newHash then some (record.rekey newHash)
      else if hash = oldHash then none else world.store.keys.lookup hash := by
    intro hash
    rw [store, Dict.lookup_insert_ite, Dict.lookup_erase_ite]
  have pool : next.store.pool = world.store.pool := by rw [store]
  have before : ∀ {other from_ to_ target}, next.Rekeying other from_ to_ target →
      other ≠ ticket ∧ world.Rekeying other from_ to_ target := by
    intro other from_ to_ target moving
    obtain ⟨raw, maker, seen⟩ := moving
    rcases World.keyAt_cases running calls seen with ⟨_, arrived⟩ | ⟨elsewhere, earlier⟩
    · cases arrived
    · exact ⟨elsewhere, raw, maker, earlier⟩
  have stays : ∀ {other from_ to_ target}, other ≠ ticket →
      world.Rekeying other from_ to_ target → next.Rekeying other from_ to_ target := by
    intro other from_ to_ target elsewhere moving
    obtain ⟨raw, maker, seen⟩ := moving
    exact ⟨raw, maker, by rw [World.keyAt_advance running calls, if_neg elsewhere, seen]⟩
  -- Entries of other ids are under neither hash.
  have survives : ∀ {hash other}, world.store.keys.lookup hash = some other → other.id ≠ id →
      next.store.keys.lookup hash = some other := by
    intro hash other cached different
    have issued := (owned.cached cached).2
    rw [lookup, if_neg, if_neg]
    · exact cached
    · intro same
      exact different (owned.unique injective (same ▸ issued) oldIssued)
    · intro same
      exact different (owned.unique injective (same ▸ issued) newIssued)
  have filedElsewhere : ∀ {hash target}, target ≠ id → world.FiledAt hash target →
      next.FiledAt hash target := by
    intro hash target different filed
    rcases filed with ⟨other, to_, moving⟩ | ⟨still, row, member, rowId, rowHash⟩
    · refine Or.inl ⟨other, to_, stays ?_ moving⟩
      intro here
      obtain ⟨raw, maker, seen⟩ := moving
      rw [here] at seen
      cases mine.symm.trans seen
      exact different rfl
    · refine Or.inr ⟨?_, row, pool ▸ member, rowId, rowHash⟩
      intro other from_ to_ moving
      exact still other from_ to_ (before moving).2
  constructor
  · rw [store]
    exact tracked.healthy
  · intro first second from_ to_ from' to' target moving moving'
    exact tracked.single (before moving).2 (before moving').2
  · intro other from_ to_ target moving
    obtain ⟨elsewhere, earlier⟩ := before moving
    obtain ⟨⟨other, cached, otherId⟩, stored⟩ := tracked.moving earlier
    rw [pool]
    refine ⟨⟨other, survives cached ?_, otherId⟩, stored⟩
    intro same
    have sameTarget : target = id := otherId.symm.trans same
    exact elsewhere (tracked.single (sameTarget ▸ earlier) moved)
  · intro hash other cached
    rw [lookup] at cached
    split at cached
    · rename_i new
      cases cached
      have rekeyedId : (record.rekey newHash).id = id := sameId
      have stored : ∃ row ∈ world.store.pool.apiKeys, row.id = id := by
        have known := owned.known_of_issued oldIssued
        exact List.mem_map.mp known
      obtain ⟨row, member, rowId⟩ := stored
      rw [rekeyedId, new]
      refine Or.inr ⟨?_, row, pool ▸ member, rowId, rows row member rowId⟩
      intro other from_ to_ moving
      obtain ⟨elsewhere, earlier⟩ := before moving
      exact elsewhere (tracked.single earlier moved)
    · split at cached
      · cases cached
      · rename_i notOld
        apply filedElsewhere _ (tracked.filed cached)
        intro same
        have here : world.FiledAt oldHash id := Or.inl ⟨ticket, newHash, moved⟩
        exact notOld (tracked.filed_unique (same ▸ tracked.filed cached) here)
  · intro row member
    rw [pool] at member
    by_cases same : row.id = id
    · refine Or.inl ⟨newHash, record.rekey newHash, ?_, sameId.trans same.symm⟩
      rw [lookup, if_pos rfl]
    · rcases tracked.present row member with ⟨hash, other, cached, otherId⟩ |
        ⟨other, created, maker, seen, createdId⟩
      · have different : other.id ≠ id := fun equal => same (otherId.symm.trans equal)
        exact Or.inl ⟨hash, other, survives cached different, otherId⟩
      · exact Or.inr ⟨other, created, maker,
          creates_of_act running calls rfl _ _ _ seen, createdId⟩

/-- A step of a call that changes no id and no hash, outside rotations. -/
private theorem of_quiet (tracked : KeysTracked world)
    (running : world.calls.frameAt ticket = some (.key frame))
    (calls : next.calls = world.calls.advance ticket status)
    (quiet : (isRekey frame || isCache frame || entersRekey status) = false)
    (rows : next.store.pool.apiKeys.map (fun row => (row.id, row.keyHash)) =
      world.store.pool.apiKeys.map fun row => (row.id, row.keyHash))
    (keys : ∀ hash, (next.store.keys.lookup hash).map KeyRecord.id =
      (world.store.keys.lookup hash).map KeyRecord.id)
    (healthy : next.store.keysPoisoned = world.store.keysPoisoned) : KeysTracked next := by
  have transfer : ∀ {some_ other : List ApiKeyRow},
      some_.map (fun row => (row.id, row.keyHash)) = other.map (fun row => (row.id, row.keyHash)) →
      ∀ row ∈ some_, ∃ old ∈ other, row.id = old.id ∧ row.keyHash = old.keyHash := by
    intro some_ other same row member
    have paired : (row.id, row.keyHash) ∈ other.map fun row => (row.id, row.keyHash) :=
      same ▸ List.mem_map_of_mem member
    obtain ⟨old, oldMember, equal⟩ := List.mem_map.mp paired
    obtain ⟨sameId, sameHash⟩ := Prod.mk.inj equal
    exact ⟨old, oldMember, sameId.symm, sameHash.symm⟩
  obtain ⟨⟨notRekey, notCache⟩, goes⟩ :
      (isRekey frame = false ∧ isCache frame = false) ∧ entersRekey status = false := by
    simpa only [Bool.or_eq_false_iff] using quiet
  refine tracked.of_same (rekeying_of_act running calls notRekey goes)
    (creates_of_act running calls notCache) (transfer rows) ?_ keys healthy
  intro row member
  obtain ⟨later, laterMember, sameId, sameHash⟩ := transfer rows.symm row member
  exact ⟨later, laterMember, sameId.symm, sameHash.symm⟩

omit [Driver] in
private theorem modify_ids (change : KeyRecord → KeyRecord)
    (same : ∀ record, (change record).id = record.id) (keys : Dict String KeyRecord)
    (key hash : String) :
    ((keys.modify key change).lookup hash).map KeyRecord.id =
      (keys.lookup hash).map KeyRecord.id := by
  rw [Dict.lookup_modify]
  split
  · rename_i here
    rw [here, Option.map_map]
    congr 1
    funext record
    exact same record
  · rfl

theorem of_act {input : Input} (tracked : KeysTracked world) (owned : KeysOwned hashKey world)
    (injective : Function.Injective hashKey)
    (running : world.calls.frameAt ticket = some (.key frame))
    (filed : frame.filed world input = true)
    (result : next = world.acted ticket (frame.exec hashKey input world.store)) :
    KeysTracked next := by
  subst next
  have mine := World.keyAt_of_frameAt running
  have healthy := tracked.healthy
  cases frame with
  | createInsert tenantId label role expiresAt caller =>
      simp only [KeyFrame.exec]
      split
      · exact tracked.of_quiet running rfl rfl rfl (fun _ => rfl) rfl
      · rename_i pool executed
        exact tracked.createInsert owned running (Input.execute_eq_some.mp executed).2 rfl rfl
  | createCache created caller =>
      simp only [KeyFrame.exec, KeyFrame.withKeys_healthy healthy]
      refine tracked.of_store owned injective running rfl (List.mem_singleton.mpr rfl)
        rfl ?_ (World.filedAt_iff.mp filed) rfl ?_ ?_ ?_ rfl
      · intro made maker same
        cases same
        rfl
      · exact AList.lookup_insert _
      · intro other found different _ before
        rw [World.acted, Outcome.finish_store, Dict.lookup_insert_ite, if_neg different]
        exact before
      · intro other found different after
        rwa [World.acted, Outcome.finish_store, Dict.lookup_insert_ite, if_neg different] at after
  | revokeFind tenantId id | rotateFind tenantId id | touchFind id =>
      simp only [KeyFrame.exec, KeyFrame.withKeys_healthy healthy]
      split <;> exact tracked.of_quiet running rfl rfl rfl (fun _ => rfl) rfl
  | revokeUpdate id keyHash =>
      simp only [KeyFrame.exec]
      split
      · exact tracked.of_quiet running rfl rfl rfl (fun _ => rfl) rfl
      · rename_i pool executed
        cases (Input.execute_eq_some.mp executed).2
        refine tracked.of_quiet running rfl rfl ?_ (fun _ => rfl) rfl
        apply map_key_map
        intro row
        split <;> rfl
  | revokeMark id keyHash revokedAt =>
      simp only [KeyFrame.exec, KeyFrame.withKeys_healthy healthy]
      exact tracked.of_quiet running rfl rfl rfl
        (modify_ids (KeyRecord.revoke revokedAt.seconds) (fun _ => rfl) _ keyHash) rfl
  | rotateUpdate oldHash id caller =>
      simp only [KeyFrame.exec]
      split
      · exact tracked.of_quiet running rfl rfl rfl (fun _ => rfl) rfl
      · rename_i pool executed
        obtain ⟨succeeds, updated⟩ := Input.execute_eq_some.mp executed
        obtain ⟨alone, cached⟩ : world.keyInFlight (KeyFrame.rekeys id) = false ∧
            (world.store.keys.lookup oldHash).isSome = true := by
          simpa [KeyFrame.filed, succeeds] using filed
        refine tracked.rotateUpdate owned injective running ?_ cached updated rfl rfl
        intro other from_ to_ moving
        have rekeying := World.rekeys_iff.mpr ⟨other, from_, to_, moving⟩
        rw [alone] at rekeying
        cases rekeying
  | rotateRekey oldHash newHash rawKey id caller =>
      obtain ⟨⟨record, found, _⟩, _⟩ := tracked.moving ⟨rawKey, caller, mine⟩
      simp only [KeyFrame.exec, KeyFrame.withKeys_healthy healthy, found]
      exact tracked.rotateRekey owned injective running found rfl rfl
  | resetFind =>
      simp only [KeyFrame.exec, KeyFrame.withKeys_healthy healthy]
      split <;> exact tracked.of_quiet running rfl rfl rfl (fun _ => rfl) rfl
  | authLookup rawKey =>
      simp only [KeyFrame.exec, KeyFrame.withKeys_healthy healthy]
      split <;> exact tracked.of_quiet running rfl rfl rfl (fun _ => rfl) rfl
  | authLoad hash now =>
      simp only [KeyFrame.exec]
      split
      · exact tracked.of_quiet running rfl rfl rfl (fun _ => rfl) rfl
      · split <;> exact tracked.of_quiet running rfl rfl rfl (fun _ => rfl) rfl
  | authStore hash record =>
      simp only [KeyFrame.exec, KeyFrame.withKeys_healthy healthy]
      refine tracked.of_store owned injective running rfl (List.mem_singleton.mpr rfl) rfl
        (fun _ _ same => by cases same) (World.filedAt_iff.mp filed) rfl ?_ ?_ ?_ rfl
      · exact AList.lookup_insert _
      · intro other found different foreign before
        rw [World.acted, Outcome.finish_store, Dict.lookup_insert_ite, if_neg different,
          Dict.lookup_retain, before]
        simp [Option.filter, foreign]
      · intro other found different after
        rw [World.acted, Outcome.finish_store, Dict.lookup_insert_ite, if_neg different] at after
        exact (Dict.lookup_of_retain after).1
  | touchMark id keyHash nowTs =>
      simp only [KeyFrame.exec, KeyFrame.withKeys_healthy healthy]
      exact tracked.of_quiet running rfl rfl rfl
        (modify_ids (KeyRecord.touch nowTs.seconds) (fun _ => rfl) _ keyHash) rfl

end Acting

private theorem of_restart {hashKey : String → String} {now : Clock} {input : Input}
    {opened : Opened} (success : Store.open hashKey now input world.store.pool = some opened)
    (store : next.store = opened.store)
    (calls : next.calls = world.calls.dropRunning) : KeysTracked next := by
  have nobody : ∀ ticket oldHash newHash id, ¬next.Rekeying ticket oldHash newHash id := by
    intro ticket oldHash newHash id moving
    obtain ⟨rawKey, caller, seen⟩ := moving
    simp [World.keyAt, Calls.viewAt, calls, Calls.frameAt_dropRunning] at seen
  have filedAt : ∀ {hash id}, (∃ row ∈ next.store.pool.apiKeys, row.id = id ∧
      row.keyHash = hash) → next.FiledAt hash id := by
    intro hash id row
    exact Or.inr ⟨fun ticket oldHash newHash => nobody ticket oldHash newHash id, row⟩
  have loaded : ∀ {hash record}, (Store.reload world.store.pool).keys.lookup hash = some record →
      ∃ row ∈ world.store.pool.apiKeys, row.id = record.id ∧ row.keyHash = hash := by
    intro hash record found
    rw [Store.reload_keys_lookup] at found
    obtain ⟨row, selected, rfl⟩ := Option.map_eq_some_iff.mp found
    obtain ⟨member, filed⟩ := findBy_mem selected
    exact ⟨row, member, rfl, filed⟩
  have entry : ∀ row ∈ world.store.pool.apiKeys,
      (Store.reload world.store.pool).keys.lookup row.keyHash = some (keyRecordFromRow row) := by
    intro row member
    rw [Store.reload_keys_lookup,
      (findBy_eq_some_iff world.store.pool.apiKeys_keyHash_unique).mpr ⟨member, rfl⟩]
    rfl
  have single : ∀ {ticket other oldHash newHash oldHash' newHash' id},
      next.Rekeying ticket oldHash newHash id → next.Rekeying other oldHash' newHash' id →
      ticket = other := by
    intro ticket other oldHash newHash oldHash' newHash' id moving
    exact absurd moving (nobody _ _ _ _)
  have moving : ∀ {ticket oldHash newHash id}, next.Rekeying ticket oldHash newHash id →
      (∃ record, next.store.keys.lookup oldHash = some record ∧ record.id = id) ∧
        ∀ row ∈ next.store.pool.apiKeys, row.id = id → row.keyHash = newHash := by
    intro ticket oldHash newHash id moving
    exact absurd moving (nobody _ _ _ _)
  rcases Store.open_cases success with rfl | ⟨pool, inserted, rfl⟩
  · refine ⟨by rw [store]; rfl, single, moving, ?_, ?_⟩
    · intro hash record found
      apply filedAt
      rw [store] at found ⊢
      exact loaded found
    · intro row member
      rw [store] at member ⊢
      exact Or.inl ⟨_, _, entry row member, rfl⟩
  · obtain ⟨⟨_, freshHash, _⟩, rows, _⟩ := Database.insertApiKey_eq_some inserted
    refine ⟨by rw [store]; rfl, single, moving, ?_, ?_⟩
    · intro hash record found
      apply filedAt
      rw [store, Dict.lookup_insert_ite] at found
      rw [store, rows]
      split at found
      · rename_i same
        cases found
        exact ⟨_, List.mem_append_right _ (List.mem_singleton.mpr rfl), rfl, same.symm⟩
      · obtain ⟨row, member, sameId, filed⟩ := loaded found
        exact ⟨row, List.mem_append_left _ member, sameId, filed⟩
    · intro row member
      left
      rw [store, rows, List.mem_append, List.mem_singleton] at member
      rw [store]
      rcases member with old | rfl
      · refine ⟨row.keyHash, keyRecordFromRow row, ?_, rfl⟩
        rw [Dict.lookup_insert_ite, if_neg]
        · exact entry row old
        · intro same
          exact freshHash (List.mem_map.mpr ⟨row, old, same⟩)
      · exact ⟨_, _, AList.lookup_insert _, rfl⟩

theorem step {hashKey : String → String} {event : Event} (tracked : KeysTracked world)
    (owned : KeysOwned hashKey world) (injective : Function.Injective hashKey)
    (filed : keysFiled world event = true) (taken : world.step hashKey event = some next) :
    KeysTracked next := by
  have undisturbed : Calls.Undisturbed Frame.key? KeyFrame.IsEntry world.calls next.calls →
      (∀ ticket oldHash newHash id,
        next.Rekeying ticket oldHash newHash id ↔ world.Rekeying ticket oldHash newHash id) ∧
      ∀ ticket created caller, world.keyAt ticket = some (.createCache created caller) →
        next.keyAt ticket = some (.createCache created caller) := by
    intro calls
    refine ⟨?_, fun ticket created caller seen => calls.kept seen⟩
    intro ticket oldHash newHash id
    constructor
    · intro moving
      obtain ⟨rawKey, caller, seen⟩ := moving
      exact ⟨rawKey, caller, (calls.begun seen).resolve_right fun entry => entry⟩
    · intro moving
      obtain ⟨rawKey, caller, seen⟩ := moving
      exact ⟨rawKey, caller, calls.kept seen⟩
  rcases World.key_cases taken with ⟨same, calls, _, _⟩ |
    ⟨ticket, input, frame, rfl, _, running, result⟩ |
    ⟨id, nowTs, _, pool, keys, healthy, calls, _, _⟩ |
    ⟨now, input, opened, rfl, _, success, rfl⟩
  · obtain ⟨rekeying, creates⟩ := undisturbed calls
    refine tracked.of_same rekeying creates ?_ ?_ ?_ same.poisoned
    · intro row member
      rw [same.apiKeys] at member
      exact ⟨row, member, rfl, rfl⟩
    · intro row member
      rw [same.apiKeys]
      exact ⟨row, member, rfl, rfl⟩
    · intro hash
      rw [same.keys]
  · refine tracked.of_act owned injective running ?_ result
    simpa [keysFiled, World.keyAt_of_frameAt running] using filed
  · have refl : Calls.Undisturbed Frame.key? KeyFrame.IsEntry world.calls next.calls := by
      rw [calls]
      exact .refl _
    obtain ⟨rekeying, creates⟩ := undisturbed refl
    refine tracked.of_same rekeying creates ?_ ?_ ?_ healthy
    · intro row member
      rw [pool] at member
      obtain ⟨old, oldMember, rfl⟩ := List.mem_map.mp member
      refine ⟨old, oldMember, ?_⟩
      split <;> exact ⟨rfl, rfl⟩
    · intro row member
      rw [pool]
      refine ⟨_, List.mem_map_of_mem member, ?_⟩
      split <;> exact ⟨rfl, rfl⟩
    · intro hash
      rw [keys]
  · exact of_restart success rfl rfl

end KeysTracked

theorem World.blank_keysTracked : KeysTracked World.blank := by
  have nobody : ∀ ticket oldHash newHash id,
      ¬World.blank.Rekeying ticket oldHash newHash id := by
    intro ticket oldHash newHash id moving
    obtain ⟨rawKey, caller, seen⟩ := moving
    cases seen
  constructor
  · rfl
  · intro ticket other oldHash newHash oldHash' newHash' id moving
    exact absurd moving (nobody _ _ _ _)
  · intro ticket oldHash newHash id moving
    exact absurd moving (nobody _ _ _ _)
  · intro hash record found
    cases found
  · intro row member
    cases member

/-- In a run that keeps keys filed no rotation fails to find its entry, the lock
is never poisoned, and whenever no call is in flight the cache has one entry for
each row. -/
theorem filed_rotation_never_aborts {hashKey : String → String} {world : World}
    (injective : Function.Injective hashKey)
    (reached : World.ReachableWhen hashKey
      (fun before event => keysFiled before event = true) world) :
    world.store.keysPoisoned = false ∧
      (∀ ticket oldHash newHash rawKey id caller,
        world.keyAt ticket = some (.rotateRekey oldHash newHash rawKey id caller) →
        (world.store.keys.lookup oldHash).isSome = true) ∧
      (world.calls.Quiescent → CacheFiled world.store) := by
  obtain ⟨events, run⟩ := reached
  have preserved : ∀ before event after, KeysOwned hashKey before ∧ KeysTracked before →
      keysFiled before event = true → before.step hashKey event = some after →
      KeysOwned hashKey after ∧ KeysTracked after := by
    intro before event after kept filed taken
    obtain ⟨owned, tracked⟩ := kept
    exact ⟨owned.step injective taken, tracked.step owned injective filed taken⟩
  obtain ⟨_, tracked⟩ := run.invariant preserved
    ⟨World.blank_keysOwned hashKey, World.blank_keysTracked⟩
  refine ⟨tracked.healthy, ?_, tracked.cacheFiled⟩
  intro ticket oldHash newHash rawKey id caller seen
  obtain ⟨⟨record, found, _⟩, _⟩ := tracked.moving ⟨rawKey, caller, seen⟩
  exact Option.isSome_iff_exists.mpr ⟨record, found⟩

end

open scoped DefaultBackend

/-- Two rotations of the default key, both reading the same old hash. -/
def overlappingRotations : List Event :=
  [.call 1 (.rotateKey (sampleId 1).text (sampleId 2).text),
    .call 2 (.rotateKey (sampleId 1).text (sampleId 2).text),
    .act 1 (sampleInput 0 4), .act 2 (sampleInput 0 4),
    .act 1 (sampleInput 0 2), .act 2 (sampleInput 0 3),
    .act 1 (sampleInput 0 4), .act 2 (sampleInput 0 4)]

theorem rotation_poisons_key_cache :
    ¬∀ hashKey world, Function.Injective hashKey → World.Reachable hashKey world →
      world.store.keysPoisoned = false := by
  intro claim
  obtain ⟨world, run, poisoned⟩ :=
    World.exists_run sampleHash (fun _ _ => true) (tenantSetup ++ overlappingRotations)
      (fun world => world.store.keysPoisoned) (by decide +kernel)
  have healthy := claim sampleHash world sampleHash_injective
    (World.ReachableWhen.reachable ⟨_, run⟩)
  rw [healthy] at poisoned
  cases poisoned

theorem filed_rotation_never_aborts_one_after_the_other :
    ∃ world : World, world.store.keysPoisoned = false ∧ CacheFiled world.store ∧
      (world.store.keys.lookup (sampleHash (sampleKey 3))).map KeyRecord.id =
        some (sampleId 2).text := by
  obtain ⟨world, run, outcome⟩ :=
    World.exists_run sampleHash keysFiled
      (tenantSetup ++
        [.call 1 (.rotateKey (sampleId 1).text (sampleId 2).text),
          .act 1 (sampleInput 0 4), .act 1 (sampleInput 0 2), .act 1 (sampleInput 0 4),
          .call 2 (.rotateKey (sampleId 1).text (sampleId 2).text),
          .act 2 (sampleInput 0 4), .act 2 (sampleInput 0 3), .act 2 (sampleInput 0 4)])
      (fun world => decide world.calls.Quiescent &&
        (world.store.keys.lookup (sampleHash (sampleKey 3))).map KeyRecord.id ==
          some (sampleId 2).text)
      (by decide +kernel)
  obtain ⟨quiescent, filed⟩ : world.calls.Quiescent ∧
      (world.store.keys.lookup (sampleHash (sampleKey 3))).map KeyRecord.id =
        some (sampleId 2).text := by
    simpa using outcome
  obtain ⟨healthy, _, cacheFiled⟩ :=
    filed_rotation_never_aborts sampleHash_injective ⟨_, run⟩
  exact ⟨world, healthy, cacheFiled quiescent, filed⟩

end SpellServer
