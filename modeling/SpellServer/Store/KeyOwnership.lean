import SpellServer.Store.Locality

/-!
# Which hash belongs to which key

Every raw key is generated once, for one key id.  So every hash in the table,
in the cache or in the hands of a call belongs to a single id; an injective
`hash_key` makes that id unique.  This holds in every run.
-/

namespace SpellServer

open Library

variable [Driver]

def Database.keyIds (database : Database) : List String :=
  database.apiKeys.map ApiKeyRow.id

def World.keyAt (world : World) (ticket : ℕ) : Option KeyFrame :=
  world.calls.viewAt Frame.key? ticket

def World.keyInFlight (world : World) (wanted : KeyFrame → Bool) : Bool :=
  world.calls.inFlight Frame.key? wanted

theorem World.keyAt_of_frameAt {world : World} {ticket : ℕ} {frame : KeyFrame}
    (running : world.calls.frameAt ticket = some (.key frame)) :
    world.keyAt ticket = some frame := by
  simp [keyAt, Calls.viewAt, running, Frame.key?]

theorem World.keyAt_advance {world next : World} {ticket : ℕ} {frame : Frame}
    {status : Status Frame Result} (running : world.calls.frameAt ticket = some frame)
    (calls : next.calls = world.calls.advance ticket status) (other : ℕ) :
    next.keyAt other =
      if other = ticket then status.frame?.bind Frame.key? else world.keyAt other := by
  rw [keyAt, calls]
  exact Calls.viewAt_advance running status other

/-- What a call sees after another one has moved, or itself where it now is. -/
theorem World.keyAt_cases {world next : World} {ticket other : ℕ} {frame : Frame}
    {status : Status Frame Result} {mine : KeyFrame}
    (running : world.calls.frameAt ticket = some frame)
    (calls : next.calls = world.calls.advance ticket status)
    (seen : next.keyAt other = some mine) :
    (other = ticket ∧ status = .running (.key mine)) ∨
      (other ≠ ticket ∧ world.keyAt other = some mine) := by
  rw [keyAt_advance running calls] at seen
  split at seen
  · rename_i here
    cases status with
    | running later =>
        cases later with
        | key later =>
            cases seen
            exact Or.inl ⟨here, rfl⟩
        | tenant later | origin later | dictionary later => cases seen
    | returned result => cases seen
  · rename_i elsewhere
    exact Or.inr ⟨elsewhere, seen⟩

/-- A call in front of another action than the one just taken stays there. -/
theorem World.keyAt_stays {world next : World} {ticket other : ℕ} {frame mine : KeyFrame}
    {status : Status Frame Result} (running : world.calls.frameAt ticket = some (.key frame))
    (calls : next.calls = world.calls.advance ticket status)
    (seen : world.keyAt other = some mine) (another : mine ≠ frame) :
    next.keyAt other = some mine := by
  rw [keyAt_advance running calls, if_neg]
  · exact seen
  · intro same
    rw [same, keyAt_of_frameAt running] at seen
    exact another (Option.some.inj seen).symm

/-- The hash is that of a raw key generated for the id. -/
def World.Issued (hashKey : String → String) (world : World) (hash id : String) : Prop :=
  ∃ rawKey, (id, rawKey) ∈ world.issued ∧ hashKey rawKey = hash

theorem World.RawKeyFresh.unissued {hashKey : String → String} {world : World}
    (injective : Function.Injective hashKey) {input : Input} (fresh : world.RawKeyFresh input)
    (id : String) : ¬world.Issued hashKey (hashKey input.rawKey) id := by
  intro issued
  obtain ⟨rawKey, member, hashed⟩ := issued
  apply fresh
  rw [← injective hashed]
  exact List.mem_map_of_mem member

/-- The hashes a call holds, each with the id it takes it for. -/
def KeyFrame.holds : KeyFrame → List (String × String)
  | .createCache created _ => [(created.record.keyHash, created.record.id)]
  | .revokeUpdate id keyHash | .revokeMark id keyHash _ | .touchMark id keyHash _ =>
      [(keyHash, id)]
  | .rotateUpdate oldHash id _ => [(oldHash, id)]
  | .rotateRekey oldHash newHash _ id _ => [(oldHash, id), (newHash, id)]
  | .authStore hash record => [(hash, record.id)]
  | _ => []

structure KeysOwned (hashKey : String → String) (world : World) : Prop where
  raws : (world.issued.map Prod.snd).Nodup
  known : ∀ {id rawKey}, (id, rawKey) ∈ world.issued → id ∈ world.store.pool.keyIds
  rows : ∀ row ∈ world.store.pool.apiKeys, world.Issued hashKey row.keyHash row.id
  cached : ∀ {hash record}, world.store.keys.lookup hash = some record →
    record.keyHash = hash ∧ world.Issued hashKey hash record.id
  held : ∀ {ticket frame hash id}, world.keyAt ticket = some frame →
    (hash, id) ∈ frame.holds → world.Issued hashKey hash id
  loaded : ∀ {ticket hash record}, world.keyAt ticket = some (.authStore hash record) →
    record.keyHash = hash ∧ record.revokedAt = none
  revoked : ∀ row ∈ world.store.pool.apiKeys, row.revokedAt.isSome = true →
    (readNullable row.revokedAt).isSome = true

namespace KeysOwned

variable {hashKey : String → String} {world next : World}

/-- A hash belongs to one id. -/
theorem unique (owned : KeysOwned hashKey world) (injective : Function.Injective hashKey)
    {hash id other : String} (mine : world.Issued hashKey hash id)
    (theirs : world.Issued hashKey hash other) : id = other := by
  obtain ⟨rawKey, issued, hashed⟩ := mine
  obtain ⟨otherRaw, otherIssued, otherHashed⟩ := theirs
  have sameRaw : rawKey = otherRaw := injective (hashed.trans otherHashed.symm)
  have same : (id, rawKey) = (other, otherRaw) :=
    List.inj_on_of_nodup_map owned.raws issued otherIssued sameRaw
  exact congrArg Prod.fst same

theorem known_of_issued (owned : KeysOwned hashKey world) {hash id : String}
    (issued : world.Issued hashKey hash id) : id ∈ world.store.pool.keyIds := by
  obtain ⟨rawKey, member, _⟩ := issued
  exact owned.known member

/-- The hash of a new raw key is in no row. -/
theorem unstored (owned : KeysOwned hashKey world) (injective : Function.Injective hashKey)
    {input : Input} (fresh : world.RawKeyFresh input) :
    hashKey input.rawKey ∉ world.store.pool.apiKeys.map ApiKeyRow.keyHash := by
  intro member
  obtain ⟨row, rowMember, same⟩ := List.mem_map.mp member
  apply fresh.unissued injective row.id
  rw [← same]
  exact owned.rows row rowMember

theorem uncached (owned : KeysOwned hashKey world) (injective : Function.Injective hashKey)
    {input : Input} (fresh : world.RawKeyFresh input) :
    world.store.keys.lookup (hashKey input.rawKey) = none := by
  rw [Option.eq_none_iff_forall_not_mem]
  intro record found
  exact fresh.unissued injective record.id (owned.cached found).2

private theorem grows {extra : List (String × String)}
    (issued : next.issued = world.issued ++ extra) {hash id : String}
    (before : world.Issued hashKey hash id) : next.Issued hashKey hash id := by
  obtain ⟨rawKey, member, hashed⟩ := before
  refine ⟨rawKey, ?_, hashed⟩
  rw [issued]
  exact List.mem_append_left extra member

section Acting

variable {ticket : ℕ} {frame : KeyFrame} {status : Status Frame Result}

/-- A step that generates no raw key: what is in the table, in the cache or in
the hands of the call was issued before. -/
private theorem of_step (owned : KeysOwned hashKey world)
    (running : world.calls.frameAt ticket = some (.key frame))
    (calls : next.calls = world.calls.advance ticket status)
    (issued : next.issued = world.issued)
    (rows : ∀ row ∈ next.store.pool.apiKeys, ∃ old ∈ world.store.pool.apiKeys,
      row.id = old.id ∧ row.keyHash = old.keyHash ∧
        (row.revokedAt = old.revokedAt ∨ (readNullable row.revokedAt).isSome = true))
    (ids : next.store.pool.keyIds = world.store.pool.keyIds)
    (cached : ∀ hash record, next.store.keys.lookup hash = some record →
      record.keyHash = hash ∧ world.Issued hashKey hash record.id)
    (holds : ∀ later, status = .running (.key later) → ∀ hash id, (hash, id) ∈ later.holds →
      world.Issued hashKey hash id)
    (loads : ∀ hash record, status = .running (.key (.authStore hash record)) →
      record.keyHash = hash ∧ record.revokedAt = none) : KeysOwned hashKey next := by
  have same : ∀ {hash id}, world.Issued hashKey hash id → next.Issued hashKey hash id := by
    intro hash id before
    unfold World.Issued
    rw [issued]
    exact before
  constructor
  · rw [issued]
    exact owned.raws
  · intro id rawKey member
    rw [issued] at member
    rw [ids]
    exact owned.known member
  · intro row member
    obtain ⟨old, oldMember, sameId, sameHash, _⟩ := rows row member
    rw [sameId, sameHash]
    exact same (owned.rows old oldMember)
  · intro hash record found
    obtain ⟨filed, before⟩ := cached hash record found
    exact ⟨filed, same before⟩
  · intro other later hash id seen member
    rcases World.keyAt_cases running calls seen with ⟨_, goes⟩ | ⟨_, before⟩
    · exact same (holds later goes hash id member)
    · exact same (owned.held before member)
  · intro other hash record seen
    rcases World.keyAt_cases running calls seen with ⟨_, goes⟩ | ⟨_, before⟩
    · exact loads hash record goes
    · exact owned.loaded before
  · intro row member revoked
    obtain ⟨old, oldMember, _, _, unchanged | fresh⟩ := rows row member
    · rw [unchanged] at revoked ⊢
      exact owned.revoked old oldMember revoked
    · exact fresh

/-- A step that leaves table and cache alone. -/
private theorem of_still (owned : KeysOwned hashKey world)
    (running : world.calls.frameAt ticket = some (.key frame))
    (calls : next.calls = world.calls.advance ticket status)
    (issued : next.issued = world.issued)
    (rows : next.store.pool.apiKeys = world.store.pool.apiKeys)
    (keys : next.store.keys = world.store.keys)
    (holds : ∀ later, status = .running (.key later) → ∀ hash id, (hash, id) ∈ later.holds →
      world.Issued hashKey hash id)
    (loads : ∀ hash record, status = .running (.key (.authStore hash record)) →
      record.keyHash = hash ∧ record.revokedAt = none) : KeysOwned hashKey next := by
  apply owned.of_step running calls issued _ _ _ holds loads
  · intro row member
    rw [rows] at member
    exact ⟨row, member, rfl, rfl, Or.inl rfl⟩
  · rw [Database.keyIds, rows, Database.keyIds]
  · intro hash record found
    rw [keys] at found
    exact owned.cached found

/-- A step that generates a raw key for an id and stores its hash in a row. -/
private theorem of_issue {id rawKey : String} (owned : KeysOwned hashKey world)
    (running : world.calls.frameAt ticket = some (.key frame))
    (calls : next.calls = world.calls.advance ticket status)
    (issued : next.issued = world.issued ++ [(id, rawKey)])
    (fresh : rawKey ∉ world.issued.map Prod.snd)
    (keys : next.store.keys = world.store.keys)
    (known : id ∈ next.store.pool.keyIds)
    (ids : ∀ other ∈ world.store.pool.keyIds, other ∈ next.store.pool.keyIds)
    (rows : ∀ row ∈ next.store.pool.apiKeys,
      (world.Issued hashKey row.keyHash row.id ∨
        (row.keyHash = hashKey rawKey ∧ row.id = id)) ∧
      (row.revokedAt.isSome = true → (readNullable row.revokedAt).isSome = true))
    (holds : ∀ later, status = .running (.key later) → ∀ hash other, (hash, other) ∈ later.holds →
      world.Issued hashKey hash other ∨ (hash = hashKey rawKey ∧ other = id))
    (loads : ∀ hash record, status ≠ .running (.key (.authStore hash record))) :
    KeysOwned hashKey next := by
  have old : ∀ {hash other}, world.Issued hashKey hash other → next.Issued hashKey hash other :=
    grows issued
  have new : next.Issued hashKey (hashKey rawKey) id := by
    refine ⟨rawKey, ?_, rfl⟩
    rw [issued]
    exact List.mem_append_right _ (List.mem_singleton.mpr rfl)
  have either : ∀ {hash other}, (world.Issued hashKey hash other ∨
      (hash = hashKey rawKey ∧ other = id)) → next.Issued hashKey hash other := by
    intro hash other cases
    rcases cases with before | ⟨sameHash, sameId⟩
    · exact old before
    · rw [sameHash, sameId]
      exact new
  constructor
  · rw [issued]
    exact nodup_map_append_singleton owned.raws fresh
  · intro other otherRaw member
    rw [issued, List.mem_append, List.mem_singleton] at member
    rcases member with before | same
    · exact ids other (owned.known before)
    · cases same
      exact known
  · intro row member
    exact either (rows row member).1
  · intro hash record found
    rw [keys] at found
    obtain ⟨filed, before⟩ := owned.cached found
    exact ⟨filed, old before⟩
  · intro other later hash name seen member
    rcases World.keyAt_cases running calls seen with ⟨_, goes⟩ | ⟨_, before⟩
    · exact either (holds later goes hash name member)
    · exact old (owned.held before member)
  · intro other hash record seen
    rcases World.keyAt_cases running calls seen with ⟨_, goes⟩ | ⟨_, before⟩
    · exact absurd goes (loads hash record)
    · exact owned.loaded before
  · intro row member
    exact (rows row member).2

private theorem createInsert {input : Input} {tenantId : Option String} {label : String}
    {role : Role} {expiresAt : Option UInt64} {caller : Caller} {pool : Database}
    (owned : KeysOwned hashKey world) (fresh : world.RawKeyFresh input)
    (running : world.calls.frameAt ticket =
      some (.key (.createInsert tenantId label role expiresAt caller)))
    (inserted : world.store.pool.insertApiKey
      (newApiKeyRow (newApiKey hashKey input tenantId label role expiresAt).record) = some pool)
    (store : next.store = { world.store with pool })
    (calls : next.calls = world.calls.advance ticket
      (.running (.key
        (.createCache (newApiKey hashKey input tenantId label role expiresAt) caller))))
    (issued : next.issued = world.issued ++ [(input.newId.text, input.rawKey)]) :
    KeysOwned hashKey next := by
  obtain ⟨_, rows, _⟩ := Database.insertApiKey_eq_some inserted
  have ids : next.store.pool.keyIds = world.store.pool.keyIds ++ [input.newId.text] := by
    rw [store, Database.keyIds, rows, List.map_append]
    rfl
  apply owned.of_issue running calls issued fresh
  · rw [store]
  · rw [ids]
    exact List.mem_append_right _ (List.mem_singleton.mpr rfl)
  · intro other member
    rw [ids]
    exact List.mem_append_left _ member
  · intro row member
    rw [store, rows, List.mem_append, List.mem_singleton] at member
    rcases member with old | new
    · exact ⟨Or.inl (owned.rows row old), owned.revoked row old⟩
    · cases new
      exact ⟨Or.inr ⟨rfl, rfl⟩, fun revoked => by cases revoked⟩
  · intro later goes hash other member
    cases goes
    cases List.mem_singleton.mp member
    exact Or.inr ⟨rfl, rfl⟩
  · intro hash record goes
    cases goes

private theorem rotateUpdate {input : Input} {oldHash id : String} {caller : Caller}
    {pool : Database} (owned : KeysOwned hashKey world) (fresh : world.RawKeyFresh input)
    (running : world.calls.frameAt ticket = some (.key (.rotateUpdate oldHash id caller)))
    (updated : world.store.pool.updateKeyHash id (hashKey input.rawKey) = some pool)
    (store : next.store = { world.store with pool })
    (calls : next.calls = world.calls.advance ticket
      (.running (.key
        (.rotateRekey oldHash (hashKey input.rawKey) input.rawKey id caller))))
    (issued : next.issued = world.issued ++ [(id, input.rawKey)]) : KeysOwned hashKey next := by
  obtain ⟨_, rows, _⟩ := Database.updateKeyHash_eq_some updated
  have mine : world.Issued hashKey oldHash id :=
    owned.held (World.keyAt_of_frameAt running) (List.mem_singleton.mpr rfl)
  have ids : next.store.pool.keyIds = world.store.pool.keyIds := by
    rw [store, Database.keyIds, rows, Database.keyIds]
    apply map_key_map
    intro row
    split <;> rfl
  apply owned.of_issue running calls issued fresh
  · rw [store]
  · rw [ids]
    exact owned.known_of_issued mine
  · intro other member
    rwa [ids]
  · intro row member
    rw [store, rows] at member
    obtain ⟨old, oldMember, rfl⟩ := List.mem_map.mp member
    by_cases selected : old.id = id
    · simp only [selected, if_true]
      exact ⟨Or.inr ⟨trivial, trivial⟩, owned.revoked old oldMember⟩
    · simp only [selected, if_false]
      exact ⟨Or.inl (owned.rows old oldMember), owned.revoked old oldMember⟩
  · intro later goes hash other member
    cases goes
    simp only [KeyFrame.holds, List.mem_cons, Prod.mk.injEq, List.not_mem_nil, or_false] at member
    rcases member with ⟨rfl, rfl⟩ | ⟨rfl, rfl⟩
    · exact Or.inl mine
    · exact Or.inr ⟨rfl, rfl⟩
  · intro hash record goes
    cases goes

end Acting

section Frames

variable {ticket : ℕ} {frame : KeyFrame} {input : Input} {outcome : Outcome}

/-- A key cache in which every record is filed under its hash, a hash of its id. -/
private def Owns (hashKey : String → String) (world : World) (keys : Dict String KeyRecord) :
    Prop :=
  ∀ hash record, keys.lookup hash = some record →
    record.keyHash = hash ∧ world.Issued hashKey hash record.id

private theorem owns (owned : KeysOwned hashKey world) : Owns hashKey world world.store.keys :=
  fun _ _ found => owned.cached found

private theorem Owns.grows {keys : Dict String KeyRecord} {extra : List (String × String)}
    (owns : Owns hashKey world keys) (issued : next.issued = world.issued ++ extra) :
    Owns hashKey next keys := by
  intro hash record found
  obtain ⟨filed, before⟩ := owns hash record found
  exact ⟨filed, KeysOwned.grows issued before⟩

private theorem Owns.insert {keys : Dict String KeyRecord} (owns : Owns hashKey world keys)
    {hash : String} {record : KeyRecord} (filed : record.keyHash = hash)
    (issued : world.Issued hashKey hash record.id) :
    Owns hashKey world (AList.insert hash record keys) := by
  intro other stored found
  rw [Dict.lookup_insert_ite] at found
  split at found
  · rename_i same
    cases found
    rw [same]
    exact ⟨filed, issued⟩
  · exact owns other stored found

private theorem Owns.erase {keys : Dict String KeyRecord} (owns : Owns hashKey world keys)
    (key : String) : Owns hashKey world (keys.erase key) := by
  intro hash record found
  exact owns hash record (Dict.lookup_of_erase found).2

private theorem Owns.retain {keys : Dict String KeyRecord} (owns : Owns hashKey world keys)
    (keep : String → KeyRecord → Bool) : Owns hashKey world (keys.retain keep) := by
  intro hash record found
  exact owns hash record (Dict.lookup_of_retain found).1

private theorem Owns.modify {keys : Dict String KeyRecord} (owns : Owns hashKey world keys)
    (key : String) (change : KeyRecord → KeyRecord)
    (sameId : ∀ record, (change record).id = record.id)
    (sameHash : ∀ record, (change record).keyHash = record.keyHash) :
    Owns hashKey world (keys.modify key change) := by
  intro hash record found
  rw [Dict.lookup_modify] at found
  split at found
  · obtain ⟨old, stored, rfl⟩ := Option.map_eq_some_iff.mp found
    rename_i same
    rw [sameId, sameHash, same]
    exact owns key old stored
  · exact owns hash record found

/-- The call returns and leaves table and cache alone. -/
private theorem returns (owned : KeysOwned hashKey world)
    (running : world.calls.frameAt ticket = some (.key frame)) {result : Result}
    (rows : outcome.store.pool.apiKeys = world.store.pool.apiKeys)
    (keys : outcome.store.keys = world.store.keys) (returned : outcome.next = .returned result)
    (issued : outcome.issued = []) : KeysOwned hashKey (world.acted ticket outcome) := by
  apply owned.of_still running rfl
  · rw [World.acted, issued, List.append_nil]
  · exact rows
  · exact keys
  · intro later goes
    rw [returned] at goes
    cases goes
  · intro hash record goes
    rw [returned] at goes
    cases goes

/-- The call goes on and leaves table and cache alone. -/
private theorem goes (owned : KeysOwned hashKey world)
    (running : world.calls.frameAt ticket = some (.key frame)) {later : KeyFrame}
    (holds : ∀ hash id, (hash, id) ∈ later.holds → world.Issued hashKey hash id)
    (loads : ∀ hash record, later = .authStore hash record →
      record.keyHash = hash ∧ record.revokedAt = none) :
    KeysOwned hashKey (world.acted ticket (.goto world.store (.key later))) := by
  refine owned.of_still running rfl (List.append_nil _) rfl rfl ?_ ?_
  · intro frame same
    cases same
    exact holds
  · intro hash record same
    cases same
    exact loads hash record rfl

/-- The call goes on with the hash and the id of an entry of the cache. -/
private theorem remembers (owned : KeysOwned hashKey world)
    (running : world.calls.frameAt ticket = some (.key frame)) {later : KeyFrame}
    {hash id : String} {record : KeyRecord}
    (stored : world.store.keys.lookup hash = some record) (sameId : record.id = id)
    (holds : later.holds = [(record.keyHash, id)])
    (loads : ∀ hash record, later ≠ .authStore hash record) :
    KeysOwned hashKey (world.acted ticket (.goto world.store (.key later))) := by
  obtain ⟨filed, issued⟩ := owned.cached stored
  apply owned.goes running
  · intro other name member
    rw [holds] at member
    cases List.mem_singleton.mp member
    rw [filed, ← sameId]
    exact issued
  · intro other loaded same
    exact absurd same (loads other loaded)

/-- The call returns after a write of the cache. -/
private theorem caches (owned : KeysOwned hashKey world)
    (running : world.calls.frameAt ticket = some (.key frame)) {result : Result}
    {keys : Dict String KeyRecord} (store : outcome.store = { world.store with keys })
    (returned : outcome.next = .returned result) (issued : outcome.issued = [])
    (owns : Owns hashKey world keys) : KeysOwned hashKey (world.acted ticket outcome) := by
  apply owned.of_step running rfl
  · rw [World.acted, issued, List.append_nil]
  · intro row member
    rw [World.acted, store] at member
    exact ⟨row, member, rfl, rfl, Or.inl rfl⟩
  · rw [World.acted, store]
  · rw [World.acted, store]
    exact owns
  · intro later goes
    rw [returned] at goes
    cases goes
  · intro hash record goes
    rw [returned] at goes
    cases goes

/-- A call that finds the lock poisoned panics, and that is all it does. -/
private theorem withKeys (owned : KeysOwned hashKey world)
    (running : world.calls.frameAt ticket = some (.key frame))
    (healthy : KeysOwned hashKey (world.acted ticket outcome)) :
    KeysOwned hashKey (world.acted ticket (KeyFrame.withKeys world.store outcome)) := by
  unfold KeyFrame.withKeys
  split
  · exact owned.returns running rfl rfl rfl rfl
  · exact healthy

private theorem revokeUpdate {id keyHash : String} {revokedAt : Clock}
    (owned : KeysOwned hashKey world)
    (running : world.calls.frameAt ticket = some (.key (.revokeUpdate id keyHash))) :
    KeysOwned hashKey (world.acted ticket
      (.goto
        { world.store with
          pool := world.store.pool.updateRevokedAt id revokedAt.seconds.toInt64 }
        (.key (.revokeMark id keyHash revokedAt)))) := by
  refine owned.of_step running rfl (List.append_nil _) ?_ ?_ ?_ ?_ ?_
  · intro row member
    obtain ⟨old, oldMember, rfl⟩ := List.mem_map.mp member
    refine ⟨old, oldMember, ?_⟩
    by_cases selected : old.id = id
    · simp only [selected, if_true]
      refine ⟨trivial, trivial, ?_⟩
      cases before : old.revokedAt with
      | none => exact Or.inr (by simp)
      | some stamp => exact Or.inl rfl
    · simp only [selected, if_false]
      exact ⟨trivial, trivial, Or.inl trivial⟩
  · apply map_key_map
    intro row
    split <;> rfl
  · exact owned.owns
  · intro later goes other name member
    cases goes
    exact owned.held (World.keyAt_of_frameAt running) member
  · intro other loaded goes
    cases goes

private theorem rotateRekey {oldHash newHash rawKey id : String} {caller : Caller}
    {old : KeyRecord} {result : Result} (owned : KeysOwned hashKey world)
    (injective : Function.Injective hashKey)
    (running : world.calls.frameAt ticket =
      some (.key (.rotateRekey oldHash newHash rawKey id caller)))
    (stored : world.store.keys.lookup oldHash = some old) :
    KeysOwned hashKey (world.acted ticket
      (.finish
        { world.store with
          keys := AList.insert newHash (old.rekey newHash) (world.store.keys.erase oldHash) }
        result)) := by
  have mine := World.keyAt_of_frameAt running
  have sameId : old.id = id :=
    owned.unique injective (owned.cached stored).2 (owned.held mine (List.mem_cons_self ..))
  have reissued : world.Issued hashKey newHash (old.rekey newHash).id := by
    rw [KeyRecord.rekey, sameId]
    exact owned.held mine (List.mem_cons_of_mem _ (List.mem_singleton.mpr rfl))
  exact owned.caches running rfl rfl rfl ((owned.owns.erase oldHash).insert rfl reissued)

private theorem authLoad {hash : String} {now : Clock} {row : ApiKeyRow}
    (owned : KeysOwned hashKey world)
    (running : world.calls.frameAt ticket = some (.key (.authLoad hash now)))
    (selected : world.store.pool.selectApiKey hash = some row)
    (active : (keyRecordFromRow row).isActive now.seconds = true) :
    KeysOwned hashKey (world.acted ticket
      (.goto world.store (.key (.authStore hash (keyRecordFromRow row))))) := by
  obtain ⟨member, filed⟩ := findBy_mem selected
  apply owned.goes running
  · intro other id held
    cases List.mem_singleton.mp held
    rw [← filed]
    exact owned.rows row member
  · intro other loaded same
    cases same
    exact ⟨filed, (((keyRecordFromRow row).isActive_iff now.seconds).mp active).1⟩

theorem of_act (owned : KeysOwned hashKey world) (injective : Function.Injective hashKey)
    (fresh : world.RawKeyFresh input)
    (running : world.calls.frameAt ticket = some (.key frame))
    (result : next = world.acted ticket (frame.exec hashKey input world.store)) :
    KeysOwned hashKey next := by
  subst next
  have mine := World.keyAt_of_frameAt running
  cases frame with
  | createInsert tenantId label role expiresAt caller =>
      simp only [KeyFrame.exec]
      split
      · exact owned.returns running rfl rfl rfl rfl
      · rename_i pool executed
        exact owned.createInsert fresh running (Input.execute_eq_some.mp executed).2 rfl rfl rfl
  | createCache created caller =>
      apply owned.withKeys running
      apply owned.caches running rfl rfl rfl
      exact owned.owns.insert rfl (owned.held mine (List.mem_singleton.mpr rfl))
  | revokeFind tenantId id =>
      apply owned.withKeys running
      split
      · rename_i hash record found
        obtain ⟨stored, accepted⟩ := Dict.findEntry_eq_some found
        obtain ⟨sameId, _⟩ := ownedBy_iff.mp accepted
        exact owned.remembers running stored sameId rfl (fun _ _ same => by cases same)
      · exact owned.returns running rfl rfl rfl rfl
  | revokeUpdate id keyHash =>
      simp only [KeyFrame.exec]
      split
      · exact owned.returns running rfl rfl rfl rfl
      · rename_i pool executed
        cases (Input.execute_eq_some.mp executed).2
        exact owned.revokeUpdate running
  | revokeMark id keyHash revokedAt =>
      apply owned.withKeys running
      apply owned.caches running rfl rfl rfl
      exact owned.owns.modify keyHash _ (fun _ => rfl) (fun _ => rfl)
  | rotateFind tenantId id =>
      apply owned.withKeys running
      split
      · rename_i hash record found
        obtain ⟨stored, accepted⟩ := Dict.findEntry_eq_some found
        obtain ⟨sameId, _⟩ := ownedBy_iff.mp accepted
        exact owned.remembers running stored sameId rfl (fun _ _ same => by cases same)
      · exact owned.returns running rfl rfl rfl rfl
  | rotateUpdate oldHash id caller =>
      simp only [KeyFrame.exec]
      split
      · exact owned.returns running rfl rfl rfl rfl
      · rename_i pool executed
        exact owned.rotateUpdate fresh running (Input.execute_eq_some.mp executed).2 rfl rfl rfl
  | rotateRekey oldHash newHash rawKey id caller =>
      apply owned.withKeys running
      split
      · exact owned.returns running rfl rfl rfl rfl
      · rename_i old stored
        exact owned.rotateRekey injective running stored
  | resetFind =>
      apply owned.withKeys running
      split
      · apply owned.goes running
        · intro hash id member
          cases member
        · intro hash record same
          cases same
      · rename_i record only
        have chosen : record ∈ [record] := List.mem_singleton.mpr rfl
        rw [← only] at chosen
        obtain ⟨hash, stored⟩ := Dict.mem_values_iff.mp (List.mem_of_mem_filter chosen)
        exact owned.remembers running stored rfl rfl (fun _ _ same => by cases same)
      · exact owned.returns running rfl rfl rfl rfl
  | authLookup rawKey =>
      apply owned.withKeys running
      split
      · exact owned.returns running rfl rfl rfl rfl
      · apply owned.goes running
        · intro hash id member
          cases member
        · intro hash record same
          cases same
  | authLoad hash now =>
      simp only [KeyFrame.exec]
      split
      · exact owned.returns running rfl rfl rfl rfl
      · rename_i row executed
        split
        · rename_i active
          exact owned.authLoad running (Input.execute_eq_some.mp executed).2 active
        · exact owned.returns running rfl rfl rfl rfl
  | authStore hash record =>
      have issued := owned.held mine (List.mem_singleton.mpr rfl)
      apply owned.withKeys running
      apply owned.caches running rfl rfl rfl
      exact (owned.owns.retain _).insert (owned.loaded mine).1 issued
  | touchFind id =>
      apply owned.withKeys running
      split
      · rename_i hash record found
        obtain ⟨stored, accepted⟩ := Dict.findEntry_eq_some found
        have sameId : record.id = id := by simpa using accepted
        exact owned.remembers running stored sameId rfl (fun _ _ same => by cases same)
      · exact owned.returns running rfl rfl rfl rfl
  | touchMark id keyHash nowTs =>
      apply owned.withKeys running
      apply owned.caches running rfl rfl rfl
      exact owned.owns.modify keyHash _ (fun _ => rfl) (fun _ => rfl)

end Frames

private theorem of_undisturbed (owned : KeysOwned hashKey world)
    (calls : Calls.Undisturbed Frame.key? KeyFrame.IsEntry world.calls next.calls)
    (issued : next.issued = world.issued)
    (keys : next.store.keys = world.store.keys)
    (rows : ∀ row ∈ next.store.pool.apiKeys, ∃ old ∈ world.store.pool.apiKeys,
      row.id = old.id ∧ row.keyHash = old.keyHash ∧ row.revokedAt = old.revokedAt)
    (ids : next.store.pool.keyIds = world.store.pool.keyIds) : KeysOwned hashKey next := by
  have same : ∀ {hash id}, world.Issued hashKey hash id → next.Issued hashKey hash id := by
    intro hash id before
    unfold World.Issued
    rw [issued]
    exact before
  constructor
  · rw [issued]
    exact owned.raws
  · intro id rawKey member
    rw [issued] at member
    rw [ids]
    exact owned.known member
  · intro row member
    obtain ⟨old, oldMember, sameId, sameHash, _⟩ := rows row member
    rw [sameId, sameHash]
    exact same (owned.rows old oldMember)
  · intro hash record found
    rw [keys] at found
    obtain ⟨filed, before⟩ := owned.cached found
    exact ⟨filed, same before⟩
  · intro ticket frame hash id seen member
    rcases calls.begun seen with before | entry
    · exact same (owned.held before member)
    · cases frame <;> first | exact entry.elim | cases member
  · intro ticket hash record seen
    rcases calls.begun seen with before | entry
    · exact owned.loaded before
    · exact entry.elim
  · intro row member revoked
    obtain ⟨old, oldMember, _, _, sameRevoked⟩ := rows row member
    rw [sameRevoked] at revoked ⊢
    exact owned.revoked old oldMember revoked

private theorem reloaded (owned : KeysOwned hashKey world) :
    Owns hashKey world (Store.reload world.store.pool).keys := by
  intro hash record found
  rw [Store.reload_keys_lookup] at found
  obtain ⟨row, selected, rfl⟩ := Option.map_eq_some_iff.mp found
  obtain ⟨member, filed⟩ := findBy_mem selected
  exact ⟨filed, filed ▸ owned.rows row member⟩

/-- Nothing but the rows survives the process. -/
theorem of_reload (owned : KeysOwned hashKey world)
    (store : next.store = Store.reload world.store.pool)
    (nobody : ∀ ticket, next.keyAt ticket = none) (issued : next.issued = world.issued) :
    KeysOwned hashKey next := by
  have same : ∀ {hash id}, world.Issued hashKey hash id → next.Issued hashKey hash id :=
    grows (issued.trans (List.append_nil _).symm)
  refine ⟨?_, ?_, ?_, ?_, ?_, ?_, ?_⟩
  · rw [issued]
    exact owned.raws
  · intro id rawKey member
    rw [issued] at member
    rw [store]
    exact owned.known member
  · intro row member
    rw [store] at member
    exact same (owned.rows row member)
  · intro hash record found
    rw [store] at found
    obtain ⟨filed, mine⟩ := owned.reloaded hash record found
    exact ⟨filed, same mine⟩
  · intro ticket frame hash id seen
    rw [nobody] at seen
    cases seen
  · intro ticket hash record seen
    rw [nobody] at seen
    cases seen
  · intro row member
    rw [store] at member
    exact owned.revoked row member

private theorem of_restart {now : Clock} {input : Input} {opened : Opened}
    (owned : KeysOwned hashKey world) (fresh : world.RawKeyFresh input)
    (success : Store.open hashKey now input world.store.pool = some opened)
    (store : next.store = opened.store)
    (calls : next.calls = world.calls.dropRunning)
    (issued : next.issued = world.issued ++ opened.issued) : KeysOwned hashKey next := by
  have nobody : ∀ ticket, next.keyAt ticket = none := by
    intro ticket
    simp [World.keyAt, Calls.viewAt, calls, Calls.frameAt_dropRunning]
  have old : ∀ {hash id}, world.Issued hashKey hash id → next.Issued hashKey hash id :=
    grows issued
  have reloaded : Owns hashKey next (Store.reload world.store.pool).keys :=
    owned.reloaded.grows issued
  have held : ∀ {ticket frame hash id}, next.keyAt ticket = some frame →
      (hash, id) ∈ frame.holds → next.Issued hashKey hash id := by
    intro ticket frame hash id seen
    rw [nobody] at seen
    cases seen
  have loaded : ∀ {ticket hash record}, next.keyAt ticket = some (.authStore hash record) →
      record.keyHash = hash ∧ record.revokedAt = none := by
    intro ticket hash record seen
    rw [nobody] at seen
    cases seen
  rcases Store.open_cases success with rfl | ⟨pool, inserted, rfl⟩
  · exact owned.of_reload store nobody (issued.trans (List.append_nil _))
  · obtain ⟨_, rows, _⟩ := Database.insertApiKey_eq_some inserted
    have added : next.issued = world.issued ++ [(input.newId.text, input.rawKey)] := issued
    have new : next.Issued hashKey (hashKey input.rawKey) input.newId.text := by
      refine ⟨input.rawKey, ?_, rfl⟩
      rw [added]
      exact List.mem_append_right _ (List.mem_singleton.mpr rfl)
    have filed : (newApiKey hashKey input none "bootstrap" .platform none).record.keyHash =
        hashKey input.rawKey := rfl
    have ids : next.store.pool.keyIds = world.store.pool.keyIds ++ [input.newId.text] := by
      rw [store, Database.keyIds, rows, List.map_append]
      rfl
    refine ⟨?_, ?_, ?_, ?_, held, loaded, ?_⟩
    · rw [added]
      exact nodup_map_append_singleton owned.raws fresh
    · intro id rawKey member
      rw [added, List.mem_append, List.mem_singleton] at member
      rw [ids]
      rcases member with before | same
      · exact List.mem_append_left _ (owned.known before)
      · cases same
        exact List.mem_append_right _ (List.mem_singleton.mpr rfl)
    · intro row member
      rw [store, rows, List.mem_append, List.mem_singleton] at member
      rcases member with before | same
      · exact old (owned.rows row before)
      · cases same
        exact new
    · intro hash record found
      rw [store] at found
      exact reloaded.insert filed new hash record found
    · intro row member revoked
      rw [store, rows, List.mem_append, List.mem_singleton] at member
      rcases member with before | same
      · exact owned.revoked row before revoked
      · cases same
        cases revoked

theorem step {event : Event} (owned : KeysOwned hashKey world)
    (injective : Function.Injective hashKey) (taken : world.step hashKey event = some next) :
    KeysOwned hashKey next := by
  rcases World.key_cases taken with ⟨same, calls, issued, _⟩ |
    ⟨ticket, input, frame, rfl, fresh, running, result⟩ |
    ⟨id, nowTs, _, pool, keys, _, calls, issued, _⟩ |
    ⟨now, input, opened, rfl, fresh, success, rfl⟩
  · refine owned.of_undisturbed calls issued same.keys ?_ ?_
    · intro row member
      rw [same.apiKeys] at member
      exact ⟨row, member, rfl, rfl, rfl⟩
    · rw [Database.keyIds, same.apiKeys, Database.keyIds]
  · exact owned.of_act injective fresh running result
  · refine owned.of_undisturbed ?_ issued keys ?_ ?_
    · rw [calls]
      exact .refl _
    · intro row member
      rw [pool] at member
      obtain ⟨old, oldMember, rfl⟩ := List.mem_map.mp member
      refine ⟨old, oldMember, ?_⟩
      split <;> exact ⟨rfl, rfl, rfl⟩
    · rw [pool]
      apply map_key_map
      intro row
      split <;> rfl
  · exact owned.of_restart fresh success rfl rfl rfl

end KeysOwned

theorem World.blank_keysOwned (hashKey : String → String) : KeysOwned hashKey World.blank := by
  constructor
  · exact List.nodup_nil
  · intro id rawKey member
    cases member
  · intro row member
    cases member
  · intro hash record found
    cases found
  · intro ticket frame hash id seen
    cases seen
  · intro ticket hash record seen
    cases seen
  · intro row member
    cases member

theorem World.reachable_keysOwned {hashKey : String → String} {world : World}
    (injective : Function.Injective hashKey) (reached : Reachable hashKey world) :
    KeysOwned hashKey world := by
  obtain ⟨events, run⟩ := reached
  exact run.invariant (fun _ _ _ owned _ taken => owned.step injective taken)
    (blank_keysOwned hashKey)

end SpellServer
