import SpellServer.Store.Coherence
import SpellServer.Store.TenantAnswers

/-!
# Isolation of tenants

The two halves of isolation on every store of a run, and exactly where each one
fails.  An operation for one tenant leaves everything of another one as it was,
unless it lists an origin that the union set has lost.  Its answer is a matter
of the tenant's own data, unless the key lock is poisoned on one side only or a
hash map holds several entries for the key it rotates.
-/

namespace SpellServer

open Library

section

variable [Driver]

theorem Store.runAlone_eq_solo (hashKey : String → String) (store : Store) (inputs : List Input)
    (frame : Frame) :
    store.runAlone hashKey inputs frame = solo (Frame.settled hashKey false) inputs store frame := by
  induction inputs generalizing store frame with
  | nil => rfl
  | cons input inputs induction =>
      have settled : frame.settled hashKey false input store =
          ((frame.exec hashKey input store).store, (frame.exec hashKey input store).next) := rfl
      cases moves : (frame.exec hashKey input store).next with
      | returned result =>
          rw [moves] at settled
          rw [solo_returned settled]
          simp only [Store.runAlone, moves]
      | running later =>
          rw [moves] at settled
          rw [solo_running settled, ← induction]
          simp only [Store.runAlone, moves]

/-! ## Authentication of a raw key -/

/-- All that `authenticate` reads of a store. -/
structure Store.SameUnder (hash : String) (store other : Store) : Prop where
  poisoned : other.keysPoisoned = store.keysPoisoned
  cached : other.keys.lookup hash = store.keys.lookup hash
  selected : other.pool.selectApiKey hash = store.pool.selectApiKey hash

/-- Two calls of `authenticate` at the same action. -/
inductive Frame.Authenticating (hashKey : String → String) (hash : String) :
    Store → Frame → Store → Frame → Prop where
  | looking {store other : Store} {rawKey : String} (hashed : hashKey rawKey = hash)
      (same : store.SameUnder hash other) :
      Authenticating hashKey hash store (.key (.authLookup rawKey)) other
        (.key (.authLookup rawKey))
  | loading {store other : Store} (now : Clock) (same : store.SameUnder hash other) :
      Authenticating hashKey hash store (.key (.authLoad hash now)) other
        (.key (.authLoad hash now))
  | storing {store other : Store} (record : KeyRecord) (same : store.SameUnder hash other) :
      Authenticating hashKey hash store (.key (.authStore hash record)) other
        (.key (.authStore hash record))

namespace Frame.Authenticating

variable {hashKey : String → String} {hash : String} {store other : Store} {frame frame' : Frame}

theorem step (paired : Authenticating hashKey hash store frame other frame') (input : Input) :
    Status.Related
      (fun later later' =>
        Authenticating hashKey hash (frame.settled hashKey false input store).1 later
          (frame'.settled hashKey false input other).1 later')
      Eq (frame.settled hashKey false input store).2
        (frame'.settled hashKey false input other).2 := by
  cases paired with
  | looking hashed same =>
      subst hash
      simp only [Frame.settled, Frame.exec, KeyFrame.exec, KeyFrame.withKeys, same.poisoned,
        same.cached]
      split
      · exact .returned rfl
      · split
        · exact .returned rfl
        · exact .running (.loading input.now same)
  | loading now same =>
      simp only [Frame.settled, Frame.exec, KeyFrame.exec, same.selected]
      split
      · exact .returned rfl
      · split
        · exact .running (.storing _ same)
        · exact .returned rfl
  | storing record same =>
      simp only [Frame.settled, Frame.exec, KeyFrame.exec, KeyFrame.withKeys, same.poisoned]
      split <;> exact .returned rfl

end Frame.Authenticating

omit [Driver] in
private theorem results_eq {left right : Option (Store × Result)}
    (related : Option.Rel (fun first second => first.2 = second.2) left right) :
    right.map Prod.snd = left.map Prod.snd := by
  cases related with
  | none => rfl
  | some same => exact congrArg some same.symm

theorem authenticate_congr {hashKey : String → String} {rawKey : String} {store other : Store}
    (same : store.SameUnder (hashKey rawKey) other) (inputs : List Input) :
    (other.runAlone hashKey inputs (Op.authenticate rawKey).entry).map Prod.snd =
      (store.runAlone hashKey inputs (Op.authenticate rawKey).entry).map Prod.snd := by
  have acts : ∀ (input : Input) (left : Store) (frame : Frame) (input' : Input) (right : Store)
      (frame' : Frame), input = input' →
      Frame.Authenticating hashKey (hashKey rawKey) left frame right frame' →
      Status.Related
        (fun later later' =>
          Frame.Authenticating hashKey (hashKey rawKey)
            (frame.settled hashKey false input left).1 later
            (frame'.settled hashKey false input' right).1 later')
        Eq (frame.settled hashKey false input left).2
          (frame'.settled hashKey false input' right).2 := by
    intro input left frame input' right frame' sameInput paired
    subst input'
    exact paired.step input
  have related := solo_unwinding (Frame.Authenticating hashKey (hashKey rawKey)) Eq acts
    (List.forall₂_refl inputs) (.looking rfl same)
  rw [Store.runAlone_eq_solo, Store.runAlone_eq_solo]
  exact results_eq related

/-! ## Other tenants -/

namespace World

variable {hashKey : String → String} {world : World}

/-- The hashes of a tenant's raw keys. -/
def RawKeyHash (hashKey : String → String) (world : World) (tenantId hash : String) : Prop :=
  ∃ rawKey, world.IsRawKeyOf tenantId rawKey ∧ hashKey rawKey = hash

/-- An issued hash belongs to the tenant of its key. -/
theorem rawKeyHash_iff (owned : KeysOwned hashKey world) (injective : Function.Injective hashKey)
    {hash id tenantId : String} {owner : Option String} (issued : world.Issued hashKey hash id)
    (placed : world.store.pool.Places id owner) :
    world.RawKeyHash hashKey tenantId hash ↔ owner = some tenantId := by
  constructor
  · intro hashed
    obtain ⟨rawKey, ⟨other, otherIssued, otherPlaced⟩, same⟩ := hashed
    obtain rfl : id = other := owned.unique injective issued ⟨rawKey, otherIssued, same⟩
    exact placed.unique otherPlaced
  · intro same
    obtain ⟨rawKey, member, hashed⟩ := issued
    subst owner
    exact ⟨rawKey, ⟨id, member, placed⟩, hashed⟩

theorem guards (owned : KeysOwned hashKey world) (injective : Function.Injective hashKey)
    (placed : world.store.KeysPlaced) (tenantId : String) :
    world.store.Guards (world.RawKeyHash hashKey tenantId) tenantId := by
  constructor
  · intro hash record stored
    exact (rawKeyHash_iff owned injective (owned.cached stored).2 (placed hash record stored)).symm
  · intro row member
    exact (rawKeyHash_iff owned injective (owned.rows row member) ⟨row, member, rfl, rfl⟩).symm

theorem RawKeyFresh.not_rawKeyHash (injective : Function.Injective hashKey) {input : Input}
    (fresh : world.RawKeyFresh input) (tenantId : String) :
    ¬world.RawKeyHash hashKey tenantId (hashKey input.rawKey) := by
  intro hashed
  obtain ⟨rawKey, ⟨id, member, _⟩, same⟩ := hashed
  exact fresh.unissued injective id ⟨rawKey, member, same⟩

/-- The view of the tenant, put together from what an operation leaves alone. -/
theorem unchangedFor {tenantId : String} {after : Store}
    (leaves : world.store.LeavesAlone (world.RawKeyHash hashKey tenantId) tenantId after) :
    world.UnchangedFor hashKey tenantId after := by
  refine ⟨?_, ?_, leaves.owns, ?_⟩
  · exact
      { cachedKeys := fun hash record owner => leaves.cached hash record (Or.inl owner)
        keyRows := fun row owner => leaves.rows row (Or.inl owner)
        cachedOrigins := leaves.origins
        originRows := leaves.originRows
        cachedTenant := leaves.tenant
        tenantRows := leaves.tenantRows }
  · intro rawKey theirs
    have hashed : world.RawKeyHash hashKey tenantId (hashKey rawKey) := ⟨rawKey, theirs, rfl⟩
    apply authenticate_congr
    refine ⟨leaves.poisoned, ?_, ?_⟩
    · apply Option.ext
      intro record
      exact leaves.cached _ record (Or.inr hashed)
    · apply Option.ext
      intro row
      unfold Database.selectApiKey
      rw [findBy_eq_some_iff after.pool.apiKeys_keyHash_unique,
        findBy_eq_some_iff world.store.pool.apiKeys_keyHash_unique]
      refine and_congr_left fun filed => leaves.rows row (Or.inr ?_)
      rw [filed]
      exact hashed
  · intro origin owner
    exact decide_eq_decide.mpr (leaves.registered origin owner)

end World

/-! ## The frame condition, exactly -/

/-- Three actions that all go through. -/
theorem Store.registerOrigin_lists {hashKey : String → String} {store : Store} {input : Input}
    {tenantId origin : String} (sql : input.sql = true)
    (fresh : input.newId.text ∉ store.pool.tenantOrigins.map OriginRow.id)
    (known : tenantId ∈ store.pool.tenantIds) (free : ¬store.pool.HasOrigin tenantId origin) :
    ∃ after answer,
      store.perform hashKey false [input, input, input] (.registerOrigin tenantId origin) =
        some (after, answer) ∧
      after.isRegisteredOrigin origin = true := by
  obtain ⟨pool, inserted⟩ : ∃ pool,
      store.pool.insertOrigin (newOriginRow (newOrigin input tenantId origin)) = some pool :=
    Database.insertOrigin_accepts fresh free known
  let info := newOrigin input tenantId origin
  let listed : Store := { store with pool, originsAny := insert origin store.originsAny }
  let after : Store :=
    { listed with originsByTenant := insertOriginInfo store.originsByTenant info }
  have inserts : (Frame.origin (.registerInsert tenantId origin)).settled hashKey false input store =
      ({ store with pool }, .running (.origin (.registerAny info))) := by
    simp only [Frame.settled, Frame.exec, OriginFrame.exec, Input.execute_success sql, inserted]
    rfl
  have lists : (Frame.origin (.registerAny info)).settled hashKey false input { store with pool } =
      (listed, .running (.origin (.registerByTenant info))) := rfl
  have files : (Frame.origin (.registerByTenant info)).settled hashKey false input listed =
      (after, .returned (.registeredOrigin info)) := rfl
  refine ⟨after, .result (.registeredOrigin info), ?_, ?_⟩
  · rw [Store.perform, Op.entry, solo_running inserts, solo_running lists, solo_returned files]
    rfl
  · simp [Store.isRegisteredOrigin, after, listed]

namespace TenantOp

variable {hashKey : String → String} {world : World} {tenantId other : String}

theorem spares_of_not_relists (owned : KeysOwned hashKey world)
    (injective : Function.Injective hashKey) (placed : world.store.KeysPlaced)
    (distinct : tenantId ≠ other) (op : TenantOp)
    (listed : ¬op.Relists world.store tenantId other) :
    op.Spares hashKey world tenantId other := by
  intro writes inputs fresh after answer ends
  apply World.unchangedFor
  have guarded := World.guards owned injective placed other
  have unused : ∀ input ∈ inputs, ¬world.RawKeyHash hashKey other (hashKey input.rawKey) :=
    fun input member => (fresh input member).not_rawKeyHash injective other
  have performs : ∀ {op : Op},
      world.store.perform hashKey writes inputs op = some (after, answer) →
      op.entry.Avoids (world.RawKeyHash hashKey other) other world.store →
      world.store.LeavesAlone (world.RawKeyHash hashKey other) other after :=
    fun ran avoids => Store.perform_leavesAlone guarded unused avoids ran
  have filed := World.filed owned placed
  cases op with
  | listKeys | listOrigins =>
      cases ends
      exact .refl world.store
  | createKey label role expiresAt =>
      exact performs ends fun same => distinct (Option.some.inj same)
  | revokeKey id | rotateKey id => exact performs ends ⟨distinct, filed⟩
  | registerOrigin origin => exact performs ends ⟨distinct, listed⟩
  | revokeOrigin id => exact performs ends distinct
  | tryConsumeQuota => exact performs ends distinct

theorem not_relists_of_spares (op : TenantOp) (spares : op.Spares hashKey world tenantId other) :
    ¬op.Relists world.store tenantId other := by
  intro relists
  cases op with
  | registerOrigin origin =>
      obtain ⟨owner, unlisted, known, free⟩ := relists
      obtain ⟨input, sql, fresh⟩ := World.exists_freshInput world world
      have drawn := (fresh input.hint).1
      obtain ⟨after, answer, ends, listed⟩ : ∃ after answer,
          world.store.perform hashKey false [input, input, input]
            (.registerOrigin tenantId origin) = some (after, answer) ∧
          after.isRegisteredOrigin origin = true :=
        Store.registerOrigin_lists sql drawn.originId known free
      have permitted : ∀ used ∈ [input, input, input], world.RawKeyFresh used := by
        intro used member
        simp only [List.mem_cons, List.not_mem_nil, or_false, or_self] at member
        subst used
        exact drawn.rawKey
      have unchanged := spares false [input, input, input] permitted after answer ends
      have same := unchanged.registered origin owner
      rw [listed, unlisted] at same
      cases same
  | _ => exact relists

end TenantOp

/-! ## The answers, exactly -/

section Necessary

variable {hashKey : String → String} {store : Store} {tenantId id : String} {input : Input}

/-- Three actions of a key operation tell whether the lock is poisoned. -/
def Store.ShowsPoison (hashKey : String → String) (store : Store) (input : Input) (op : Op) :
    Prop :=
  ∃ after result,
    store.perform hashKey false [input, input, input] op = some (after, .result result) ∧
      (result.forgetDrawn = .panicked ↔ store.keysPoisoned = true)

theorem Store.perform_returned {writes : Bool} {inputs : List Input} {op : Op} {after : Store}
    {result : Result}
    (ends : solo (Frame.settled hashKey writes) inputs store op.entry = some (after, result)) :
    store.perform hashKey writes inputs op = some (after, .result result) := by
  rw [Store.perform, ends]
  rfl

theorem Store.ShowsPoison.intro {op : Op} {after : Store} {result : Result}
    (ends : solo (Frame.settled hashKey false) [input, input, input] store op.entry =
      some (after, result))
    (shown : result.forgetDrawn = .panicked ↔ store.keysPoisoned = true) :
    store.ShowsPoison hashKey input op :=
  ⟨after, result, Store.perform_returned ends, shown⟩

theorem createKey_showsPoison {label : String} {role : Role} {expiresAt : Option UInt64}
    (sql : input.sql = true) (unused : store.Unused hashKey input)
    (known : tenantId ∈ store.pool.tenantIds) :
    store.ShowsPoison hashKey input (.createKey tenantId label role expiresAt) := by
  let created := newApiKey hashKey input (some tenantId) label role expiresAt
  obtain ⟨pool, inserted⟩ : ∃ pool,
      store.pool.insertApiKey (newApiKeyRow created.record) = some pool :=
    Database.insertApiKey_accepts unused.keyId unused.hash
      fun owner same => Option.some.inj same ▸ known
  have inserts : (Frame.key
      (.createInsert (some tenantId) label role expiresAt .createKey)).settled hashKey false input
        store = ({ store with pool }, .running (.key (.createCache created .createKey))) := by
    simp only [Frame.settled, Frame.exec, KeyFrame.exec, Input.execute_success sql]
    rw [inserted]
    rfl
  cases poisoned : store.keysPoisoned with
  | true =>
      have panics : (Frame.key (.createCache created .createKey)).settled hashKey false input
          { store with pool } = ({ store with pool }, .returned .panicked) := by
        simp only [Frame.settled, Frame.exec, KeyFrame.exec, KeyFrame.withKeys, poisoned]
        rfl
      exact .intro ((solo_running inserts).trans (solo_returned panics))
        (by simp [poisoned, Result.forgetDrawn])
  | false =>
      have files : (Frame.key (.createCache created .createKey)).settled hashKey false input
          { store with pool } =
            ({ store with pool, keys := store.keys.insert created.record.keyHash created.record },
              .returned (.createdKey created)) := by
        simp only [Frame.settled, Frame.exec, KeyFrame.exec, KeyFrame.withKeys, poisoned]
        rfl
      exact .intro ((solo_running inserts).trans (solo_returned files))
        (by simp [poisoned, Result.forgetDrawn])

theorem revokeKey_showsPoison (sql : input.sql = true) :
    store.ShowsPoison hashKey input (.revokeKey tenantId id) := by
  cases poisoned : store.keysPoisoned with
  | true =>
      have panics : (Frame.key (.revokeFind tenantId id)).settled hashKey false input store =
          (store, .returned .panicked) := by
        simp only [Frame.settled, Frame.exec, KeyFrame.exec, KeyFrame.withKeys, poisoned]
        rfl
      exact .intro (solo_returned panics) (by simp [poisoned, Result.forgetDrawn])
  | false =>
      cases found : store.keys.findEntry (ownedBy tenantId id) input.hint with
      | none =>
          have misses : (Frame.key (.revokeFind tenantId id)).settled hashKey false input store =
              (store, .returned (.revokedKey false)) := by
            simp only [Frame.settled, Frame.exec, KeyFrame.exec, KeyFrame.withKeys, poisoned, found]
            rfl
          exact .intro (solo_returned misses) (by simp [poisoned, Result.forgetDrawn])
      | some entry =>
          let pool := store.pool.updateRevokedAt id input.now.seconds.toInt64
          have finds : (Frame.key (.revokeFind tenantId id)).settled hashKey false input store =
              (store, .running (.key (.revokeUpdate id entry.2.keyHash))) := by
            simp only [Frame.settled, Frame.exec, KeyFrame.exec, KeyFrame.withKeys, poisoned, found]
            rfl
          have updates : (Frame.key (.revokeUpdate id entry.2.keyHash)).settled hashKey false input
              store =
                ({ store with pool }, .running (.key (.revokeMark id entry.2.keyHash input.now))) := by
            simp only [Frame.settled, Frame.exec, KeyFrame.exec, Input.execute_success sql]
            rfl
          have marks : (Frame.key (.revokeMark id entry.2.keyHash input.now)).settled hashKey false
              input { store with pool } =
                ({ store with
                    pool
                    keys := store.keys.modify entry.2.keyHash
                      (KeyRecord.revoke input.now.seconds) },
                  .returned (.revokedKey true)) := by
            simp only [Frame.settled, Frame.exec, KeyFrame.exec, KeyFrame.withKeys, poisoned]
            rfl
          exact .intro ((solo_running finds).trans
            ((solo_running updates).trans (solo_returned marks)))
            (by simp [poisoned, Result.forgetDrawn])

/-- A rotation that finds an entry returns it under the new hash. -/
theorem rotateKey_returns {hash : String} {record : KeyRecord} (sql : input.sql = true)
    (unused : store.Unused hashKey input) (filed : store.Filed)
    (healthy : store.keysPoisoned = false)
    (found : store.keys.findEntry (ownedBy tenantId id) input.hint = some (hash, record)) :
    ∃ after,
      solo (Frame.settled hashKey false) [input, input, input] store
          (Op.rotateKey tenantId id).entry =
        some (after, .rotatedKey (some
          { record := record.rekey (hashKey input.rawKey), rawKey := input.rawKey })) := by
  have stored : store.keys.lookup record.keyHash = some record := by
    have here := (Dict.findEntry_eq_some found).1
    rw [filed.hashed hash record here]
    exact here
  obtain ⟨pool, updated⟩ : ∃ pool, store.pool.updateKeyHash id (hashKey input.rawKey) = some pool :=
    Database.updateKeyHash_accepts unused.hash
  let rekeys : KeyFrame :=
    .rotateRekey record.keyHash (hashKey input.rawKey) input.rawKey id .rotateKey
  have finds : (Frame.key (.rotateFind tenantId id)).settled hashKey false input store =
      (store, .running (.key (.rotateUpdate record.keyHash id .rotateKey))) := by
    simp only [Frame.settled, Frame.exec, KeyFrame.exec, KeyFrame.withKeys, healthy, found]
    rfl
  have updates : (Frame.key (.rotateUpdate record.keyHash id .rotateKey)).settled hashKey false
      input store = ({ store with pool }, .running (.key rekeys)) := by
    simp only [Frame.settled, Frame.exec, KeyFrame.exec, Input.execute_success sql, updated]
    rfl
  have moves : ∃ after, (Frame.key rekeys).settled hashKey false input { store with pool } =
      (after, .returned (.rotatedKey (some
        { record := record.rekey (hashKey input.rawKey), rawKey := input.rawKey }))) := by
    simp only [rekeys, Frame.settled, Frame.exec, KeyFrame.exec, KeyFrame.withKeys, healthy, stored]
    exact ⟨_, rfl⟩
  obtain ⟨after, moves⟩ := moves
  exact ⟨after, (solo_running finds).trans ((solo_running updates).trans (solo_returned moves))⟩

theorem rotateKey_showsPoison (sql : input.sql = true) (unused : store.Unused hashKey input)
    (filed : store.Filed) : store.ShowsPoison hashKey input (.rotateKey tenantId id) := by
  cases poisoned : store.keysPoisoned with
  | true =>
      have panics : (Frame.key (.rotateFind tenantId id)).settled hashKey false input store =
          (store, .returned .panicked) := by
        simp only [Frame.settled, Frame.exec, KeyFrame.exec, KeyFrame.withKeys, poisoned]
        rfl
      exact .intro (solo_returned panics) (by simp [poisoned, Result.forgetDrawn])
  | false =>
      cases found : store.keys.findEntry (ownedBy tenantId id) input.hint with
      | none =>
          have misses : (Frame.key (.rotateFind tenantId id)).settled hashKey false input store =
              (store, .returned (.rotatedKey none)) := by
            simp only [Frame.settled, Frame.exec, KeyFrame.exec, KeyFrame.withKeys, poisoned, found]
            rfl
          exact .intro (solo_returned misses) (by simp [poisoned, Result.forgetDrawn])
      | some entry =>
          obtain ⟨hash, record⟩ := entry
          obtain ⟨after, ends⟩ := rotateKey_returns sql unused filed poisoned found
          exact .intro ends (by simp [poisoned, Result.forgetDrawn])

end Necessary

theorem TenantOp.determined_of_indistinct {hashKey : String → String} {left right : World}
    {tenantId : String} (injective : Function.Injective hashKey) (owned : KeysOwned hashKey left)
    (owned' : KeysOwned hashKey right) (placed : left.store.KeysPlaced)
    (placed' : right.store.KeysPlaced) (agree : left.store.AgreeOn tenantId right.store)
    (op : TenantOp) (indistinct : op.Indistinct hashKey left right tenantId) :
    op.Determined tenantId left.store right.store := by
  obtain ⟨input, sql, fresh⟩ := World.exists_freshInput left right
  have drawn := (fresh input.hint).1
  have drawn' := (fresh input.hint).2
  have filed := World.filed owned placed
  have filed' := World.filed owned' placed'
  have unused := drawn.unused owned injective
  have unused' := drawn'.unused owned' injective
  -- Three times the same input on both sides.
  have sameAnswers : ∀ {first second : Input} {leftAfter rightAfter : Store}
      {leftAnswer rightAnswer : Answer}, left.FreshInput first →
      right.FreshInput second → first.sql = second.sql →
      op.perform hashKey false [first, first, first] tenantId left.store =
        some (leftAfter, leftAnswer) →
      op.perform hashKey false [second, second, second] tenantId right.store =
        some (rightAfter, rightAnswer) →
      leftAnswer.forgetDrawn = rightAnswer.forgetDrawn := by
    intro first second leftAfter rightAfter leftAnswer rightAnswer freshFirst freshSecond same ends
      ends'
    have inputs : List.Forall₂ (fun input other : Input => input.sql = other.sql)
        [first, first, first] [second, second, second] :=
      .cons same (.cons same (.cons same .nil))
    refine (indistinct false _ _ inputs ?_ ?_ _ _ _ _ ends ends').forgetDrawn
    · simpa using freshFirst
    · simpa using freshSecond
  have poison : ∀ {single : Op},
      (∀ store, op.perform hashKey false [input, input, input] tenantId store =
        store.perform hashKey false [input, input, input] single) →
      left.store.ShowsPoison hashKey input single → right.store.ShowsPoison hashKey input single →
      left.store.keysPoisoned = right.store.keysPoisoned := by
    intro single performs ⟨after, result, ends, shown⟩ ⟨after', result', ends', shown'⟩
    rw [← performs] at ends ends'
    have same : result.forgetDrawn = result'.forgetDrawn :=
      Answer.result.inj (sameAnswers drawn drawn' rfl ends ends')
    rw [Bool.eq_iff_iff, ← shown, ← shown', same]
  cases op with
  | listKeys =>
      have lists : ∀ store : Store, ((store.listKeys tenantId).map Multiset.ofList).isSome =
          !store.keysPoisoned := by
        intro store
        unfold Store.listKeys
        cases store.keysPoisoned <;> rfl
      have same := Answer.keys.inj (sameAnswers drawn drawn' rfl rfl rfl)
      have sameLock := congrArg Option.isSome same
      rw [lists, lists] at sameLock
      exact Bool.not_inj sameLock
  | createKey label role expiresAt =>
      by_cases known : tenantId ∈ left.store.pool.tenantIds
      · exact Or.inl (poison (fun _ => rfl) (createKey_showsPoison sql unused known)
          (createKey_showsPoison sql unused' (agree.knows.mpr known)))
      · exact Or.inr known
  | revokeKey id =>
      exact poison (fun _ => rfl) (revokeKey_showsPoison sql) (revokeKey_showsPoison sql)
  | rotateKey id =>
      have sameLock := poison (fun _ => rfl) (rotateKey_showsPoison sql unused filed)
        (rotateKey_showsPoison sql unused' filed')
      refine ⟨sameLock, ?_⟩
      cases healthy : left.store.keysPoisoned with
      | true => exact Or.inl rfl
      | false =>
          right
          intro hash record other copy stored storedCopy mine mineCopy
          have storedThere := (agree.cachedKeys other copy (ownedBy_iff.mp mineCopy).2).mpr storedCopy
          -- One hash map yields the first entry first, the other one the second.
          have goesThrough : ∀ hint, ({ input with hint } : Input).sql = true := fun _ => sql
          obtain ⟨after, ends⟩ := rotateKey_returns (goesThrough hash)
            ((fresh hash).1.unused owned injective) filed healthy
            (Dict.findEntry_hint stored mine)
          obtain ⟨after', ends'⟩ := rotateKey_returns (goesThrough other)
            ((fresh other).2.unused owned' injective) filed' (sameLock.symm.trans healthy)
            (Dict.findEntry_hint storedThere mineCopy)
          have same := Answer.result.inj (sameAnswers (fresh hash).1 (fresh other).2 rfl
            (Store.perform_returned ends) (Store.perform_returned ends'))
          exact congrArg CreatedApiKey.record (Option.some.inj (Result.rotatedKey.inj same))
  | listOrigins | registerOrigin | revokeOrigin | tryConsumeQuota => trivial

/-! ## Isolation -/

omit [Driver] in
theorem Store.AgreeOn.refl (tenantId : String) (store : Store) : store.AgreeOn tenantId store :=
  { cachedKeys := fun _ _ _ => Iff.rfl
    keyRows := fun _ _ => Iff.rfl
    cachedOrigins := fun _ => rfl
    originRows := fun _ _ => Iff.rfl
    cachedTenant := rfl
    tenantRows := fun _ _ => Iff.rfl }

/-- Between operations of a sequential run nothing stands in the way of
isolation. -/
theorem sequential_tenants_isolated {hashKey : String → String} {left right : World}
    (injective : Function.Injective hashKey)
    (leftReached : World.ReachableWhen hashKey
      (fun before event => sequential before event = true) left)
    (rightReached : World.ReachableWhen hashKey
      (fun before event => sequential before event = true) right)
    (leftIdle : left.calls.Quiescent ∧ left.tasks = [])
    (rightIdle : right.calls.Quiescent ∧ right.tasks = []) {tenantId other : String}
    (distinct : tenantId ≠ other) (op : TenantOp) :
    op.Spares hashKey left tenantId other ∧
      (left.store.AgreeOn tenantId right.store →
        op.Indistinct hashKey left right tenantId) := by
  have coherent : ∀ {world : World}, World.ReachableWhen hashKey
      (fun before event => sequential before event = true) world →
      world.calls.Quiescent ∧ world.tasks = [] → Coherent world.store := by
    intro world ⟨events, run⟩ idle
    have initial : World.blank.Coherently :=
      .idle (fun _ => rfl) (Or.inl ⟨rfl, .reload .empty⟩)
    have followed : world.Coherently :=
      run.invariant (fun _ _ _ coherently allowed taken => coherently.step allowed taken) initial
    have rest := followed.at_rest idle.1
    rw [idle.2] at rest
    exact rest.coherent
  have leftCoherent := coherent leftReached leftIdle
  have rightCoherent := coherent rightReached rightIdle
  have owned := World.reachable_keysOwned injective leftReached.reachable
  have owned' := World.reachable_keysOwned injective rightReached.reachable
  have placed := World.reachable_keysPlaced leftReached.reachable
  have placed' := World.reachable_keysPlaced rightReached.reachable
  have sameLock : left.store.keysPoisoned = right.store.keysPoisoned :=
    leftCoherent.healthy.trans rightCoherent.healthy.symm
  constructor
  · apply op.spares_of_not_relists owned injective placed distinct
    intro relists
    cases op with
    | registerOrigin origin =>
        obtain ⟨owner, unlisted, _⟩ := relists
        have listed := (leftCoherent.origins.union origin).mpr ⟨other, owner⟩
        exact absurd listed (of_decide_eq_false unlisted)
    | _ => exact relists
  · intro agree
    apply op.indistinct_of_determined injective owned owned' placed placed' agree
    cases op with
    | listKeys | revokeKey => exact sameLock
    | createKey => exact Or.inl sameLock
    | rotateKey id =>
        refine ⟨sameLock, Or.inr ?_⟩
        intro hash record second copy stored storedCopy mine mineCopy
        have ids := left.store.pool.apiKeys_id_unique
        have hashes := left.store.pool.apiKeys_keyHash_unique
        obtain ⟨row, member, filed, mirrors⟩ := leftCoherent.keys.row_of stored
        have sameRow := leftCoherent.keys.selects ids hashes storedCopy (ownedBy_iff.mp mineCopy).1
          row member
        have rowId : row.id = id := mirrors.id.symm.trans (ownedBy_iff.mp mine).1
        have sameHash : hash = second := filed.symm.trans (sameRow.mp rowId)
        rw [sameHash, storedCopy] at stored
        cases stored
        rfl
    | listOrigins | registerOrigin | revokeOrigin | tryConsumeQuota => trivial

/-- Isolation on every store a run can lead to, with its two conditions. -/
theorem tenants_isolated_iff {hashKey : String → String} {left right : World}
    (injective : Function.Injective hashKey) (leftReached : World.Reachable hashKey left)
    (rightReached : World.Reachable hashKey right) {tenantId other : String}
    (distinct : tenantId ≠ other) (op : TenantOp) :
    (op.Spares hashKey left tenantId other ↔ ¬op.Relists left.store tenantId other) ∧
      (left.store.AgreeOn tenantId right.store →
        (op.Indistinct hashKey left right tenantId ↔
          op.Determined tenantId left.store right.store)) := by
  have owned := World.reachable_keysOwned injective leftReached
  have owned' := World.reachable_keysOwned injective rightReached
  have placed := World.reachable_keysPlaced leftReached
  have placed' := World.reachable_keysPlaced rightReached
  constructor
  · exact ⟨op.not_relists_of_spares, op.spares_of_not_relists owned injective placed distinct⟩
  · intro agree
    exact ⟨op.determined_of_indistinct injective owned owned' placed placed' agree,
      op.indistinct_of_determined injective owned owned' placed placed' agree⟩

/-- The stores are the same but for origins of others. -/
def Store.agreeApartFromOrigins (tenantId : String) (store other : Store) : Bool :=
  (decide (other.keys.entries = store.keys.entries) &&
    decide (other.pool.apiKeys = store.pool.apiKeys)) &&
  (decide (other.tenants.entries = store.tenants.entries) &&
    decide (other.pool.tenants = store.pool.tenants)) &&
  ((decide (other.originsByTenant.lookup tenantId = none) &&
    decide (store.originsByTenant.lookup tenantId = none)) &&
  (decide (∀ row ∈ other.pool.tenantOrigins, row.tenantId ≠ tenantId) &&
    decide (∀ row ∈ store.pool.tenantOrigins, row.tenantId ≠ tenantId)))

omit [Driver] in
theorem Store.agreeOn_of_apartFromOrigins {tenantId : String} {store other : Store}
    (same : store.agreeApartFromOrigins tenantId other = true) :
    store.AgreeOn tenantId other := by
  simp only [agreeApartFromOrigins, Bool.and_eq_true, decide_eq_true_eq] at same
  obtain ⟨⟨⟨keys, apiKeys⟩, tenants, tenantRows⟩, ⟨unowned, unowned'⟩, rowless, rowless'⟩ := same
  constructor
  · intro hash record _
    rw [AList.ext keys]
  · intro row _
    rw [apiKeys]
  · intro origin
    rw [originOf, originOf, unowned, unowned']
  · intro row owner
    exact ⟨fun member => absurd owner (rowless row member),
      fun member => absurd owner (rowless' row member)⟩
  · rw [getTenant, AList.ext tenants, getTenant]
  · intro row _
    rw [tenantRows]

end

open scoped DefaultBackend

/-- Acme has lost its origin to the union set, and globex owns it. -/
theorem relisting_discloses_origin :
    ¬∀ hashKey left right tenantId other (op : TenantOp), Function.Injective hashKey →
      World.Reachable hashKey left → World.Reachable hashKey right → tenantId ≠ other →
      op.Spares hashKey left tenantId other ∧
        (left.store.AgreeOn tenantId right.store →
          op.Indistinct hashKey left right tenantId) := by
  intro claim
  obtain ⟨world, run, outcome⟩ :=
    World.exists_run sampleHash (fun _ _ => true) (sharedOriginSetup ++ overtakenRevocation)
      (fun world =>
        (world.store.tenantOwnsOrigin (sampleId 1).text "https://app.example" &&
          !world.store.isRegisteredOrigin "https://app.example") &&
        (decide ((sampleId 0).text ∈ world.store.pool.tenantIds) &&
          !decide (world.store.pool.HasOrigin (sampleId 0).text "https://app.example")))
      (by decide +kernel)
  obtain ⟨⟨owner, unlisted⟩, known, free⟩ :
      (world.store.tenantOwnsOrigin (sampleId 1).text "https://app.example" = true ∧
        world.store.isRegisteredOrigin "https://app.example" = false) ∧
      (sampleId 0).text ∈ world.store.pool.tenantIds ∧
        ¬world.store.pool.HasOrigin (sampleId 0).text "https://app.example" := by
    simpa using outcome
  have reached : World.Reachable sampleHash world := World.ReachableWhen.reachable ⟨_, run⟩
  have isolated := claim sampleHash world world (sampleId 0).text (sampleId 1).text
    (.registerOrigin "https://app.example") sampleHash_injective reached reached (by decide)
  exact TenantOp.not_relists_of_spares _ isolated.1 ⟨owner, unlisted, known, free⟩

/-- Globex cannot tell an origin id of acme's from an id that is not there. -/
theorem tenants_isolated_before_and_after_registration :
    ∃ before after : World,
      (sampleId 0).text ∉ before.store.pool.tenantOrigins.map OriginRow.id ∧
      (sampleId 0).text ∈ after.store.pool.tenantOrigins.map OriginRow.id ∧
      (TenantOp.revokeOrigin (sampleId 0).text).Spares sampleHash after (sampleId 1).text
        (sampleId 0).text ∧
      (TenantOp.revokeOrigin (sampleId 0).text).Indistinct sampleHash after before
        (sampleId 1).text := by
  obtain ⟨before, after, first, second, outcome⟩ :=
    World.exists_runs sampleHash (fun _ _ => true) (fun _ _ => true) (sharedOriginSetup.take 11)
      (sharedOriginSetup.drop 11)
      (fun before after =>
        (decide ((sampleId 0).text ∉ before.store.pool.tenantOrigins.map OriginRow.id) &&
          decide ((sampleId 0).text ∈ after.store.pool.tenantOrigins.map OriginRow.id)) &&
        after.store.agreeApartFromOrigins (sampleId 1).text before.store)
      (by decide +kernel)
  obtain ⟨⟨absent, present⟩, agree⟩ :
      ((sampleId 0).text ∉ before.store.pool.tenantOrigins.map OriginRow.id ∧
        (sampleId 0).text ∈ after.store.pool.tenantOrigins.map OriginRow.id) ∧
      after.store.agreeApartFromOrigins (sampleId 1).text before.store = true := by
    simpa using outcome
  have isolated := tenants_isolated_iff sampleHash_injective
    (World.ReachableWhen.reachable ⟨_, first.append second⟩)
    (World.ReachableWhen.reachable ⟨_, first⟩) (show (sampleId 1).text ≠ (sampleId 0).text by decide)
    (.revokeOrigin (sampleId 0).text)
  exact ⟨before, after, absent, present, isolated.1.mpr id,
    (isolated.2 (Store.agreeOn_of_apartFromOrigins agree)).mpr trivial⟩

end SpellServer
