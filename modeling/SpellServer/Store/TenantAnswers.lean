import Mathlib.Data.Fintype.EquivFin
import SpellServer.Store.TenantScope

/-!
# What the answer to a tenant depends on

Two stores agree on a tenant and its operation is carried out on both, with
other ids, raw keys and clocks and with the hash maps iterated in other orders.
The two calls are followed action by action; the answers come out the same, up
to what was drawn, except in the cases `TenantOp.Determined` rules out.
-/

namespace SpellServer

open Library

/-! ## Answers up to what was drawn -/

/-- A new key without its id, raw value and time of creation. -/
def CreatedApiKey.forgetDrawn (created : CreatedApiKey) : CreatedApiKey :=
  { record := { created.record with id := "", keyHash := "", createdAt := 0 }
    rawKey := "" }

/-- A rotated key without its raw value. -/
def CreatedApiKey.forgetRawKey (created : CreatedApiKey) : CreatedApiKey :=
  { record := created.record.rekey ""
    rawKey := "" }

def Result.forgetDrawn : Result → Result
  | .createdKey created => .createdKey created.forgetDrawn
  | .rotatedKey rotated => .rotatedKey (rotated.map CreatedApiKey.forgetRawKey)
  | .registeredOrigin info => .registeredOrigin { info with id := "", createdAt := 0 }
  | result => result

def Answer.forgetDrawn : Answer → Answer
  | .result returned => .result returned.forgetDrawn
  | listed => listed

/-- The same clock and the same random values. -/
structure Input.SameDraws [Driver] (input other : Input) : Prop where
  now : input.now = other.now
  newId : input.newId = other.newId
  rawKey : input.rawKey = other.rawKey

/-- The same up to what was drawn, and altogether when the same was drawn. -/
structure Answer.Alike (sameDraws : Prop) (answer other : Answer) : Prop where
  forgetDrawn : answer.forgetDrawn = other.forgetDrawn
  exactly : sameDraws → answer = other

/-- What a request draws anew: a raw key, and an id no row has. -/
structure World.FreshInput [Driver] (world : World) (input : Input) : Prop where
  rawKey : world.RawKeyFresh input
  keyId : input.newId.text ∉ world.store.pool.keyIds
  originId : input.newId.text ∉ world.store.pool.tenantOrigins.map OriginRow.id

private theorem exists_text (used : List String) : ∃ text : String, text ∉ used ∧ text ≠ "" := by
  obtain ⟨text, unused⟩ := Infinite.exists_notMem_finset (insert "" used.toFinset)
  rw [Finset.mem_insert, List.mem_toFinset, not_or] at unused
  exact ⟨text, unused.2, unused.1⟩

/-- There is always something left to draw, in two worlds at once. -/
theorem World.exists_freshInput [Driver] (left right : World) :
    ∃ input : Input, input.sql = true ∧ ∀ hint,
      left.FreshInput { input with hint } ∧ right.FreshInput { input with hint } := by
  obtain ⟨rawKey, unissued, _⟩ := exists_text (left.issued.map Prod.snd ++ right.issued.map Prod.snd)
  obtain ⟨id, unused, named⟩ := exists_text
    ((left.store.pool.keyIds ++ left.store.pool.tenantOrigins.map OriginRow.id) ++
      (right.store.pool.keyIds ++ right.store.pool.tenantOrigins.map OriginRow.id))
  simp only [List.mem_append, not_or] at unissued unused
  have early : (0 : UInt64).toNat < Driver.limit := Driver.limit_pos
  refine ⟨{ now := ⟨0, early⟩, newId := ⟨id, named⟩, rawKey, hint := "", sql := true }, rfl, ?_⟩
  intro hint
  exact ⟨⟨unissued.1, unused.1.1, unused.1.2⟩, ⟨unissued.2, unused.2.1, unused.2.2⟩⟩

/-- Nobody can tell the two worlds apart by the answer to the operation for the
tenant: the statements reach both databases or none, the rest is free. -/
def TenantOp.Indistinct [Driver] (hashKey : String → String) (left right : World)
    (tenantId : String) (op : TenantOp) : Prop :=
  ∀ writes lefts rights,
    List.Forall₂ (fun input other : Input => input.sql = other.sql) lefts rights →
    (∀ input ∈ lefts, left.FreshInput input) → (∀ input ∈ rights, right.FreshInput input) →
    ∀ leftAfter leftAnswer rightAfter rightAnswer,
      op.perform hashKey writes lefts tenantId left.store = some (leftAfter, leftAnswer) →
      op.perform hashKey writes rights tenantId right.store = some (rightAfter, rightAnswer) →
      leftAnswer.Alike (List.Forall₂ Input.SameDraws lefts rights) rightAnswer

/-- Whichever entry for the id a rotation finds, it makes the same of it. -/
def Store.RotatesAlike (store : Store) (tenantId id : String) : Prop :=
  ∀ hash record other copy, store.keys.lookup hash = some record →
    store.keys.lookup other = some copy → ownedBy tenantId id record = true →
    ownedBy tenantId id copy = true → record.rekey "" = copy.rekey ""

/-- The lock that a key operation takes is poisoned in both stores or in none. -/
def TenantOp.Determined (tenantId : String) (left right : Store) : TenantOp → Prop
  | .listKeys | .revokeKey _ => left.keysPoisoned = right.keysPoisoned
  | .createKey _ _ _ =>
      left.keysPoisoned = right.keysPoisoned ∨ tenantId ∉ left.pool.tenantIds
  | .rotateKey id =>
      left.keysPoisoned = right.keysPoisoned ∧
        (left.keysPoisoned = true ∨ left.RotatesAlike tenantId id)
  | _ => True

/-! ## Statements on agreeing tables -/

namespace Database

variable {database : Database}

theorem insertOrigin_accepts {row : OriginRow}
    (fresh : row.id ∉ database.tenantOrigins.map OriginRow.id)
    (free : row.owned ∉ database.tenantOrigins.map OriginRow.owned)
    (known : row.tenantId ∈ database.tenants.map TenantRow.id) :
    ∃ pool, database.insertOrigin row = some pool :=
  ⟨_, dif_pos ⟨fresh, free, known⟩⟩

theorem insertOrigin_refuses {row : OriginRow}
    (taken : row.tenantId ∈ database.tenants.map TenantRow.id →
      row.owned ∈ database.tenantOrigins.map OriginRow.owned) :
    database.insertOrigin row = none :=
  dif_neg fun fits => fits.2.1 (taken fits.2.2)

theorem insertApiKey_refuses {row : ApiKeyRow} {tenantId : String}
    (owner : row.tenantId = some tenantId)
    (unknown : tenantId ∉ database.tenants.map TenantRow.id) :
    database.insertApiKey row = none :=
  dif_neg fun fits => unknown (fits.2.2 tenantId owner)

end Database

namespace Store.AgreeOn

variable {tenantId : String} {store other : Store}

theorem knows (agree : store.AgreeOn tenantId other) :
    tenantId ∈ other.pool.tenantIds ↔ tenantId ∈ store.pool.tenantIds := by
  simp only [Database.tenantIds, List.mem_map]
  exact exists_congr fun row => and_congr_left fun named => agree.tenantRows row named

theorem hasOrigin (agree : store.AgreeOn tenantId other) (origin : String) :
    other.pool.HasOrigin tenantId origin ↔ store.pool.HasOrigin tenantId origin := by
  simp only [hasOrigin_iff]
  exact exists_congr fun row => and_congr_left fun owned =>
    agree.originRows row (congrArg Prod.fst owned)

/-- `find` succeeds in both or in none. -/
theorem finds (agree : store.AgreeOn tenantId other) (id hint hint' : String) :
    (other.keys.findEntry (ownedBy tenantId id) hint').isSome =
      (store.keys.findEntry (ownedBy tenantId id) hint).isSome := by
  have moves : ∀ {first second : Store} (here there : String),
      (∀ hash record, record.tenantId = some tenantId →
        first.keys.lookup hash = some record → second.keys.lookup hash = some record) →
      (first.keys.findEntry (ownedBy tenantId id) here).isSome = true →
      (second.keys.findEntry (ownedBy tenantId id) there).isSome = true := by
    intro first second here there kept found
    obtain ⟨⟨hash, record⟩, found⟩ := Option.isSome_iff_exists.mp found
    obtain ⟨stored, qualifies⟩ := Dict.findEntry_eq_some found
    have present := kept hash record (ownedBy_iff.mp qualifies).2 stored
    by_contra missing
    rw [Option.not_isSome_iff_eq_none] at missing
    have rejected := Dict.findEntry_eq_none missing present
    rw [rejected] at qualifies
    cases qualifies
  rw [Bool.eq_iff_iff]
  constructor
  · exact moves hint' hint fun hash record owner => (agree.cachedKeys hash record owner).mp
  · exact moves hint hint' fun hash record owner => (agree.cachedKeys hash record owner).mpr

theorem selectOrigin (agree : store.AgreeOn tenantId other) (id : String) :
    other.pool.selectOrigin id tenantId = store.pool.selectOrigin id tenantId := by
  have selects : ∀ (pool : Database) (row : OriginRow),
      (pool.tenantOrigins.find? fun row => row.id = id ∧ row.tenantId = tenantId) = some row ↔
        row ∈ pool.tenantOrigins ∧ row.id = id ∧ row.tenantId = tenantId := by
    intro pool row
    constructor
    · intro found
      exact ⟨List.mem_of_find?_eq_some found, by simpa using List.find?_some found⟩
    · intro ⟨member, sameId, sameTenant⟩
      cases found : pool.tenantOrigins.find? fun row => row.id = id ∧ row.tenantId = tenantId with
      | none =>
          have rejected := List.find?_eq_none.mp found row member
          simp [sameId, sameTenant] at rejected
      | some first =>
          obtain ⟨firstId, _⟩ : first.id = id ∧ first.tenantId = tenantId := by
            simpa using List.find?_some found
          rw [List.inj_on_of_nodup_map pool.tenantOrigins_id_unique
            (List.mem_of_find?_eq_some found) member (firstId.trans sameId.symm)]
  unfold Database.selectOrigin
  congr 1
  apply Option.ext
  intro row
  rw [selects, selects]
  exact and_congr_left fun chosen => agree.originRows row chosen.2

theorem listKeys (agree : store.AgreeOn tenantId other)
    (poisoned : store.keysPoisoned = other.keysPoisoned) :
    (store.listKeys tenantId).map Multiset.ofList =
      (other.listKeys tenantId).map Multiset.ofList := by
  unfold Store.listKeys
  rw [poisoned]
  split
  · rfl
  · refine congrArg some (Multiset.coe_eq_coe.mpr (Dict.values_filter_perm ?_))
    intro hash record owner
    exact (agree.cachedKeys hash record (of_decide_eq_true owner)).symm

theorem listOrigins (agree : store.AgreeOn tenantId other) :
    Multiset.ofList (store.listOrigins tenantId) =
      Multiset.ofList (other.listOrigins tenantId) := by
  have listed : ∀ store : Store, store.listOrigins tenantId =
      ((store.originsByTenant.lookup tenantId).getD ∅).values := by
    intro store
    unfold Store.listOrigins
    cases store.originsByTenant.lookup tenantId <;> rfl
  have owned : ∀ (store : Store) (origin : String),
      ((store.originsByTenant.lookup tenantId).getD ∅).lookup origin =
        originOf store.originsByTenant tenantId origin := by
    intro store origin
    unfold originOf
    cases store.originsByTenant.lookup tenantId <;> rfl
  have same : (((store.originsByTenant.lookup tenantId).getD ∅).values.filter fun _ => true).Perm
      (((other.originsByTenant.lookup tenantId).getD ∅).values.filter fun _ => true) := by
    apply Dict.values_filter_perm
    intro origin info _
    rw [owned, owned, agree.cachedOrigins]
  rw [listed, listed]
  simpa using same

end Store.AgreeOn

/-! ## Two calls side by side -/

/-- A value no row of the store has. -/
structure Store.Unused [Driver] (hashKey : String → String) (store : Store)
    (input : Input) : Prop where
  keyId : input.newId.text ∉ store.pool.keyIds
  originId : input.newId.text ∉ store.pool.tenantOrigins.map OriginRow.id
  hash : hashKey input.rawKey ∉ store.pool.apiKeys.map ApiKeyRow.keyHash

namespace Store.Unused

variable [Driver] {hashKey : String → String} {store : Store} {input : Input}

/-- With new values only an unknown tenant stands in the way of a key. -/
theorem refusesKey_iff (unused : store.Unused hashKey input) (tenantId label : String) (role : Role)
    (expiresAt : Option UInt64) :
    input.execute (store.pool.insertApiKey
        (newApiKeyRow (newApiKey hashKey input (some tenantId) label role expiresAt).record)) =
        none ↔
      (input.sql = true → tenantId ∉ store.pool.tenantIds) := by
  constructor
  · intro refused sql known
    obtain ⟨pool, inserted⟩ : ∃ pool, store.pool.insertApiKey
        (newApiKeyRow (newApiKey hashKey input (some tenantId) label role expiresAt).record) =
          some pool :=
      Database.insertApiKey_accepts unused.keyId unused.hash
        fun owner same => Option.some.inj same ▸ known
    rw [Input.execute_success sql, inserted] at refused
    cases refused
  · intro unknown
    exact Input.execute_refused fun sql => Database.insertApiKey_refuses rfl (unknown sql)

/-- For an origin, so does a row the tenant already has. -/
theorem refusesOrigin_iff (unused : store.Unused hashKey input) (tenantId origin : String) :
    input.execute (store.pool.insertOrigin (newOriginRow (newOrigin input tenantId origin))) =
        none ↔
      (input.sql = true → tenantId ∈ store.pool.tenantIds →
        store.pool.HasOrigin tenantId origin) := by
  constructor
  · intro refused sql known
    by_contra free
    obtain ⟨pool, inserted⟩ : ∃ pool,
        store.pool.insertOrigin (newOriginRow (newOrigin input tenantId origin)) = some pool :=
      Database.insertOrigin_accepts unused.originId free known
    rw [Input.execute_success sql, inserted] at refused
    cases refused
  · intro taken
    exact Input.execute_refused fun sql => Database.insertOrigin_refuses (taken sql)

end Store.Unused

/-- The inputs of two actions: the statement reaches both databases or none. -/
structure Input.Paired [Driver] (hashKey : String → String) (sameDraws : Prop) (left right : Store)
    (input other : Input) : Prop where
  sql : input.sql = other.sql
  draws : sameDraws → input.SameDraws other
  left : left.Unused hashKey input
  right : right.Unused hashKey other

/-- The actions two calls for the tenant are about to take, where the answer is
still open. -/
inductive Frame.Paired [Driver] (tenantId : String) (sameDraws : Prop) (left right : Store) :
    Store → Frame → Store → Frame → Prop where
  | createInsert (label : String) (role : Role) (expiresAt : Option UInt64)
      (determined : left.keysPoisoned = right.keysPoisoned ∨ tenantId ∉ left.pool.tenantIds) :
      Paired tenantId sameDraws left right
        left (.key (.createInsert (some tenantId) label role expiresAt .createKey))
        right (.key (.createInsert (some tenantId) label role expiresAt .createKey))
  | createCache {store other : Store} {created created' : CreatedApiKey}
      (poisoned : store.keysPoisoned = other.keysPoisoned)
      (alike : (Answer.result (.createdKey created)).Alike sameDraws
        (.result (.createdKey created'))) :
      Paired tenantId sameDraws left right
        store (.key (.createCache created .createKey))
        other (.key (.createCache created' .createKey))
  | revokeFind (id : String) (poisoned : left.keysPoisoned = right.keysPoisoned) :
      Paired tenantId sameDraws left right
        left (.key (.revokeFind tenantId id)) right (.key (.revokeFind tenantId id))
  | revokeUpdate {store other : Store} {id hash hash' : String}
      (poisoned : store.keysPoisoned = other.keysPoisoned) :
      Paired tenantId sameDraws left right
        store (.key (.revokeUpdate id hash)) other (.key (.revokeUpdate id hash'))
  | revokeMark {store other : Store} {id hash hash' : String} {stamp stamp' : Clock}
      (poisoned : store.keysPoisoned = other.keysPoisoned) :
      Paired tenantId sameDraws left right
        store (.key (.revokeMark id hash stamp)) other (.key (.revokeMark id hash' stamp'))
  | rotateFind (id : String) (poisoned : left.keysPoisoned = right.keysPoisoned)
      (alike : left.keysPoisoned = true ∨ left.RotatesAlike tenantId id) :
      Paired tenantId sameDraws left right
        left (.key (.rotateFind tenantId id)) right (.key (.rotateFind tenantId id))
  | rotateUpdate {id hash hash' : String} {record copy : KeyRecord}
      (poisoned : left.keysPoisoned = right.keysPoisoned)
      (stored : left.keys.lookup hash = some record)
      (stored' : right.keys.lookup hash' = some copy)
      (alike : record.rekey "" = copy.rekey "") :
      Paired tenantId sameDraws left right
        left (.key (.rotateUpdate hash id .rotateKey))
        right (.key (.rotateUpdate hash' id .rotateKey))
  | rotateRekey {store other : Store} {id hash hash' newHash newHash' rawKey rawKey' : String}
      {record copy : KeyRecord} (poisoned : store.keysPoisoned = other.keysPoisoned)
      (stored : store.keys.lookup hash = some record)
      (stored' : other.keys.lookup hash' = some copy)
      (alike : record.rekey "" = copy.rekey "")
      (draws : sameDraws → newHash = newHash' ∧ rawKey = rawKey') :
      Paired tenantId sameDraws left right
        store (.key (.rotateRekey hash newHash rawKey id .rotateKey))
        other (.key (.rotateRekey hash' newHash' rawKey' id .rotateKey))
  | consumeQuota :
      Paired tenantId sameDraws left right
        left (.tenant (.consumeQuota tenantId)) right (.tenant (.consumeQuota tenantId))
  | registerInsert (origin : String) :
      Paired tenantId sameDraws left right
        left (.origin (.registerInsert tenantId origin))
        right (.origin (.registerInsert tenantId origin))
  | registerAny {store other : Store} {info info' : OriginInfo}
      (alike : (Answer.result (.registeredOrigin info)).Alike sameDraws
        (.result (.registeredOrigin info'))) :
      Paired tenantId sameDraws left right
        store (.origin (.registerAny info)) other (.origin (.registerAny info'))
  | registerByTenant {store other : Store} {info info' : OriginInfo}
      (alike : (Answer.result (.registeredOrigin info)).Alike sameDraws
        (.result (.registeredOrigin info'))) :
      Paired tenantId sameDraws left right
        store (.origin (.registerByTenant info)) other (.origin (.registerByTenant info'))

theorem Answer.Alike.refl {sameDraws : Prop} (answer : Answer) : answer.Alike sameDraws answer :=
  ⟨rfl, fun _ => rfl⟩

/-- The two statuses after an action: two calls still paired, or two answers. -/
abbrev Frame.Goes [Driver] (tenantId : String) (sameDraws : Prop) (left right : Store)
    (outcome other : Outcome) : Prop :=
  Status.Related
    (fun later later' =>
      Paired tenantId sameDraws left right outcome.store later other.store later')
    (fun result result' => (Answer.result result).Alike sameDraws (.result result'))
    outcome.next other.next

namespace Frame.Paired

variable [Driver] {hashKey : String → String} {tenantId : String} {sameDraws : Prop}
  {left right store other : Store} {frame frame' : Frame} {input input' : Input}

private theorem both (store other : Store) (result : Result) :
    Frame.Goes tenantId sameDraws left right (.finish store result) (.finish other result) :=
  .returned (.refl (.result result))

private theorem createInsert_goes {label : String} {role : Role} {expiresAt : Option UInt64}
    (agree : left.AgreeOn tenantId right) (inputs : input.Paired hashKey sameDraws left right input')
    (determined : left.keysPoisoned = right.keysPoisoned ∨ tenantId ∉ left.pool.tenantIds) :
    Frame.Goes tenantId sameDraws left right
      ((Frame.key (.createInsert (some tenantId) label role expiresAt .createKey)).exec
        hashKey input left)
      ((Frame.key (.createInsert (some tenantId) label role expiresAt .createKey)).exec
        hashKey input' right) := by
  have sameRefusal := inputs.left.refusesKey_iff tenantId label role expiresAt
  rw [inputs.sql, ← agree.knows, ← inputs.right.refusesKey_iff tenantId label role expiresAt] at sameRefusal
  simp only [Frame.Goes, Frame.exec, KeyFrame.exec]
  cases accepted : input.execute (left.pool.insertApiKey
      (newApiKeyRow (newApiKey hashKey input (some tenantId) label role expiresAt).record)) with
  | none =>
      rw [sameRefusal.mp accepted]
      exact both left right .err
  | some pool =>
      have inserts : input'.execute (right.pool.insertApiKey
          (newApiKeyRow (newApiKey hashKey input' (some tenantId) label role expiresAt).record)) ≠
          none := by
        intro refused
        rw [sameRefusal.mpr refused] at accepted
        cases accepted
      obtain ⟨pool', accepted'⟩ := Option.ne_none_iff_exists'.mp inserts
      obtain ⟨⟨_, _, known⟩, _⟩ :=
        Database.insertApiKey_eq_some (Input.execute_eq_some.mp accepted).2
      have poisoned : left.keysPoisoned = right.keysPoisoned :=
        determined.resolve_right (not_not_intro (known tenantId rfl))
      rw [accepted']
      refine .running (.createCache poisoned ⟨rfl, ?_⟩)
      intro same
      obtain ⟨now, newId, rawKey⟩ := inputs.draws same
      simp only [newApiKey, now, newId, rawKey]

private theorem revokeFind_goes {id : String} (agree : left.AgreeOn tenantId right)
    (poisoned : left.keysPoisoned = right.keysPoisoned) :
    Frame.Goes tenantId sameDraws left right
      ((Frame.key (.revokeFind tenantId id)).exec hashKey input left)
      ((Frame.key (.revokeFind tenantId id)).exec hashKey input' right) := by
  have finds := agree.finds id input.hint input'.hint
  simp only [Frame.Goes, Frame.exec, KeyFrame.exec, KeyFrame.withKeys, poisoned]
  split
  · exact both left right .panicked
  · cases found : left.keys.findEntry (ownedBy tenantId id) input.hint with
    | none =>
        rw [found, Option.isSome_none, Option.isSome_eq_false_iff, Option.isNone_iff_eq_none] at finds
        rw [finds]
        exact both left right (.revokedKey false)
    | some entry =>
        rw [found, Option.isSome_some, Option.isSome_iff_exists] at finds
        obtain ⟨entry', found'⟩ := finds
        rw [found']
        exact .running (.revokeUpdate poisoned)

private theorem rotateFind_goes {id : String} (agree : left.AgreeOn tenantId right)
    (filed : left.Filed) (filed' : right.Filed)
    (poisoned : left.keysPoisoned = right.keysPoisoned)
    (alike : left.keysPoisoned = true ∨ left.RotatesAlike tenantId id) :
    Frame.Goes tenantId sameDraws left right
      ((Frame.key (.rotateFind tenantId id)).exec hashKey input left)
      ((Frame.key (.rotateFind tenantId id)).exec hashKey input' right) := by
  have finds := agree.finds id input.hint input'.hint
  simp only [Frame.Goes, Frame.exec, KeyFrame.exec, KeyFrame.withKeys, ← poisoned]
  split
  · exact both left right .panicked
  · rename_i healthy
    have alike : left.RotatesAlike tenantId id := alike.resolve_left healthy
    cases found : left.keys.findEntry (ownedBy tenantId id) input.hint with
    | none =>
        rw [found, Option.isSome_none, Option.isSome_eq_false_iff, Option.isNone_iff_eq_none] at finds
        rw [finds]
        exact both left right (.rotatedKey none)
    | some entry =>
        rw [found, Option.isSome_some, Option.isSome_iff_exists] at finds
        obtain ⟨hash, record⟩ := entry
        obtain ⟨⟨hash', copy⟩, found'⟩ := finds
        obtain ⟨stored, qualifies⟩ := Dict.findEntry_eq_some found
        obtain ⟨stored', qualifies'⟩ := Dict.findEntry_eq_some found'
        have owner := (ownedBy_iff.mp qualifies').2
        have same := alike hash record hash' copy stored
          ((agree.cachedKeys hash' copy owner).mp stored') qualifies qualifies'
        rw [found']
        refine .running (.rotateUpdate poisoned ?_ ?_ same)
        · rw [filed.hashed hash record stored]
          exact stored
        · rw [filed'.hashed hash' copy stored']
          exact stored'

private theorem rotateUpdate_goes {id hash hash' : String} {record copy : KeyRecord}
    (inputs : input.Paired hashKey sameDraws left right input')
    (poisoned : left.keysPoisoned = right.keysPoisoned)
    (stored : left.keys.lookup hash = some record)
    (stored' : right.keys.lookup hash' = some copy) (alike : record.rekey "" = copy.rekey "") :
    Frame.Goes tenantId sameDraws left right
      ((Frame.key (.rotateUpdate hash id .rotateKey)).exec hashKey input left)
      ((Frame.key (.rotateUpdate hash' id .rotateKey)).exec hashKey input' right) := by
  obtain ⟨pool, updated⟩ : ∃ pool,
      left.pool.updateKeyHash id (hashKey input.rawKey) = some pool :=
    Database.updateKeyHash_accepts inputs.left.hash
  obtain ⟨pool', updated'⟩ : ∃ pool,
      right.pool.updateKeyHash id (hashKey input'.rawKey) = some pool :=
    Database.updateKeyHash_accepts inputs.right.hash
  cases sql : input.sql with
  | true =>
      have sql' : input'.sql = true := inputs.sql.symm.trans sql
      simp only [Frame.Goes, Frame.exec, KeyFrame.exec, Input.execute_success sql,
        Input.execute_success sql', updated, updated']
      refine .running (.rotateRekey poisoned stored stored' alike ?_)
      intro same
      have rawKey := (inputs.draws same).rawKey
      exact ⟨by rw [rawKey], rawKey⟩
  | false =>
      have sql' : input'.sql = false := inputs.sql.symm.trans sql
      simp only [Frame.Goes, Frame.exec, KeyFrame.exec, Input.execute_failure sql,
        Input.execute_failure sql']
      exact both left right .err

private theorem registerInsert_goes {origin : String} (agree : left.AgreeOn tenantId right)
    (inputs : input.Paired hashKey sameDraws left right input') :
    Frame.Goes tenantId sameDraws left right
      ((Frame.origin (.registerInsert tenantId origin)).exec hashKey input left)
      ((Frame.origin (.registerInsert tenantId origin)).exec hashKey input' right) := by
  have sameRefusal := inputs.left.refusesOrigin_iff tenantId origin
  rw [inputs.sql, ← agree.knows, ← agree.hasOrigin, ← inputs.right.refusesOrigin_iff tenantId origin]
    at sameRefusal
  simp only [Frame.Goes, Frame.exec, OriginFrame.exec]
  cases accepted : input.execute
      (left.pool.insertOrigin (newOriginRow (newOrigin input tenantId origin))) with
  | none =>
      rw [sameRefusal.mp accepted]
      exact both left right .err
  | some pool =>
      have inserts : input'.execute
          (right.pool.insertOrigin (newOriginRow (newOrigin input' tenantId origin))) ≠ none := by
        intro refused
        rw [sameRefusal.mpr refused] at accepted
        cases accepted
      obtain ⟨pool', accepted'⟩ := Option.ne_none_iff_exists'.mp inserts
      rw [accepted']
      refine .running (.registerAny ⟨rfl, ?_⟩)
      intro same
      obtain ⟨now, newId, rawKey⟩ := inputs.draws same
      simp only [newOrigin, now, newId]

/-- One action of both calls. -/
theorem goes (agree : left.AgreeOn tenantId right) (filed : left.Filed) (filed' : right.Filed)
    (paired : Paired tenantId sameDraws left right store frame other frame')
    (inputs : input.Paired hashKey sameDraws left right input') :
    Frame.Goes tenantId sameDraws left right (frame.exec hashKey input store)
      (frame'.exec hashKey input' other) := by
  cases paired with
  | createInsert label role expiresAt determined =>
      exact createInsert_goes agree inputs determined
  | createCache poisoned alike =>
      simp only [Frame.Goes, Frame.exec, KeyFrame.exec, KeyFrame.withKeys, poisoned]
      split
      · exact both store other .panicked
      · exact .returned alike
  | revokeFind id poisoned => exact revokeFind_goes agree poisoned
  | revokeUpdate poisoned =>
      cases sql : input.sql with
      | true =>
          have sql' : input'.sql = true := inputs.sql.symm.trans sql
          simp only [Frame.Goes, Frame.exec, KeyFrame.exec, Input.execute_success sql,
            Input.execute_success sql']
          exact .running (.revokeMark poisoned)
      | false =>
          have sql' : input'.sql = false := inputs.sql.symm.trans sql
          simp only [Frame.Goes, Frame.exec, KeyFrame.exec, Input.execute_failure sql,
            Input.execute_failure sql']
          exact both store other .err
  | revokeMark poisoned =>
      simp only [Frame.Goes, Frame.exec, KeyFrame.exec, KeyFrame.withKeys, poisoned]
      split
      · exact both store other .panicked
      · exact .returned (.refl (.result (.revokedKey true)))
  | rotateFind id poisoned alike => exact rotateFind_goes agree filed filed' poisoned alike
  | rotateUpdate poisoned stored stored' alike =>
      exact rotateUpdate_goes inputs poisoned stored stored' alike
  | rotateRekey poisoned stored stored' alike draws =>
      simp only [Frame.Goes, Frame.exec, KeyFrame.exec, KeyFrame.withKeys, poisoned, stored,
        stored']
      split
      · exact both store other .panicked
      · refine .returned ⟨?_, ?_⟩
        · exact congrArg (fun record => Answer.result (.rotatedKey (some ⟨record, ""⟩))) alike
        · intro same
          obtain ⟨rfl, rfl⟩ := draws same
          exact congrArg
            (fun record : KeyRecord =>
              Answer.result (.rotatedKey (some ⟨{ record with keyHash := _ }, _⟩)))
            alike
  | consumeQuota =>
      have same : right.tenants.lookup tenantId = left.tenants.lookup tenantId :=
        agree.cachedTenant
      simp only [Frame.Goes, Frame.exec, TenantFrame.exec, same]
      split
      · exact both left right (.quotaConsumed false)
      · split
        · exact both left right (.quotaConsumed false)
        · exact .returned (.refl (.result (.quotaConsumed true)))
  | registerInsert origin => exact registerInsert_goes agree inputs
  | registerAny alike => exact .running (.registerByTenant alike)
  | registerByTenant alike => exact .returned alike

end Frame.Paired

/-! ## From the actions to the answers -/

section Settled

variable [Driver] {hashKey : String → String} {writes : Bool} {input : Input} {store : Store}
  {frame later : Frame}

/-- Only a call that ends leaves a write to a task. -/
theorem Frame.exec_quiet_of_running
    (goes : (frame.exec hashKey input store).next = .running later) :
    (frame.exec hashKey input store).spawned = [] := by
  cases frame with
  | key frame =>
      revert goes
      cases frame <;> simp only [Frame.exec, KeyFrame.exec, KeyFrame.withKeys] <;>
        (repeat' split) <;> intro goes <;> first | rfl | cases goes
  | tenant frame =>
      revert goes
      cases frame <;> simp only [Frame.exec, TenantFrame.exec] <;>
        (repeat' split) <;> intro goes <;> first | rfl | cases goes
  | origin frame => exact (frame.exec_quiet input store).1
  | dictionary frame => exact (frame.exec_quiet input store).1

theorem Frame.settled_running (goes : (frame.exec hashKey input store).next = .running later) :
    frame.settled hashKey writes input store =
      ((frame.exec hashKey input store).store, .running later) := by
  rw [Frame.settled, goes, Outcome.settle_quiet (Frame.exec_quiet_of_running goes)]

end Settled

section Answers

variable [Driver] {hashKey : String → String} {tenantId : String} {sameDraws : Prop}
  {left right : Store} {writes : Bool} {lefts rights : List Input} {leftAfter rightAfter : Store}
  {leftAnswer rightAnswer : Answer}

theorem Frame.Paired.settled {store other : Store} {frame frame' : Frame} {input input' : Input}
    (agree : left.AgreeOn tenantId right) (filed : left.Filed) (filed' : right.Filed)
    (paired : Frame.Paired tenantId sameDraws left right store frame other frame')
    (inputs : input.Paired hashKey sameDraws left right input') :
    Status.Related
      (fun later later' =>
        Frame.Paired tenantId sameDraws left right (frame.settled hashKey writes input store).1
          later (frame'.settled hashKey writes input' other).1 later')
      (fun result result' => (Answer.result result).Alike sameDraws (.result result'))
      (frame.settled hashKey writes input store).2
      (frame'.settled hashKey writes input' other).2 := by
  have goes := paired.goes agree filed filed' inputs
  have status : (frame.settled hashKey writes input store).2 =
      (frame.exec hashKey input store).next := rfl
  have status' : (frame'.settled hashKey writes input' other).2 =
      (frame'.exec hashKey input' other).next := rfl
  rw [status, status']
  cases moves : (frame.exec hashKey input store).next with
  | running later =>
      cases moves' : (frame'.exec hashKey input' other).next with
      | running later' =>
          rw [Frame.Goes, moves, moves'] at goes
          cases goes with
          | running matched =>
              rw [Frame.settled_running moves, Frame.settled_running moves']
              exact .running matched
      | returned result' =>
          rw [Frame.Goes, moves, moves'] at goes
          cases goes
  | returned result =>
      cases moves' : (frame'.exec hashKey input' other).next with
      | running later' =>
          rw [Frame.Goes, moves, moves'] at goes
          cases goes
      | returned result' =>
          rw [Frame.Goes, moves, moves'] at goes
          cases goes with
          | returned alike => exact .returned alike

/-- An operation whose two calls start paired. -/
theorem Store.perform_alike {op : Op} (agree : left.AgreeOn tenantId right) (filed : left.Filed)
    (filed' : right.Filed)
    (inputs : List.Forall₂ (Input.Paired hashKey sameDraws left right) lefts rights)
    (paired : Frame.Paired tenantId sameDraws left right left op.entry right op.entry)
    (ends : left.perform hashKey writes lefts op = some (leftAfter, leftAnswer))
    (ends' : right.perform hashKey writes rights op = some (rightAfter, rightAnswer)) :
    leftAnswer.Alike sameDraws rightAnswer := by
  have related : Option.Rel
      (fun first second => (Answer.result first.2).Alike sameDraws (.result second.2))
      (solo (Frame.settled hashKey writes) lefts left op.entry)
      (solo (Frame.settled hashKey writes) rights right op.entry) := by
    refine solo_unwinding (Frame.Paired tenantId sameDraws left right)
      (fun result result' => (Answer.result result).Alike sameDraws (.result result')) ?_
      inputs paired
    intro input store frame input' other frame' used here
    exact here.settled agree filed filed' used
  obtain ⟨⟨last, result⟩, ran, same⟩ := Option.map_eq_some_iff.mp ends
  obtain ⟨⟨last', result'⟩, ran', same'⟩ := Option.map_eq_some_iff.mp ends'
  obtain ⟨_, rfl⟩ := Prod.mk.inj same
  obtain ⟨_, rfl⟩ := Prod.mk.inj same'
  rw [ran, ran'] at related
  cases related with
  | some alike => exact alike

/-- The last actions of `revoke_origin`.  How many there are is up to what other
tenants own. -/
def OriginFrame.EndsRevocation : OriginFrame → Prop
  | .revokeByTenant _ _ | .revokeStillOwned _ | .revokeAny _ => True
  | _ => False

theorem OriginFrame.EndsRevocation.moves {store : Store} {frame : OriginFrame} {input : Input}
    (near : frame.EndsRevocation) :
    (∃ later, (frame.exec input store).next = .running (.origin later) ∧ later.EndsRevocation) ∨
      (frame.exec input store).next = .returned (.revokedOrigin true) := by
  cases frame with
  | revokeByTenant owner revoked => exact Or.inl ⟨_, rfl, trivial⟩
  | revokeStillOwned revoked =>
      simp only [OriginFrame.exec]
      split
      · exact Or.inr rfl
      · exact Or.inl ⟨_, rfl, trivial⟩
  | revokeAny revoked => exact Or.inr rfl
  | registerInsert | registerAny | registerByTenant | revokeSelect | revokeDelete =>
      exact near.elim

theorem OriginFrame.EndsRevocation.answer {store after : Store} {frame : OriginFrame}
    {result : Result} {inputs : List Input} (near : frame.EndsRevocation)
    (ends : solo (Frame.settled hashKey writes) inputs store (.origin frame) =
      some (after, result)) : result = .revokedOrigin true := by
  refine solo_result (fun _ frame => ∃ mine : OriginFrame, frame = .origin mine ∧
    mine.EndsRevocation) (fun result => result = .revokedOrigin true) ?_ ?_
    ⟨frame, rfl, near⟩ ends
  · intro input store frame later ⟨mine, same, near⟩ goes
    subst frame
    have moved : (mine.exec input store).next = .running later := goes
    rcases near.moves with ⟨next, moves, nearer⟩ | moves
    · rw [moves] at moved
      cases moved
      exact ⟨next, rfl, nearer⟩
    · rw [moves] at moved
      cases moved
  · intro input store frame result ⟨mine, same, near⟩ returns
    subst frame
    have moved : (mine.exec input store).next = .returned result := returns
    rcases near.moves with ⟨next, moves, _⟩ | moves
    · rw [moves] at moved
      cases moved
    · rw [moves] at moved
      cases moved
      rfl

/-- The answer of `revoke_origin`, by its two statements. -/
theorem revokeOrigin_answer {store after : Store} {id : String} {input : Input}
    {inputs : List Input} {result : Result}
    (ends : solo (Frame.settled hashKey writes) (input :: inputs) store
      (.origin (.revokeSelect tenantId id)) = some (after, result)) :
    result =
      if input.sql = false then .err
      else if store.pool.selectOrigin id tenantId = none then .revokedOrigin false
      else if inputs.head?.map Input.sql = some false then .err
      else .revokedOrigin true := by
  cases sql : input.sql with
  | false =>
      simp only [solo, Frame.settled, Frame.exec, OriginFrame.exec, sql] at ends
      cases ends
      rfl
  | true =>
      cases selected : store.pool.selectOrigin id tenantId with
      | none =>
          simp only [solo, Frame.settled, Frame.exec, OriginFrame.exec, sql, selected] at ends
          cases ends
          rfl
      | some origin =>
          have goes : ((Frame.origin (.revokeSelect tenantId id)).exec hashKey input store).next =
              .running (.origin (.revokeDelete tenantId id origin)) := by
            simp [Frame.exec, OriginFrame.exec, sql, selected]
          rw [solo_running (Frame.settled_running goes)] at ends
          cases inputs with
          | nil => cases ends
          | cons later inputs =>
              cases sqlLater : later.sql with
              | false =>
                  simp only [solo, Frame.settled, Frame.exec, OriginFrame.exec, Input.execute,
                    sqlLater] at ends
                  cases ends
                  simp [sqlLater]
              | true =>
                  have deletes : ((Frame.origin (.revokeDelete tenantId id origin)).exec hashKey
                      later ((Frame.origin (.revokeSelect tenantId id)).exec hashKey input
                        store).store).next =
                        .running (.origin (.revokeByTenant tenantId origin)) := by
                    simp [Frame.exec, OriginFrame.exec, Input.execute, sqlLater]
                  rw [solo_running (Frame.settled_running deletes)] at ends
                  have near : (OriginFrame.revokeByTenant tenantId origin).EndsRevocation :=
                    trivial
                  simpa [sqlLater] using near.answer ends

theorem revokeOrigin_alike {id : String} (agree : left.AgreeOn tenantId right)
    (inputs : List.Forall₂ (fun input other : Input => input.sql = other.sql) lefts rights)
    (ends : left.perform hashKey writes lefts (.revokeOrigin tenantId id) =
      some (leftAfter, leftAnswer))
    (ends' : right.perform hashKey writes rights (.revokeOrigin tenantId id) =
      some (rightAfter, rightAnswer)) : leftAnswer = rightAnswer := by
  obtain ⟨⟨last, result⟩, ran, same⟩ := Option.map_eq_some_iff.mp ends
  obtain ⟨⟨last', result'⟩, ran', same'⟩ := Option.map_eq_some_iff.mp ends'
  obtain ⟨_, rfl⟩ := Prod.mk.inj same
  obtain ⟨_, rfl⟩ := Prod.mk.inj same'
  refine congrArg Answer.result ?_
  cases inputs with
  | nil => cases ran
  | @cons input input' lefts rights sql rest =>
      have heads : lefts.head?.map Input.sql = rights.head?.map Input.sql := by
        cases rest with
        | nil => rfl
        | cons sqlLater _ => exact congrArg some sqlLater
      rw [revokeOrigin_answer ran, revokeOrigin_answer ran', sql, heads, agree.selectOrigin id]

end Answers

namespace World

variable [Driver] {hashKey : String → String} {world : World} {input : Input}

theorem FreshInput.unused (fresh : world.FreshInput input) (owned : KeysOwned hashKey world)
    (injective : Function.Injective hashKey) : world.store.Unused hashKey input :=
  ⟨fresh.keyId, fresh.originId, owned.unstored injective fresh.rawKey⟩

theorem filed (owned : KeysOwned hashKey world) (placed : world.store.KeysPlaced) :
    world.store.Filed :=
  ⟨placed, fun _ _ stored => (owned.cached stored).1⟩

end World

/-- What the lists of inputs have in common, input by input. -/
theorem paired_inputs [Driver] {hashKey : String → String} {sameDraws : Prop} {left right : Store}
    {lefts rights : List Input}
    (sql : List.Forall₂ (fun input other : Input => input.sql = other.sql) lefts rights)
    (unused : ∀ input ∈ lefts, left.Unused hashKey input)
    (unused' : ∀ input ∈ rights, right.Unused hashKey input)
    (draws : sameDraws → List.Forall₂ Input.SameDraws lefts rights) :
    List.Forall₂ (Input.Paired hashKey sameDraws left right) lefts rights := by
  induction sql with
  | nil => exact .nil
  | @cons input other lefts rights sameSql _ induction =>
      have first : sameDraws → input.SameDraws other := by
        intro same
        cases draws same with
        | cons drawn _ => exact drawn
      have rest : sameDraws → List.Forall₂ Input.SameDraws lefts rights := by
        intro same
        cases draws same with
        | cons _ drawn => exact drawn
      refine .cons
        ⟨sameSql, first, unused input List.mem_cons_self, unused' other List.mem_cons_self⟩
        (induction ?_ ?_ rest)
      · intro later member
        exact unused later (List.mem_cons_of_mem _ member)
      · intro later member
        exact unused' later (List.mem_cons_of_mem _ member)

theorem TenantOp.indistinct_of_determined [Driver] {hashKey : String → String} {left right : World}
    {tenantId : String} (injective : Function.Injective hashKey) (owned : KeysOwned hashKey left)
    (owned' : KeysOwned hashKey right) (placed : left.store.KeysPlaced)
    (placed' : right.store.KeysPlaced) (agree : left.store.AgreeOn tenantId right.store)
    (op : TenantOp) (determined : op.Determined tenantId left.store right.store) :
    op.Indistinct hashKey left right tenantId := by
  intro writes lefts rights sql fresh fresh' leftAfter leftAnswer rightAfter rightAnswer ends ends'
  have filed := World.filed owned placed
  have filed' := World.filed owned' placed'
  have inputs : List.Forall₂ (Input.Paired hashKey (List.Forall₂ Input.SameDraws lefts rights)
      left.store right.store) lefts rights :=
    paired_inputs sql (fun input member => (fresh input member).unused owned injective)
      (fun input member => (fresh' input member).unused owned' injective) fun same => same
  cases op with
  | listKeys =>
      cases ends
      cases ends'
      rw [agree.listKeys determined]
      exact .refl _
  | listOrigins =>
      cases ends
      cases ends'
      rw [agree.listOrigins]
      exact .refl _
  | createKey label role expiresAt =>
      exact Store.perform_alike agree filed filed' inputs
        (.createInsert label role expiresAt determined) ends ends'
  | revokeKey id =>
      exact Store.perform_alike agree filed filed' inputs (.revokeFind id determined) ends ends'
  | rotateKey id =>
      exact Store.perform_alike agree filed filed' inputs
        (.rotateFind id determined.1 determined.2) ends ends'
  | registerOrigin origin =>
      exact Store.perform_alike agree filed filed' inputs (.registerInsert origin) ends ends'
  | revokeOrigin id =>
      rw [revokeOrigin_alike agree sql ends ends']
      exact .refl _
  | tryConsumeQuota =>
      exact Store.perform_alike agree filed filed' inputs .consumeQuota ends ends'

end SpellServer
