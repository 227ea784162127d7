import SpellServer.Store.SharedDatabase

/-!
# Rotation by another process

The server learns of a reset when an authentication misses its cache and stores
the record it has loaded.  That record may be out of date by then;
`storesCurrent` is the condition on a step that excludes it.
-/

namespace SpellServer

open Library

/-! ## What every shared run keeps -/

namespace TwoProcesses

variable [Driver] {hashKey : String → String} {world next : TwoProcesses} {id old new : String}

theorem Earlier.old_issued (earlier : world.Earlier id old new) : (id, old) ∈ world.issued := by
  obtain ⟨before, after, split, member⟩ := earlier
  rw [issued, split, ← List.append_assoc]
  exact List.mem_append_left _ member

theorem Earlier.new_issued (earlier : world.Earlier id old new) : (id, new) ∈ world.issued := by
  obtain ⟨before, after, split, _⟩ := earlier
  rw [issued, split]
  exact List.mem_append_right _ (List.mem_append_right _ List.mem_cons_self)

theorem Earlier.ne (earlier : world.Earlier id old new)
    (raws : (world.issued.map Prod.snd).Nodup) : old ≠ new := by
  obtain ⟨before, after, split, member⟩ := earlier
  rw [issued, split, ← List.append_assoc, List.map_append, List.map_cons] at raws
  have apart := List.disjoint_of_nodup_append raws
  intro same
  subst same
  exact apart (List.mem_map.mpr ⟨_, member, rfl⟩) List.mem_cons_self

/-- Only what is issued is ordered. -/
theorem Earlier.of_issue {value : String × String} (issuedBefore : next.issuedBefore = world.issuedBefore)
    (resets : next.resets = world.resets ++ [value]) (differs : new ≠ value.2)
    (earlier : next.Earlier id old new) : world.Earlier id old new := by
  obtain ⟨before, after, split, member⟩ := earlier
  rw [resets] at split
  rw [issuedBefore] at member
  rcases List.eq_nil_or_concat after with rfl | ⟨rest, last, rfl⟩
  · have ends := (List.append_inj' split rfl).2
    cases ends
    exact absurd rfl differs
  · rw [List.concat_eq_append, ← List.cons_append, ← List.append_assoc] at split
    exact ⟨before, rest, (List.append_inj' split rfl).1, member⟩

structure Rotations (hashKey : String → String) (world : TwoProcesses) : Prop where
  healthy : world.server.keysPoisoned = false
  raws : (world.issued.map Prod.snd).Nodup
  rows : ∀ row ∈ world.server.pool.apiKeys, ∃ rawKey, (row.id, rawKey) ∈ world.issued ∧
    hashKey rawKey = row.keyHash
  /-- A row never goes back to a value from before a reset. -/
  latest : ∀ row ∈ world.server.pool.apiKeys, ∀ old new, world.Earlier row.id old new →
    row.keyHash ≠ hashKey old
  cached : ∀ hash record, world.server.keys.lookup hash = some record →
    ∃ rawKey, (record.id, rawKey) ∈ world.issued ∧ hashKey rawKey = hash
  single : ∀ hash other record twin, world.server.keys.lookup hash = some record →
    world.server.keys.lookup other = some twin → record.id = twin.id → hash = other
  fit : ∀ ticket rawKey frame,
    world.calls.lookup ticket = some { op := rawKey, status := .running frame } →
    ∃ mine, frame = .key mine ∧ mine.ServesAuthenticate (hashKey rawKey) rawKey
  resetting : ∀ process cli frame, world.clis.lookup process = some cli →
    cli.status = .running frame → ∃ mine, frame = .key mine ∧ mine.ServesReset
  /-- Once a value has been accepted, the earlier ones are out of the cache. -/
  settled : ∀ ticket rawKey record,
    world.calls.Returned ticket rawKey (.authenticated (some record)) →
    rawKey ∈ world.issued.map Prod.snd ∧
      ∀ id old, world.Earlier id old rawKey → world.server.keys.lookup (hashKey old) = none

namespace Rotations

theorem owner_unique (rotations : Rotations hashKey world) {other rawKey : String}
    (mine : (id, rawKey) ∈ world.issued) (theirs : (other, rawKey) ∈ world.issued) :
    id = other :=
  congrArg Prod.fst (List.inj_on_of_nodup_map rotations.raws mine theirs rfl)

/-- No row has the hash of an earlier value. -/
theorem row_current (rotations : Rotations hashKey world) (injective : Function.Injective hashKey)
    (earlier : world.Earlier id old new) {row : ApiKeyRow}
    (member : row ∈ world.server.pool.apiKeys) : row.keyHash ≠ hashKey old := by
  intro same
  obtain ⟨rawKey, issued, hashed⟩ := rotations.rows row member
  have sameRaw : rawKey = old := injective (hashed.trans same)
  subst sameRaw
  have owner : row.id = id := rotations.owner_unique issued earlier.old_issued
  exact rotations.latest row member rawKey new (owner ▸ earlier) same

/-- A cached value has no earlier value beside it. -/
theorem cached_alone (rotations : Rotations hashKey world)
    (injective : Function.Injective hashKey) {record : KeyRecord}
    (found : world.server.keys.lookup (hashKey new) = some record)
    (earlier : world.Earlier id old new) : world.server.keys.lookup (hashKey old) = none := by
  cases other : world.server.keys.lookup (hashKey old) with
  | none => rfl
  | some twin =>
      obtain ⟨rawNew, issuedNew, hashedNew⟩ := rotations.cached _ _ found
      obtain ⟨rawOld, issuedOld, hashedOld⟩ := rotations.cached _ _ other
      cases injective hashedNew
      cases injective hashedOld
      have sameId : record.id = twin.id :=
        (rotations.owner_unique issuedNew earlier.new_issued).trans
          (rotations.owner_unique issuedOld earlier.old_issued).symm
      have sameHash := rotations.single _ _ _ _ found other sameId
      exact absurd (injective sameHash).symm (earlier.ne rotations.raws)

theorem authenticate (rotations : Rotations hashKey world) {ticket : ℕ} {rawKey : String}
    (taken : world.step hashKey (.authenticate ticket rawKey) = some next) :
    Rotations hashKey next := by
  by_cases free : (world.calls.lookup ticket).isNone = true
  · simp only [step, free, if_true, Option.some.injEq] at taken
    subst next
    refine { rotations with fit := ?_, settled := ?_ }
    · intro other presented frame found
      simp only [Calls.start, Dict.lookup_insert_ite] at found
      split at found
      · cases found
        exact ⟨_, rfl, rfl⟩
      · exact rotations.fit other presented frame found
    · intro other presented record returned
      simp only [Calls.Returned, Calls.start, Dict.lookup_insert_ite] at returned
      split at returned
      · cases returned
      · exact rotations.settled other presented record returned
  · simp [step, free] at taken

/-- A call moves on in a store that it leaves as it was. -/
theorem advance (rotations : Rotations hashKey world) {ticket : ℕ} {rawKey : String}
    {frame : Frame} {status : Status Frame Result}
    (stored : world.calls.lookup ticket = some { op := rawKey, status := .running frame })
    (fits : ∀ later, status = .running later →
      ∃ mine, later = .key mine ∧ mine.ServesAuthenticate (hashKey rawKey) rawKey)
    (settles : ∀ record, status = .returned (.authenticated (some record)) →
      rawKey ∈ world.issued.map Prod.snd ∧
        ∀ id old, world.Earlier id old rawKey → world.server.keys.lookup (hashKey old) = none) :
    Rotations hashKey { world with calls := world.calls.advance ticket status } := by
  refine { rotations with fit := ?_, settled := ?_ }
  · intro other presented later found
    simp only [Calls.lookup_advance, stored] at found
    split at found
    · cases found
      exact fits later rfl
    · exact rotations.fit other presented later found
  · intro other presented record returned
    simp only [Calls.Returned, Calls.lookup_advance, stored] at returned
    split at returned
    · cases returned
      exact settles record rfl
    · exact rotations.settled other presented record returned

/-- A record whose row has not moved on enters the cache. -/
theorem store (rotations : Rotations hashKey world) (injective : Function.Injective hashKey)
    {rawKey : String} {record : KeyRecord} {row : ApiKeyRow}
    (member : row ∈ world.server.pool.apiKeys) (sameId : row.id = record.id)
    (filed : row.keyHash = hashKey rawKey) :
    Rotations hashKey
      { world with
        server :=
          { world.server with
            keys := AList.insert (hashKey rawKey) record
              (world.server.keys.retain fun _ other => other.id ≠ record.id) } } := by
  have retained : ∀ hash twin, AList.lookup hash
      (AList.insert (hashKey rawKey) record
        (world.server.keys.retain fun _ other => other.id ≠ record.id)) = some twin →
      (hash = hashKey rawKey ∧ twin = record) ∨
        (hash ≠ hashKey rawKey ∧ world.server.keys.lookup hash = some twin ∧
          twin.id ≠ record.id) := by
    intro hash twin found
    rw [Dict.lookup_insert_ite] at found
    by_cases same : hash = hashKey rawKey
    · rw [if_pos same, Option.some.injEq] at found
      exact Or.inl ⟨same, found.symm⟩
    · rw [if_neg same] at found
      obtain ⟨before, kept⟩ := Dict.lookup_of_retain found
      exact Or.inr ⟨same, before, of_decide_eq_true kept⟩
  refine { rotations with cached := ?_, single := ?_, settled := ?_ }
  · intro hash twin found
    rcases retained hash twin found with ⟨rfl, rfl⟩ | ⟨_, before, _⟩
    · obtain ⟨issuedRaw, issued, hashed⟩ := rotations.rows row member
      exact ⟨issuedRaw, sameId ▸ issued, hashed.trans filed⟩
    · exact rotations.cached hash twin before
  · intro hash other first second found foundOther sameIds
    rcases retained hash first found with ⟨rfl, rfl⟩ | ⟨_, before, apart⟩
    · rcases retained other second foundOther with ⟨rfl, _⟩ | ⟨_, _, apartOther⟩
      · rfl
      · exact absurd sameIds.symm apartOther
    · rcases retained other second foundOther with ⟨_, rfl⟩ | ⟨_, beforeOther, _⟩
      · exact absurd sameIds apart
      · exact rotations.single hash other first second before beforeOther sameIds
  · intro ticket presented accepted returned
    obtain ⟨issued, emptied⟩ := rotations.settled ticket presented accepted returned
    refine ⟨issued, ?_⟩
    intro id old earlier
    cases found : AList.lookup (hashKey old) (AList.insert (hashKey rawKey) record
        (world.server.keys.retain fun _ other => other.id ≠ record.id)) with
    | none => rfl
    | some twin =>
        rcases retained _ _ found with ⟨same, _⟩ | ⟨_, before, _⟩
        · exact absurd (filed.trans same.symm) (rotations.row_current injective earlier member)
        · rw [emptied id old earlier] at before
          cases before

theorem serverActs (rotations : Rotations hashKey world)
    (injective : Function.Injective hashKey) {ticket : ℕ} {input : Input}
    (current : world.storesCurrent (.serverActs ticket input) = true)
    (taken : world.step hashKey (.serverActs ticket input) = some next) :
    Rotations hashKey next := by
  obtain ⟨frame, running, rfl⟩ := Option.map_eq_some_iff.mp taken
  obtain ⟨rawKey, stored⟩ := Calls.frameAt_eq_some_iff.mp running
  obtain ⟨mine, rfl, serves⟩ := rotations.fit ticket rawKey frame stored
  have effect := KeyFrame.authEffect input rotations.healthy serves
  change AuthEffect hashKey world.server rawKey mine
    (Frame.exec hashKey input world.server (.key mine)) at effect
  generalize Frame.exec hashKey input world.server (.key mine) = outcome at effect ⊢
  cases effect with
  | hit found =>
      apply rotations.advance stored
      · intro later goes
        cases goes
      · intro record returned
        obtain ⟨issuedRaw, issued, hashed⟩ := rotations.cached _ _ found
        cases injective hashed
        exact ⟨List.mem_map.mpr ⟨_, issued, rfl⟩,
          fun id old earlier => rotations.cached_alone injective found earlier⟩
  | missed now =>
      apply rotations.advance stored
      · intro later goes
        cases goes
        exact ⟨_, rfl, rfl⟩
      · intro record returned
        cases returned
  | refused now =>
      apply rotations.advance stored
      · intro later goes
        cases goes
      · intro record returned
        cases returned
  | loaded member filed =>
      apply rotations.advance stored
      · intro later goes
        cases goes
        exact ⟨_, rfl, rfl⟩
      · intro record returned
        cases returned
  | stored record =>
      simp only [storesCurrent, running, List.any_eq_true, Bool.and_eq_true,
        decide_eq_true_eq] at current
      obtain ⟨row, member, sameId, filed⟩ := current
      have after := rotations.store injective member sameId filed
      apply after.advance stored
      · intro later goes
        cases goes
      · intro other returned
        have found : AList.lookup (hashKey rawKey) (AList.insert (hashKey rawKey) record
            (world.server.keys.retain fun _ other => other.id ≠ record.id)) = some record :=
          AList.lookup_insert _
        obtain ⟨issuedRaw, issued, hashed⟩ := after.cached _ _ found
        cases injective hashed
        exact ⟨List.mem_map.mpr ⟨_, issued, rfl⟩,
          fun id old earlier => after.cached_alone injective found earlier⟩

theorem openForCli (rotations : Rotations hashKey world) {process : ℕ}
    (taken : world.step hashKey (.openForCli process) = some next) : Rotations hashKey next := by
  by_cases free : (world.clis.lookup process).isNone = true
  · simp only [step, free, if_true, Option.some.injEq] at taken
    subst next
    refine { rotations with resetting := ?_ }
    intro other cli frame found running
    rw [Dict.lookup_insert_ite] at found
    split at found
    · cases found
      cases running
      exact ⟨_, rfl, trivial⟩
    · exact rotations.resetting other cli frame found running
  · simp [step, free] at taken

/-- The database takes a fresh value for one id. -/
theorem issue (rotations : Rotations hashKey world) (injective : Function.Injective hashKey)
    {pool : Database} {clis : Dict ℕ CliProcess} {owner rawKey : String}
    (fresh : rawKey ∉ world.issued.map Prod.snd)
    (rows : ∀ row ∈ pool.apiKeys, (row ∈ world.server.pool.apiKeys ∧ row.id ≠ owner) ∨
      (row.id = owner ∧ row.keyHash = hashKey rawKey))
    (resetting : ∀ process cli frame, clis.lookup process = some cli →
      cli.status = .running frame → ∃ mine, frame = .key mine ∧ mine.ServesReset) :
    Rotations hashKey
      { world with
        server := { world.server with pool }
        clis
        resets := world.resets ++ [(owner, rawKey)] } := by
  generalize target : ({ world with
    server := { world.server with pool }
    clis
    resets := world.resets ++ [(owner, rawKey)] } : TwoProcesses) = later
  have sameBefore : later.issuedBefore = world.issuedBefore := by rw [← target]
  have sameKeys : later.server.keys = world.server.keys := by rw [← target]
  have appended : later.resets = world.resets ++ [(owner, rawKey)] := by rw [← target]
  have issued : later.issued = world.issued ++ [(owner, rawKey)] := by
    rw [TwoProcesses.issued, appended, sameBefore, ← List.append_assoc]
    rfl
  have kept : ∀ value, value ∈ world.issued → value ∈ later.issued := by
    intro value member
    rw [issued]
    exact List.mem_append_left _ member
  have added : (owner, rawKey) ∈ later.issued := by
    rw [issued]
    exact List.mem_append_right _ (List.mem_singleton.mpr rfl)
  have raws : (later.issued.map Prod.snd).Nodup := by
    rw [issued]
    exact nodup_map_append_singleton rotations.raws fresh
  have before : ∀ {id old new}, new ≠ rawKey → later.Earlier id old new →
      world.Earlier id old new :=
    fun differs earlier => earlier.of_issue sameBefore appended differs
  have members : ∀ row ∈ later.server.pool.apiKeys,
      (row ∈ world.server.pool.apiKeys ∧ row.id ≠ owner) ∨
        (row.id = owner ∧ row.keyHash = hashKey rawKey) := by
    rw [← target]
    exact rows
  have owned : ∀ {id}, (id, rawKey) ∈ later.issued → id = owner := fun member =>
    congrArg Prod.fst (List.inj_on_of_nodup_map raws member added rfl)
  constructor
  · rw [← target]
    exact rotations.healthy
  · exact raws
  · intro row member
    rcases members row member with ⟨old, _⟩ | ⟨rfl, filed⟩
    · obtain ⟨oldRaw, oldIssued, hashed⟩ := rotations.rows row old
      exact ⟨oldRaw, kept _ oldIssued, hashed⟩
    · exact ⟨rawKey, added, filed.symm⟩
  · intro row member old new earlier
    by_cases newest : new = rawKey
    · subst newest
      have mine := owned earlier.new_issued
      rcases members row member with ⟨_, other⟩ | ⟨_, filed⟩
      · exact absurd mine other
      · rw [filed]
        intro same
        exact earlier.ne raws (injective same).symm
    · have past := before newest earlier
      rcases members row member with ⟨there, _⟩ | ⟨_, filed⟩
      · exact rotations.latest row there old new past
      · rw [filed]
        intro same
        apply fresh
        rw [injective same]
        exact List.mem_map.mpr ⟨_, past.old_issued, rfl⟩
  · intro hash record found
    rw [sameKeys] at found
    obtain ⟨oldRaw, oldIssued, hashed⟩ := rotations.cached hash record found
    exact ⟨oldRaw, kept _ oldIssued, hashed⟩
  · rw [sameKeys]
    exact rotations.single
  · rw [← target]
    exact rotations.fit
  · rw [← target]
    exact resetting
  · intro ticket accepted record returned
    have returnedBefore : world.calls.Returned ticket accepted (.authenticated (some record)) := by
      rw [← target] at returned
      exact returned
    obtain ⟨acceptedIssued, emptied⟩ := rotations.settled ticket accepted record returnedBefore
    constructor
    · obtain ⟨value, member, rfl⟩ := List.mem_map.mp acceptedIssued
      exact List.mem_map.mpr ⟨value, kept value member, rfl⟩
    · intro id old earlier
      rw [sameKeys]
      apply emptied id old
      apply before _ earlier
      intro same
      exact fresh (same ▸ acceptedIssued)

theorem cliActs (rotations : Rotations hashKey world) (injective : Function.Injective hashKey)
    {process : ℕ} {input : Input}
    (taken : world.step hashKey (.cliActs process input) = some next) :
    Rotations hashKey next := by
  by_cases used : input.rawKey ∈ world.issued.map Prod.snd
  · simp [step, used] at taken
  · simp only [step, used, if_false] at taken
    obtain ⟨cli, opened, acting⟩ := Option.bind_eq_some_iff.mp taken
    obtain ⟨frame, running, rfl⟩ := Option.map_eq_some_iff.mp acting
    cases status : cli.status with
    | returned result => simp [status, Status.frame?] at running
    | running current =>
        rw [status] at running
        cases running
        obtain ⟨mine, rfl, serves⟩ := rotations.resetting process cli _ opened status
        have effect : ResetEffect hashKey input { cli.store with pool := world.server.pool }
            (Frame.exec hashKey input { cli.store with pool := world.server.pool } (.key mine)) :=
          KeyFrame.resetEffect serves
        generalize Frame.exec hashKey input { cli.store with pool := world.server.pool }
          (.key mine) = outcome at effect ⊢
        have resetting : ∀ other later frame,
            (world.clis.insert process { store := outcome.store, status := outcome.next }).lookup
              other = some later →
            later.status = .running frame → ∃ mine, frame = .key mine ∧ mine.ServesReset := by
          intro other later frame found goes
          rw [Dict.lookup_insert_ite] at found
          split at found
          · cases found
            exact effect.serves frame goes
          · exact rotations.resetting other later frame found goes
        rcases effect.rows with ⟨rows, nothing⟩ | ⟨owner, value, rows⟩
        · rw [nothing, List.append_nil]
          refine { rotations with rows := ?_, latest := ?_, resetting := resetting }
          · intro row member
            exact rotations.rows row (rows ▸ member)
          · intro row member
            exact rotations.latest row (rows ▸ member)
        · rw [value]
          exact rotations.issue injective used rows resetting

theorem step {event : SharedEvent} (rotations : Rotations hashKey world)
    (injective : Function.Injective hashKey) (current : world.storesCurrent event = true)
    (taken : world.step hashKey event = some next) : Rotations hashKey next := by
  cases event with
  | authenticate ticket rawKey => exact rotations.authenticate taken
  | serverActs ticket input => exact rotations.serverActs injective current taken
  | openForCli process => exact rotations.openForCli taken
  | cliActs process input => exact rotations.cliActs injective taken

end Rotations

/-! ## Later authentications -/

/-- A call for an earlier value can only be refused. -/
def Doomed (hashKey : String → String) (rawKey : String) (status : Status Frame Result) : Prop :=
  status = .running (.key (.authLookup rawKey)) ∨
    (∃ now, status = .running (.key (.authLoad (hashKey rawKey) now))) ∨
    status = .returned (.authenticated none)

/-- The newer value has been accepted, and a call for the earlier one has not
got anywhere since. -/
structure Overtaken (hashKey : String → String) (world : TwoProcesses) (id old new : String)
    (first second : ℕ) : Prop where
  rotations : Rotations hashKey world
  earlier : world.Earlier id old new
  accepted : ∃ record, world.calls.Returned first new (.authenticated (some record))
  doomed : ∀ status, world.calls.lookup second = some { op := old, status } →
    Doomed hashKey old status

theorem Earlier.step {event : SharedEvent} (earlier : world.Earlier id old new)
    (taken : world.step hashKey event = some next) : next.Earlier id old new := by
  obtain ⟨sameBefore, extra, resets⟩ := step_issues taken
  obtain ⟨before, after, split, member⟩ := earlier
  refine ⟨before, after ++ extra, ?_, sameBefore ▸ member⟩
  rw [resets, split, List.append_assoc, List.cons_append]

/-- A finished call stays as it is. -/
theorem returned_kept {event : SharedEvent} (taken : world.step hashKey event = some next)
    {ticket : ℕ} {rawKey : String} {result : Result}
    (returned : world.calls.Returned ticket rawKey result) :
    next.calls.Returned ticket rawKey result := by
  rcases step_calls taken with ⟨other, presented, free, started⟩ |
    ⟨other, input, frame, running, moved⟩ | same
  · rw [started, Calls.Returned, Calls.start, Dict.lookup_insert_ite, if_neg]
    · exact returned
    · intro same
      rw [← same, returned] at free
      cases free
  · rw [moved, Calls.Returned, Calls.lookup_advance, if_neg]
    · exact returned
    · intro same
      rw [← same, returned.frameAt] at running
      cases running
  · rw [same]
    exact returned

/-- Neither the cache nor the table knows the earlier value. -/
theorem Doomed.exec (rotations : Rotations hashKey world)
    (injective : Function.Injective hashKey) (earlier : world.Earlier id old new)
    (emptied : world.server.keys.lookup (hashKey old) = none) (input : Input) {frame : Frame}
    (doomed : Doomed hashKey old (.running frame)) :
    Doomed hashKey old (frame.exec hashKey input world.server).next := by
  rcases doomed with looking | ⟨now, loading⟩ | finished
  · cases looking
    have serves : (KeyFrame.authLookup old).ServesAuthenticate (hashKey old) old := rfl
    have effect := KeyFrame.authEffect input rotations.healthy serves
    change Doomed hashKey old ((KeyFrame.authLookup old).exec hashKey input world.server).next
    generalize (KeyFrame.authLookup old).exec hashKey input world.server = outcome at effect ⊢
    cases effect with
    | hit found => cases emptied.symm.trans found
    | missed now => exact Or.inr (Or.inl ⟨now, rfl⟩)
  · cases loading
    have serves : (KeyFrame.authLoad (hashKey old) now).ServesAuthenticate (hashKey old) old := rfl
    have effect := KeyFrame.authEffect input rotations.healthy serves
    change Doomed hashKey old
      ((KeyFrame.authLoad (hashKey old) now).exec hashKey input world.server).next
    generalize (KeyFrame.authLoad (hashKey old) now).exec hashKey input world.server = outcome
      at effect ⊢
    cases effect with
    | refused => exact Or.inr (Or.inr rfl)
    | loaded member filed => exact absurd filed (rotations.row_current injective earlier member)
  · cases finished

theorem Overtaken.step {first second : ℕ} {event : SharedEvent}
    (overtaken : Overtaken hashKey world id old new first second)
    (injective : Function.Injective hashKey) (current : world.storesCurrent event = true)
    (taken : world.step hashKey event = some next) :
    Overtaken hashKey next id old new first second := by
  obtain ⟨record, returned⟩ := overtaken.accepted
  refine ⟨overtaken.rotations.step injective current taken, overtaken.earlier.step taken,
    ⟨record, returned_kept taken returned⟩, ?_⟩
  intro status found
  rcases step_calls taken with ⟨ticket, rawKey, _, started⟩ |
    ⟨ticket, input, frame, running, moved⟩ | same
  · rw [started, Calls.start, Dict.lookup_insert_ite] at found
    split at found
    · cases found
      exact Or.inl rfl
    · exact overtaken.doomed status found
  · rw [moved, Calls.lookup_advance] at found
    split at found
    · rename_i same
      subst same
      obtain ⟨rawKey, stored⟩ := Calls.frameAt_eq_some_iff.mp running
      have parts : rawKey = old ∧ (frame.exec hashKey input world.server).next = status := by
        simpa [stored] using found
      obtain ⟨sameOp, rfl⟩ := parts
      rw [sameOp] at stored
      exact (overtaken.doomed _ stored).exec overtaken.rotations injective overtaken.earlier
        ((overtaken.rotations.settled first new record returned).2 id old overtaken.earlier) input
    · exact overtaken.doomed status found
  · rw [same] at found
    exact overtaken.doomed status found

/-! ## The start -/

/-- A server that a restart has just opened, on a database the program wrote. -/
def Started (hashKey : String → String) (world : TwoProcesses) : Prop :=
  ∃ before now input opened, World.Reachable hashKey before ∧
    before.step hashKey (.restart now input) = some opened ∧ world = ofOpened opened

end TwoProcesses

/-- A fresh cache holds what the table holds. -/
theorem Store.open_rows [Driver] {hashKey : String → String} {now : Clock} {input : Input}
    {pool : Database} {opened : Opened} (success : Store.open hashKey now input pool = some opened)
    {hash : String} {record : KeyRecord} (found : opened.store.keys.lookup hash = some record) :
    ∃ row ∈ opened.store.pool.apiKeys, row.id = record.id ∧ row.keyHash = hash := by
  have reloaded : ∀ {hash record}, (Store.reload pool).keys.lookup hash = some record →
      ∃ row ∈ pool.apiKeys, row.id = record.id ∧ row.keyHash = hash := by
    intro hash record cached
    rw [Store.reload_keys_lookup] at cached
    obtain ⟨row, selected, rfl⟩ := Option.map_eq_some_iff.mp cached
    obtain ⟨member, filed⟩ := findBy_mem selected
    exact ⟨row, member, rfl, filed⟩
  rcases Store.open_cases success with rfl | ⟨inserted, accepted, rfl⟩
  · exact reloaded found
  · obtain ⟨_, rows, _⟩ := Database.insertApiKey_eq_some accepted
    simp only [Dict.lookup_insert_ite] at found
    simp only [rows]
    split at found
    · rename_i same
      cases found
      exact ⟨_, List.mem_append_right _ (List.mem_singleton.mpr rfl), rfl, same.symm⟩
    · obtain ⟨row, member, sameId, filed⟩ := reloaded found
      exact ⟨row, List.mem_append_left _ member, sameId, filed⟩

namespace TwoProcesses

theorem Started.rotations [Driver] {hashKey : String → String} {world : TwoProcesses}
    (started : world.Started hashKey) (injective : Function.Injective hashKey) :
    Rotations hashKey world := by
  obtain ⟨before, now, input, opened, reached, taken, rfl⟩ := started
  have owned := (World.reachable_keysOwned injective reached).step injective taken
  by_cases fresh : before.RawKeyFresh input
  · simp only [World.step, fresh, if_true] at taken
    obtain ⟨result, success, rfl⟩ := Option.map_eq_some_iff.mp taken
    have single : ∀ hash other record twin, result.store.keys.lookup hash = some record →
        result.store.keys.lookup other = some twin → record.id = twin.id → hash = other := by
      intro hash other record twin found foundOther sameId
      obtain ⟨row, member, owner, filed⟩ := Store.open_rows success found
      obtain ⟨rowOther, memberOther, ownerOther, filedOther⟩ := Store.open_rows success foundOther
      have sameRow : row = rowOther :=
        List.inj_on_of_nodup_map result.store.pool.apiKeys_id_unique member memberOther
          ((owner.trans sameId).trans ownerOther.symm)
      rw [← filed, sameRow, filedOther]
    have healthy : result.store.keysPoisoned = false := by
      rcases Store.open_cases success with rfl | ⟨_, _, rfl⟩ <;> rfl
    refine
      { healthy := healthy
        raws := by rw [issued]; simpa [ofOpened] using owned.raws
        rows := ?_
        latest := ?_
        cached := ?_
        single := single
        fit := fun _ _ _ found => by cases found
        resetting := fun _ _ _ found => by cases found
        settled := fun _ _ _ returned => by cases returned }
    · intro row member
      obtain ⟨rawKey, issued, hashed⟩ := owned.rows row member
      exact ⟨rawKey, List.mem_append_left _ issued, hashed⟩
    · intro row member old new earlier
      obtain ⟨first, later, split, _⟩ := earlier
      exact absurd split.symm (by simp [ofOpened])
    · intro hash record found
      obtain ⟨_, rawKey, issued, hashed⟩ := owned.cached found
      exact ⟨rawKey, List.mem_append_left _ issued, hashed⟩
  · simp [World.step, fresh] at taken

end TwoProcesses

/-- In a run that stores only current records, once a value issued by a reset has
been accepted, an authentication of an earlier value of the same key that starts
later is refused. -/
theorem rotated_value_stays_dead [Driver] {hashKey : String → String}
    {start world later : TwoProcesses}
    {events laterEvents : List SharedEvent} {first second : ℕ} {id old new : String}
    {record : KeyRecord} (injective : Function.Injective hashKey)
    (started : start.Started hashKey)
    (run : Run (TwoProcesses.step hashKey)
      (fun before event => before.storesCurrent event = true) start events world)
    (accepted : world.calls.Returned first new (.authenticated (some record)))
    (earlier : world.Earlier id old new) (unmade : world.calls.lookup second = none)
    (laterRun : Run (TwoProcesses.step hashKey)
      (fun before event => before.storesCurrent event = true) world laterEvents later) :
    ∀ result, later.calls.Returned second old result → result = .authenticated none := by
  have kept : ∀ before event after, TwoProcesses.Rotations hashKey before →
      before.storesCurrent event = true → before.step hashKey event = some after →
      TwoProcesses.Rotations hashKey after :=
    fun _ _ _ rotations current taken => rotations.step injective current taken
  have rotations := run.invariant kept (started.rotations injective)
  have preserved : ∀ before event after,
      TwoProcesses.Overtaken hashKey before id old new first second →
      before.storesCurrent event = true → before.step hashKey event = some after →
      TwoProcesses.Overtaken hashKey after id old new first second :=
    fun _ _ _ overtaken current taken => overtaken.step injective current taken
  have doomed : ∀ status, world.calls.lookup second = some { op := old, status } →
      TwoProcesses.Doomed hashKey old status := by
    intro status found
    cases unmade.symm.trans found
  have overtaken := laterRun.invariant preserved ⟨rotations, earlier, ⟨record, accepted⟩, doomed⟩
  intro result returned
  rcases overtaken.doomed _ returned with looking | ⟨_, loading⟩ | finished
  · cases looking
  · cases loading
  · cases finished
    rfl

/-! ## A record that is stored late -/

open scoped DefaultBackend

/-- Open a server on an empty database and carry out two schedules. -/
theorem TwoProcesses.exists_runs (allowed : TwoProcesses → SharedEvent → Bool)
    (events later : List SharedEvent) (check : TwoProcesses → TwoProcesses → Bool)
    (computed : ((World.blank.step sampleHash
        (.restart (sampleInput 0 0).now (sampleInput 0 0))).any fun opened =>
      (runEvents (step sampleHash) allowed (ofOpened opened) events).any fun middle =>
        (runEvents (step sampleHash) allowed middle later).any (check middle)) = true) :
    ∃ start middle finish, Started sampleHash start ∧
      Run (step sampleHash) (fun before event => allowed before event = true) start events
        middle ∧
      Run (step sampleHash) (fun before event => allowed before event = true) middle later
        finish ∧
      check middle finish = true := by
  cases opens : World.blank.step sampleHash (.restart (sampleInput 0 0).now (sampleInput 0 0)) with
  | none => simp [opens] at computed
  | some opened =>
      rw [opens] at computed
      obtain ⟨middle, first, rest⟩ := Run.exists_of_runEvents computed
      obtain ⟨finish, second, checked⟩ := Run.exists_of_runEvents rest
      exact ⟨_, middle, finish, ⟨_, _, _, opened, ⟨[], .nil _⟩, opens, rfl⟩, first, second,
        checked⟩

/-- A whole reset, which generates the given sample key. -/
def externalReset (process key : ℕ) : List SharedEvent :=
  [.openForCli process, .cliActs process (sampleInput 0 4), .cliActs process (sampleInput 0 key),
    .cliActs process (sampleInput 0 4)]

/-- An authentication up to its insertion into the cache. -/
def missedLookup (ticket key : ℕ) : List SharedEvent :=
  [.authenticate ticket (sampleKey key), .serverActs ticket (sampleInput 0 4),
    .serverActs ticket (sampleInput 0 4)]

/-- The record of the first reset is stored after the value of the second has
been accepted. -/
def lateStore : List SharedEvent :=
  externalReset 0 1 ++ missedLookup 1 1 ++ externalReset 1 2 ++ missedLookup 2 2 ++
    [.serverActs 2 (sampleInput 0 4), .serverActs 1 (sampleInput 0 4)]

/-- The record of the first reset is stored before the second. -/
def promptStore : List SharedEvent :=
  externalReset 0 1 ++ missedLookup 1 1 ++ [.serverActs 1 (sampleInput 0 4)] ++
    externalReset 1 2 ++ missedLookup 2 2 ++ [.serverActs 2 (sampleInput 0 4)]

def TwoProcesses.accepts (world : TwoProcesses) (ticket : ℕ) (rawKey : String) : Bool :=
  match world.calls.lookup ticket with
  | some { op, status := .returned (.authenticated (some _)) } => op = rawKey
  | _ => false

theorem TwoProcesses.returned_of_accepts {world : TwoProcesses} {ticket : ℕ} {rawKey : String}
    (checked : world.accepts ticket rawKey = true) :
    ∃ record, world.calls.Returned ticket rawKey (.authenticated (some record)) := by
  unfold accepts at checked
  split at checked
  · rename_i op record found
    exact ⟨record, of_decide_eq_true checked ▸ found⟩
  · cases checked

def TwoProcesses.resetTwice (world : TwoProcesses) : Bool :=
  world.resets = [((sampleId 0).text, sampleKey 1), ((sampleId 0).text, sampleKey 2)]

theorem TwoProcesses.earlier_of_resetTwice {world : TwoProcesses}
    (checked : world.resetTwice = true) :
    world.Earlier (sampleId 0).text (sampleKey 1) (sampleKey 2) :=
  ⟨[((sampleId 0).text, sampleKey 1)], [], of_decide_eq_true checked,
    List.mem_append_right _ List.mem_cons_self⟩

theorem superseded_value_still_accepted :
    ¬∀ hashKey (start world later : TwoProcesses) events laterEvents first second id old new
      record, Function.Injective hashKey → start.Started hashKey →
      Run (TwoProcesses.step hashKey) (fun _ _ => True) start events world →
      world.calls.Returned first new (.authenticated (some record)) →
      world.Earlier id old new → world.calls.lookup second = none →
      Run (TwoProcesses.step hashKey) (fun _ _ => True) world laterEvents later →
      ∀ found, ¬later.calls.Returned second old (.authenticated (some found)) := by
  intro claim
  obtain ⟨start, world, later, started, run, laterRun, checked⟩ :=
    TwoProcesses.exists_runs (fun _ _ => true) lateStore
      [.authenticate 3 (sampleKey 1), .serverActs 3 (sampleInput 0 4)]
      (fun world later => world.resetTwice && world.accepts 2 (sampleKey 2) &&
        decide (world.calls.lookup 3 = none) && later.accepts 3 (sampleKey 1))
      (by decide +kernel)
  simp only [Bool.and_eq_true, decide_eq_true_eq] at checked
  obtain ⟨⟨⟨resets, newAccepted⟩, unmade⟩, oldAccepted⟩ := checked
  obtain ⟨record, returned⟩ := TwoProcesses.returned_of_accepts newAccepted
  obtain ⟨found, returnedOld⟩ := TwoProcesses.returned_of_accepts oldAccepted
  exact claim sampleHash start world later _ _ 2 3 _ _ _ record sampleHash_injective started
    (run.weaken fun _ _ _ => trivial) returned (TwoProcesses.earlier_of_resetTwice resets) unmade
    (laterRun.weaken fun _ _ _ => trivial) found returnedOld

theorem rotated_value_stays_dead_after_prompt_store :
    ∃ world later : TwoProcesses,
      (∃ record, world.calls.Returned 2 (sampleKey 2) (.authenticated (some record))) ∧
      later.calls.Returned 3 (sampleKey 1) (.authenticated none) := by
  obtain ⟨start, world, later, started, run, laterRun, checked⟩ :=
    TwoProcesses.exists_runs TwoProcesses.storesCurrent promptStore (missedLookup 3 1)
      (fun world later => world.resetTwice && world.accepts 2 (sampleKey 2) &&
        decide (world.calls.lookup 3 = none) &&
        (later.calls.lookup 3).any fun call => call.op = sampleKey 1 && call.status.frame?.isNone)
      (by decide +kernel)
  simp only [Bool.and_eq_true, decide_eq_true_eq] at checked
  obtain ⟨⟨⟨resets, newAccepted⟩, unmade⟩, finished⟩ := checked
  obtain ⟨record, returned⟩ := TwoProcesses.returned_of_accepts newAccepted
  refine ⟨world, later, ⟨record, returned⟩, ?_⟩
  cases found : later.calls.lookup 3 with
  | none => simp [found] at finished
  | some call =>
      obtain ⟨op, status⟩ := call
      cases status with
      | running frame => simp [found, Status.frame?] at finished
      | returned result =>
          have sameOp : op = sampleKey 1 := by simpa [found, Status.frame?] using finished
          subst sameOp
          have refused := rotated_value_stays_dead sampleHash_injective started run returned
            (TwoProcesses.earlier_of_resetTwice resets) unmade laterRun result found
          rw [Calls.Returned, found, refused]

end SpellServer
