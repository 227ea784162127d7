import SpellServer.Store.Revocation

/-!
# Two processes on one database

A running server authenticates while command-line processes reset the bootstrap
key in the same database.  Each process has its own caches; the events of all of
them interleave.
-/

namespace SpellServer

open Library

variable [Driver]

/-- A command-line process: its own caches, over the shared database. -/
structure CliProcess where
  store : Store
  status : Status Frame Result

/-- The pool of the server is the shared database.  The last two fields list the
raw keys generated before and by the resets, with their ids; no process keeps
them. -/
structure TwoProcesses where
  server : Store
  calls : Calls String Frame Result
  clis : Dict ℕ CliProcess
  issuedBefore : List (String × String)
  resets : List (String × String)

inductive SharedEvent where
  | authenticate (ticket : ℕ) (rawKey : String)
  | serverActs (ticket : ℕ) (input : Input)
  | openForCli (process : ℕ)
  | cliActs (process : ℕ) (input : Input)
deriving DecidableEq, Repr

namespace TwoProcesses

/-- A server that has just been opened. -/
def ofOpened (world : World) : TwoProcesses :=
  { server := world.store
    calls := ∅
    clis := ∅
    issuedBefore := world.issued
    resets := [] }

def issued (world : TwoProcesses) : List (String × String) := world.issuedBefore ++ world.resets

def step (hashKey : String → String) (world : TwoProcesses) : SharedEvent → Option TwoProcesses
  | .authenticate ticket rawKey =>
      if (world.calls.lookup ticket).isNone then
        some { world with calls := world.calls.start ticket rawKey (Op.authenticate rawKey).entry }
      else none
  | .serverActs ticket input =>
      (world.calls.frameAt ticket).map fun frame =>
        let outcome := frame.exec hashKey input world.server
        { world with
          server := outcome.store
          calls := world.calls.advance ticket outcome.next }
  | .openForCli process =>
      if (world.clis.lookup process).isNone then
        some
          { world with
            clis := world.clis.insert process
              { store := .openForCli world.server.pool
                status := .running Op.resetBootstrapPlatformKey.entry } }
      else none
  | .cliActs process input =>
      if input.rawKey ∈ world.issued.map Prod.snd then none
      else
        (world.clis.lookup process).bind fun cli =>
          cli.status.frame?.map fun frame =>
            let outcome := frame.exec hashKey input { cli.store with pool := world.server.pool }
            { world with
              server := { world.server with pool := outcome.store.pool }
              clis := world.clis.insert process { store := outcome.store, status := outcome.next }
              resets := world.resets ++ outcome.issued }

/-- A record goes into the cache only while its row still has the hash it was
loaded under. -/
def storesCurrent (world : TwoProcesses) : SharedEvent → Bool
  | .serverActs ticket _ =>
      match world.calls.frameAt ticket with
      | some (.key (.authStore hash record)) =>
          world.server.pool.apiKeys.any fun row => row.id = record.id && row.keyHash = hash
      | _ => true
  | _ => true

/-- The new value was issued by a reset, and the old one before it, for the same id. -/
def Earlier (world : TwoProcesses) (id old new : String) : Prop :=
  ∃ before after, world.resets = before ++ (id, new) :: after ∧
    (id, old) ∈ world.issuedBefore ++ before

section Steps

variable {hashKey : String → String} {world next : TwoProcesses} {event : SharedEvent}

/-- Resets are appended to the history, and nothing else happens to it. -/
theorem step_issues (taken : world.step hashKey event = some next) :
    next.issuedBefore = world.issuedBefore ∧ ∃ extra, next.resets = world.resets ++ extra := by
  cases event with
  | authenticate ticket rawKey =>
      simp only [step] at taken
      split at taken <;> cases taken
      exact ⟨rfl, [], (List.append_nil _).symm⟩
  | serverActs ticket input =>
      obtain ⟨frame, _, rfl⟩ := Option.map_eq_some_iff.mp taken
      exact ⟨rfl, [], (List.append_nil _).symm⟩
  | openForCli process =>
      simp only [step] at taken
      split at taken <;> cases taken
      exact ⟨rfl, [], (List.append_nil _).symm⟩
  | cliActs process input =>
      simp only [step] at taken
      split at taken
      · cases taken
      · obtain ⟨cli, _, acting⟩ := Option.bind_eq_some_iff.mp taken
        obtain ⟨frame, _, rfl⟩ := Option.map_eq_some_iff.mp acting
        exact ⟨rfl, _, rfl⟩

/-- A call of the server starts, or moves, or all of them stay where they are. -/
theorem step_calls (taken : world.step hashKey event = some next) :
    (∃ ticket rawKey, world.calls.lookup ticket = none ∧
      next.calls = world.calls.start ticket rawKey (Op.authenticate rawKey).entry) ∨
    (∃ ticket input frame, world.calls.frameAt ticket = some frame ∧
      next.calls =
        world.calls.advance ticket (frame.exec hashKey input world.server).next) ∨
    next.calls = world.calls := by
  cases event with
  | authenticate ticket rawKey =>
      by_cases free : (world.calls.lookup ticket).isNone = true
      · simp only [step, free, if_true, Option.some.injEq] at taken
        subst next
        exact Or.inl ⟨ticket, rawKey, by simpa using free, rfl⟩
      · simp [step, free] at taken
  | serverActs ticket input =>
      obtain ⟨frame, running, rfl⟩ := Option.map_eq_some_iff.mp taken
      exact Or.inr (Or.inl ⟨ticket, input, frame, running, rfl⟩)
  | openForCli process =>
      simp only [step] at taken
      split at taken <;> cases taken
      exact Or.inr (Or.inr rfl)
  | cliActs process input =>
      simp only [step] at taken
      split at taken
      · cases taken
      · obtain ⟨cli, _, acting⟩ := Option.bind_eq_some_iff.mp taken
        obtain ⟨frame, _, rfl⟩ := Option.map_eq_some_iff.mp acting
        exact Or.inr (Or.inr rfl)

end Steps

end TwoProcesses

/-! ## What the processes do -/

/-- The actions of a reset. -/
def KeyFrame.ServesReset : KeyFrame → Prop
  | .resetFind | .createInsert .. | .createCache .. | .rotateUpdate .. | .rotateRekey .. => True
  | _ => False

/-- An action of a reset leaves the rows alone or issues a value for one id. -/
structure ResetEffect (hashKey : String → String) (input : Input) (store : Store)
    (outcome : Outcome) : Prop where
  rows : (outcome.store.pool.apiKeys = store.pool.apiKeys ∧ outcome.issued = []) ∨
    ∃ id, outcome.issued = [(id, input.rawKey)] ∧
      ∀ row ∈ outcome.store.pool.apiKeys,
        (row ∈ store.pool.apiKeys ∧ row.id ≠ id) ∨
          (row.id = id ∧ row.keyHash = hashKey input.rawKey)
  serves : ∀ frame, outcome.next = .running frame →
    ∃ mine, frame = .key mine ∧ mine.ServesReset

section

variable {hashKey : String → String} {input : Input} {store : Store}

theorem ResetEffect.finish (result : Result) {after : Store}
    (rows : after.pool.apiKeys = store.pool.apiKeys) :
    ResetEffect hashKey input store (.finish after result) where
  rows := Or.inl ⟨rows, rfl⟩
  serves _ running := by cases running

theorem ResetEffect.withKeys {body : Outcome} (effect : ResetEffect hashKey input store body) :
    ResetEffect hashKey input store (KeyFrame.withKeys store body) := by
  unfold KeyFrame.withKeys
  split
  · exact .finish .panicked rfl
  · exact effect

theorem KeyFrame.resetEffect {frame : KeyFrame} (serves : frame.ServesReset) :
    ResetEffect hashKey input store (frame.exec hashKey input store) := by
  cases frame with
  | resetFind =>
      apply ResetEffect.withKeys
      split
      · exact ⟨Or.inl ⟨rfl, rfl⟩, fun _ running => by cases running; exact ⟨_, rfl, trivial⟩⟩
      · exact ⟨Or.inl ⟨rfl, rfl⟩, fun _ running => by cases running; exact ⟨_, rfl, trivial⟩⟩
      · exact .finish .err rfl
  | createInsert tenantId label role expiresAt caller =>
      simp only [KeyFrame.exec]
      cases executed : input.execute (store.pool.insertApiKey
          (newApiKeyRow (newApiKey hashKey input tenantId label role expiresAt).record)) with
      | none => exact .finish .err rfl
      | some pool =>
          obtain ⟨fresh, rows, _⟩ :=
            Database.insertApiKey_eq_some (Input.execute_eq_some.mp executed).2
          refine ⟨Or.inr ⟨input.newId.text, rfl, ?_⟩,
            fun _ running => by cases running; exact ⟨_, rfl, trivial⟩⟩
          intro row member
          change row ∈ pool.apiKeys at member
          rw [rows, List.mem_append, List.mem_singleton] at member
          rcases member with old | rfl
          · left
            refine ⟨old, ?_⟩
            intro same
            exact fresh.1 (List.mem_map.mpr ⟨row, old, same⟩)
          · exact Or.inr ⟨rfl, rfl⟩
  | createCache created caller => exact .withKeys (.finish _ rfl)
  | rotateUpdate oldHash id caller =>
      simp only [KeyFrame.exec]
      cases executed : input.execute (store.pool.updateKeyHash id (hashKey input.rawKey)) with
      | none => exact .finish .err rfl
      | some pool =>
          obtain ⟨_, rows, _⟩ :=
            Database.updateKeyHash_eq_some (Input.execute_eq_some.mp executed).2
          refine ⟨Or.inr ⟨id, rfl, ?_⟩,
            fun _ running => by cases running; exact ⟨_, rfl, trivial⟩⟩
          intro row member
          change row ∈ pool.apiKeys at member
          rw [rows] at member
          obtain ⟨old, oldMember, rfl⟩ := List.mem_map.mp member
          by_cases selected : old.id = id
          · right
            simp [selected]
          · left
            simp [selected, oldMember]
  | rotateRekey oldHash newHash rawKey id caller =>
      apply ResetEffect.withKeys
      split
      · exact .finish .panicked rfl
      · exact .finish _ rfl
  | _ => exact serves.elim

/-- A missed record is loaded; a stored one replaces the others of its id. -/
inductive AuthEffect (hashKey : String → String) (store : Store) (rawKey : String) :
    KeyFrame → Outcome → Prop where
  | hit {record : KeyRecord} (found : store.keys.lookup (hashKey rawKey) = some record) :
      AuthEffect hashKey store rawKey (.authLookup rawKey)
        (.finish store (.authenticated (some record)))
  | missed (now : Clock) :
      AuthEffect hashKey store rawKey (.authLookup rawKey)
        (.goto store (.key (.authLoad (hashKey rawKey) now)))
  | refused (now : Clock) :
      AuthEffect hashKey store rawKey (.authLoad (hashKey rawKey) now)
        (.finish store (.authenticated none))
  | loaded {now : Clock} {row : ApiKeyRow} (member : row ∈ store.pool.apiKeys)
      (filed : row.keyHash = hashKey rawKey) :
      AuthEffect hashKey store rawKey (.authLoad (hashKey rawKey) now)
        (.goto store (.key (.authStore (hashKey rawKey) (keyRecordFromRow row))))
  | stored (record : KeyRecord) :
      AuthEffect hashKey store rawKey (.authStore (hashKey rawKey) record)
        (.finish
          { store with
            keys := AList.insert (hashKey rawKey) record
              (store.keys.retain fun _ other => other.id ≠ record.id) }
          (.authenticated (some record)))

theorem KeyFrame.authEffect (input : Input) {rawKey : String} {frame : KeyFrame}
    (healthy : store.keysPoisoned = false)
    (serves : frame.ServesAuthenticate (hashKey rawKey) rawKey) :
    AuthEffect hashKey store rawKey frame (frame.exec hashKey input store) := by
  cases frame with
  | authLookup presented =>
      cases serves
      simp only [KeyFrame.exec, KeyFrame.withKeys_healthy healthy]
      split
      · rename_i record found
        exact .hit (Option.filter_eq_some_iff.mp found).1
      · exact .missed input.now
  | authLoad hash now =>
      cases serves
      simp only [KeyFrame.exec]
      split
      · exact .refused now
      · rename_i row executed
        obtain ⟨member, filed⟩ := findBy_mem (Input.execute_eq_some.mp executed).2
        split
        · exact .loaded member filed
        · exact .refused now
  | authStore hash record =>
      cases serves
      simp only [KeyFrame.exec, KeyFrame.withKeys_healthy healthy]
      exact .stored record
  | _ => exact serves.elim

end

end SpellServer
