import Mathlib.Tactic.SplitIfs
import SpellServer.Store.Keys
import SpellServer.Store.Origins
import SpellServer.Store.Tenants

/-!
# The store under concurrent use

A world is a running server: its store, the spawned writes that have not run,
the calls made so far, and the history of issued raw keys (a ghost: the source
never keeps it).  One event makes a call, lets one call take its next action,
completes a spawned write, or stops the process and opens the database again.
Every interleaving of the store's operations is a run of these events.
-/

namespace SpellServer

open Library

section

variable [Driver]

/-- The public asynchronous interface of `Store`. -/
inductive Op where
  | createKey (tenantId label : String) (role : Role) (expiresAt : Option UInt64)
  | revokeKey (tenantId id : String)
  | rotateKey (tenantId id : String)
  | resetBootstrapPlatformKey
  | authenticate (rawKey : String)
  | touchLastUsed (id : String)
  | createTenant (name : String) (language : Option String)
      (quotaLimit periodStart periodEnd : Option UInt64)
  | updateTenant (id : String) (patch : TenantPatch)
  | tryConsumeQuota (tenantId : String)
  | setSuspended (id : String) (suspended : Bool)
  | registerOrigin (tenantId origin : String)
  | revokeOrigin (tenantId id : String)
  | registerDictionary (code sourceUrl : String)
deriving DecidableEq, Repr

/-- The first action of an operation. -/
def Op.entry : Op → Frame
  | .createKey tenantId label role expiresAt =>
      .key (.createInsert (some tenantId) label role expiresAt .createKey)
  | .revokeKey tenantId id => .key (.revokeFind tenantId id)
  | .rotateKey tenantId id => .key (.rotateFind tenantId id)
  | .resetBootstrapPlatformKey => .key .resetFind
  | .authenticate rawKey => .key (.authLookup rawKey)
  | .touchLastUsed id => .key (.touchFind id)
  | .createTenant name language quotaLimit periodStart periodEnd =>
      .tenant (.createInsert name language quotaLimit periodStart periodEnd)
  | .updateTenant id patch => .tenant (.updateCheck id patch)
  | .tryConsumeQuota tenantId => .tenant (.consumeQuota tenantId)
  | .setSuspended id suspended => .tenant (.suspendCheck id suspended)
  | .registerOrigin tenantId origin => .origin (.registerInsert tenantId origin)
  | .revokeOrigin tenantId id => .origin (.revokeSelect tenantId id)
  | .registerDictionary code sourceUrl => .dictionary (.registerUpsert code sourceUrl)

def Frame.exec (hashKey : String → String) (input : Input) (store : Store) : Frame → Outcome
  | .key frame => frame.exec hashKey input store
  | .tenant frame => frame.exec input store
  | .origin frame => frame.exec input store
  | .dictionary frame => frame.exec input store

/-- What `Store::open` leaves behind: the store, and the bootstrap key if no
active platform key was found. -/
structure Opened where
  store : Store
  bootstrap : Option CreatedApiKey

/-- `Store::open`.  `none` is its `Err`: the process does not start. -/
def Store.open (hashKey : String → String) (now : Clock) (input : Input) (pool : Database) :
    Option Opened :=
  let store := Store.reload pool
  if store.hasActivePlatformKey now.seconds then some { store, bootstrap := none }
  else
    let created := newApiKey hashKey input none "bootstrap" .platform none
    (input.execute (pool.insertApiKey (newApiKeyRow created.record))).map fun pool =>
      { store :=
          { store with
            pool
            keys := store.keys.insert created.record.keyHash created.record }
        bootstrap := some created }

/-- `Store::open_for_cli`. -/
def Store.openForCli (pool : Database) : Store := Store.reload pool

/-- The raw key a fresh start issues. -/
def Opened.issued (opened : Opened) : List (String × String) :=
  opened.bootstrap.toList.map fun created => (created.record.id, created.rawKey)

structure World where
  store : Store
  tasks : List Task
  calls : Calls Op Frame Result
  /-- Every raw key ever generated, with the key id it is a value of. -/
  issued : List (String × String)

inductive Event where
  | call (ticket : ℕ) (op : Op)
  | act (ticket : ℕ) (input : Input)
  | background (position : ℕ) (succeeds : Bool)
  | restart (now : Clock) (input : Input)
deriving DecidableEq, Repr

namespace World

/-- `generate_raw_key` never repeats a value: it joins two random UUIDs. -/
def RawKeyFresh (world : World) (input : Input) : Prop :=
  input.rawKey ∉ world.issued.map Prod.snd

instance (world : World) (input : Input) : Decidable (world.RawKeyFresh input) :=
  inferInstanceAs (Decidable (_ ∉ _))

/-- The world after a call has taken an action with this outcome. -/
def acted (world : World) (ticket : ℕ) (outcome : Outcome) : World :=
  { store := outcome.store
    tasks := world.tasks ++ outcome.spawned
    calls := world.calls.advance ticket outcome.next
    issued := world.issued ++ outcome.issued }

def step (hashKey : String → String) (world : World) : Event → Option World
  | .call ticket op =>
      if (world.calls.lookup ticket).isNone then
        some { world with calls := world.calls.start ticket op op.entry }
      else none
  | .act ticket input =>
      if world.RawKeyFresh input then
        (world.calls.frameAt ticket).map fun frame =>
          world.acted ticket (frame.exec hashKey input world.store)
      else none
  | .background position succeeds =>
      world.tasks[position]?.map fun task =>
        { world with
          store :=
            { world.store with
              pool := if succeeds then task.run world.store.pool else world.store.pool }
          tasks := world.tasks.eraseIdx position }
  | .restart now input =>
      if world.RawKeyFresh input then
        (Store.open hashKey now input world.store.pool).map fun opened =>
          { store := opened.store
            tasks := []
            calls := world.calls.dropRunning
            issued := world.issued ++ opened.issued }
      else none

/-- Before the first start: an empty database and nothing else. -/
def blank : World :=
  { store := Store.reload Database.empty
    tasks := []
    calls := ∅
    issued := [] }

/-- Runs whose every step meets the condition. -/
abbrev RunWhen (hashKey : String → String) (guard : World → Event → Prop) :
    World → List Event → World → Prop :=
  Run (step hashKey) guard

/-- Worlds some run leads to, under a condition on the steps. -/
def ReachableWhen (hashKey : String → String) (guard : World → Event → Prop)
    (world : World) : Prop :=
  ∃ events, RunWhen hashKey guard blank events world

/-- Worlds some run leads to. -/
def Reachable (hashKey : String → String) (world : World) : Prop :=
  ReachableWhen hashKey (fun _ _ => True) world

/-- Carry out a schedule and check where it leads. -/
theorem exists_run (hashKey : String → String) (allowed : World → Event → Bool)
    (events : List Event) (check : World → Bool)
    (computed : (runEvents (step hashKey) allowed blank events).any check = true) :
    ∃ world, RunWhen hashKey (fun before event => allowed before event = true) blank events
        world ∧ check world = true :=
  Run.exists_of_runEvents computed

/-- Carry out two schedules, one after the other. -/
theorem exists_runs (hashKey : String → String) (allowed allowedLater : World → Event → Bool)
    (events later : List Event) (check : World → World → Bool)
    (computed : ((runEvents (step hashKey) allowed blank events).any fun middle =>
      (runEvents (step hashKey) allowedLater middle later).any (check middle)) = true) :
    ∃ middle finish,
      RunWhen hashKey (fun before event => allowed before event = true) blank events middle ∧
      RunWhen hashKey (fun before event => allowedLater before event = true) middle later
        finish ∧
      check middle finish = true := by
  obtain ⟨middle, first, rest⟩ := Run.exists_of_runEvents computed
  obtain ⟨finish, second, checked⟩ := Run.exists_of_runEvents rest
  exact ⟨middle, finish, first, second, checked⟩

theorem ReachableWhen.reachable {hashKey : String → String} {guard : World → Event → Prop}
    {world : World} (reached : ReachableWhen hashKey guard world) : Reachable hashKey world := by
  obtain ⟨events, run⟩ := reached
  exact ⟨events, run.weaken fun _ _ _ => trivial⟩

variable {hashKey : String → String} {world next : World}

/-- What one event can do. -/
theorem step_cases {event : Event} (taken : world.step hashKey event = some next) :
    (∃ ticket op, event = .call ticket op ∧ world.calls.lookup ticket = none ∧
      next = { world with calls := world.calls.start ticket op op.entry }) ∨
    (∃ ticket input frame, event = .act ticket input ∧ world.RawKeyFresh input ∧
      world.calls.frameAt ticket = some frame ∧
      next = world.acted ticket (frame.exec hashKey input world.store)) ∨
    (∃ position succeeds task, event = .background position succeeds ∧
      world.tasks[position]? = some task ∧
      next =
        { world with
          store :=
            { world.store with
              pool := if succeeds then task.run world.store.pool else world.store.pool }
          tasks := world.tasks.eraseIdx position }) ∨
    (∃ now input opened, event = .restart now input ∧ world.RawKeyFresh input ∧
      Store.open hashKey now input world.store.pool = some opened ∧
      next =
        { store := opened.store
          tasks := []
          calls := world.calls.dropRunning
          issued := world.issued ++ opened.issued }) := by
  cases event with
  | call ticket op =>
      by_cases free : (world.calls.lookup ticket).isNone = true
      · left
        simp only [step, free, if_true, Option.some.injEq] at taken
        exact ⟨ticket, op, rfl, by simpa using free, taken.symm⟩
      · simp [step, free] at taken
  | act ticket input =>
      by_cases fresh : world.RawKeyFresh input
      · right; left
        simp only [step, fresh, if_true, Option.map_eq_some_iff] at taken
        obtain ⟨frame, running, result⟩ := taken
        exact ⟨ticket, input, frame, rfl, fresh, running, result.symm⟩
      · simp [step, fresh] at taken
  | background position succeeds =>
      right; right; left
      simp only [step, Option.map_eq_some_iff] at taken
      obtain ⟨task, pending, result⟩ := taken
      exact ⟨position, succeeds, task, rfl, pending, result.symm⟩
  | restart now input =>
      by_cases fresh : world.RawKeyFresh input
      · right; right; right
        simp only [step, fresh, if_true, Option.map_eq_some_iff] at taken
        obtain ⟨opened, success, result⟩ := taken
        exact ⟨now, input, opened, rfl, fresh, success, result.symm⟩
      · simp [step, fresh] at taken

/-- The history of raw keys only grows. -/
theorem issued_extends {event : Event} (taken : world.step hashKey event = some next) :
    world.issued <+: next.issued := by
  rcases step_cases taken with ⟨made, other, rfl, _, rfl⟩ | ⟨mover, input, frame, rfl, _, _, rfl⟩ |
    ⟨position, succeeds, task, rfl, _, rfl⟩ | ⟨now, input, opened, rfl, _, _, rfl⟩
  · exact List.prefix_rfl
  · exact List.prefix_append _ _
  · exact List.prefix_rfl
  · exact List.prefix_append _ _

end World

/-! ## Values for concrete runs -/

end

open scoped DefaultBackend

/-- Some identifiers `new_id` can return. -/
def sampleId : ℕ → Uuid
  | 0 => ⟨"db5b5fab-8f4d-4e27-9da1-494c73cf256d", by decide⟩
  | 1 => ⟨"73ab4876-7734-47c1-87fd-e805ec99108d", by decide⟩
  | 2 => ⟨"309d6b79-965e-4a32-9ae4-45508201e2bd", by decide⟩
  | _ => ⟨"79cb9e86-830c-41c2-8dcc-69292f45e678", by decide⟩

/-- Some raw keys `generate_raw_key` can return. -/
def sampleKey : ℕ → String
  | 0 => "rsk_2fa91425cb0048539d2c67eda13ffe79244caf9c4dab4481b253edc618187993"
  | 1 => "rsk_e3eff9c0cf444d3f89e7d15f17362f25986e86cb0ab84b67a26b7f62b1852f27"
  | 2 => "rsk_73f778aaf6fa4db8a56abd72fb710734a66b0d389d95447ebd299753a7677796"
  | 3 => "rsk_d4ea65d003d746849f8558a62851886709208a650f3e4dd3902b938b8743feb6"
  | _ => "rsk_998092253def4a38a12b2b8f30b17d0b5387f61376c448ae87321cc007b37e14"

/-- SHA-256 on the first four sample keys; elsewhere only injectivity matters. -/
def sampleHash (rawKey : String) : String :=
  if rawKey = sampleKey 0 then
    "95b6dfcf1fa83db2304a48b2abca9b68cbe2ec7b430e24b7c39f2ddbbfd5c7df"
  else if rawKey = sampleKey 1 then
    "bf04166c39bcc1742008a218b57afbf876303e777332e460f1e2acdb5e6a7374"
  else if rawKey = sampleKey 2 then
    "2cff8a9ea204f0a9be7c4cc944f4ca6d9df5a327e26c8899439bc29f53a8e7b6"
  else if rawKey = sampleKey 3 then
    "c1bcd21d32607c9177dcc8bbc8e086f4d1a5234253ebe96267c126de7ea4e37b"
  else "#" ++ rawKey

theorem sampleHash_injective : Function.Injective sampleHash := by
  have unmarked : ∀ {rawKey text : String}, text.toList.head? ≠ some '#' →
      "#" ++ rawKey ≠ text := by
    intro rawKey text start same
    subst same
    simp at start
  intro first second same
  unfold sampleHash at same
  split_ifs at same
  all_goals first
    | exact absurd same (by decide)
    | exact absurd same (unmarked (by decide))
    | exact absurd same.symm (unmarked (by decide))
    | simp_all

/-- An action in which every statement succeeds. -/
def sampleInput (id key : ℕ) : Input :=
  { now := ⟨1760000000, by decide⟩
    newId := sampleId id
    rawKey := sampleKey key
    hint := ""
    sql := true }

/-- One tenant with its default key. -/
def tenantSetup : List Event :=
  [.restart (sampleInput 0 0).now (sampleInput 0 0),
    .call 0 (.createTenant "acme" none none none none),
    .act 0 (sampleInput 1 4), .act 0 (sampleInput 0 4),
    .act 0 (sampleInput 2 1), .act 0 (sampleInput 0 4)]

end SpellServer
