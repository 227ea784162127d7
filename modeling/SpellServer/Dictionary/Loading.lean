import SpellServer.Dictionary.Registry
import SpellServer.Library.Mutex

/-!
# Loading engines concurrently

`get_or_load` looks a language up, takes `load_lock`, looks again, and only then
downloads, parses and inserts.  The cache, the lock and the files are accessed
one action at a time, and the actions of different calls may come in any order.
Engines are shared through an `Arc`; each parse allocates one.
-/

namespace SpellServer

open Library

/-- Two are the same engine, as `Arc::ptr_eq` has it, when they are one allocation. -/
structure Arc (ε : Type) where
  allocation : ℕ
  engine : ε
deriving DecidableEq, Repr

inductive LoadOp (ε : Type) where
  | getOrLoad (language : String) (sourceUrl : Option String)
  | load (language : String) (sourceUrl : Option String)
  | replace (language : String) (engine : ε)
deriving DecidableEq, Repr

/-- A call in front of its next action.  `_guard` is dropped when the function
returns, which is `unlock`. -/
inductive LoadFrame (ε : Type) where
  | read
  | lock
  | readAgain
  | ensure (frame : EnsureFrame)
  | readAff (affPath dicPath : String)
  | readDic (aff dicPath : String)
  | parse (aff dic : String)
  | insert (engine : Arc ε)
  | unlock (result : Except EngineError (Arc ε))
  | replace (engine : ε)

/-- A call whose caller went away while it was waiting is dropped. -/
inductive LoadResult (ε : Type) where
  | loaded (result : Except EngineError (Arc ε))
  | replaced
  | dropped

namespace LoadOp

variable {ε : Type}

def language : LoadOp ε → String
  | .getOrLoad language _ | .load language _ | .replace language _ => language

def sourceUrl : LoadOp ε → Option String
  | .getOrLoad _ sourceUrl | .load _ sourceUrl => sourceUrl
  | .replace _ _ => none

def entry : LoadOp ε → LoadFrame ε
  | .getOrLoad _ none => .read
  | .getOrLoad _ (some _) | .load _ _ => .lock
  | .replace _ engine => .replace engine

/-- What follows `load_lock.lock()`. -/
def locked : LoadOp ε → LoadFrame ε
  | .getOrLoad _ none => .readAgain
  | _ => .ensure .isFresh

end LoadOp

namespace LoadFrame

variable {ε : Type}

/-- The call is in `ensure_dictionary` or `load_from_paths`. -/
def Loading : LoadFrame ε → Prop
  | .ensure _ | .readAff _ _ | .readDic _ _ | .parse _ _ => True
  | _ => False

/-- The call holds `load_lock`. -/
def Locked : LoadFrame ε → Prop
  | .read | .lock | .replace _ => False
  | _ => True

theorem Loading.locked {frame : LoadFrame ε} (loading : frame.Loading) : frame.Locked := by
  cases frame <;> first | exact trivial | exact loading

end LoadFrame

section

variable {ε : Type}

/-- `EngineRegistry::new`; the engine is the first allocation. -/
def EngineRegistry.new (defaultLanguage : String) (engine : ε) (dictionaryManager : DictionaryManager) :
    EngineRegistry (Arc ε) :=
  { defaultLanguage
    dictionaryManager
    engines := (∅ : Dict String (Arc ε)).insert defaultLanguage { allocation := 0, engine } }

/-- `none` is the panic of its `expect`. -/
def EngineRegistry.defaultEngine (registry : EngineRegistry ε) : Option ε :=
  registry.engines.lookup registry.defaultLanguage

end

/-- What the calls share.  `parsed` is the history of the calls that have carried
`ensure_dictionary` and the parse through; no action reads it. -/
structure LoadShared (ε : Type) extends EngineState (Arc ε) where
  loadLock : Option ℕ
  allocations : ℕ
  parsed : List (ℕ × String)

structure LoadWorld (ε : Type) extends LoadShared ε where
  calls : Calls (LoadOp ε) (LoadFrame ε) (LoadResult ε)

namespace LoadShared

section

variable {ε : Type} (parse : String → String → Option ε)

def setDir (shared : LoadShared ε) (language : String) (dir : LanguageDir) : LoadShared ε :=
  { shared with disk := shared.disk.insert language dir }

/-- The write of `engines`. -/
def install (shared : LoadShared ε) (language : String) (engine : Arc ε) : LoadShared ε :=
  { shared with toEngineState := shared.toEngineState.insertEngine language engine }

/-- `none` while the call waits for the lock. -/
def exec (shared : LoadShared ε) (ticket : ℕ) (op : LoadOp ε) (input : DiskInput) :
    LoadFrame ε → Option (LoadShared ε × Status (LoadFrame ε) (LoadResult ε))
  | .read =>
      match shared.registry.engines.lookup op.language with
      | some engine => some (shared, .returned (.loaded (.ok engine)))
      | none => some (shared, .running .lock)
  | .lock =>
      match shared.loadLock with
      | some _ => none
      | none => some ({ shared with loadLock := some ticket }, .running op.locked)
  | .readAgain =>
      match shared.registry.engines.lookup op.language with
      | some engine => some (shared, .running (.unlock (.ok engine)))
      | none => some (shared, .running (.ensure .isFresh))
  | .ensure frame =>
      let outcome := frame.exec shared.registry.dictionaryManager op.language op.sourceUrl input
        (shared.dirOf op.language)
      let later := shared.setDir op.language outcome.dir
      match outcome.next with
      | .running next => some (later, .running (.ensure next))
      | .returned (.error error) => some (later, .running (.unlock (.error (.dictionary error))))
      | .returned (.ok (affPath, dicPath)) => some (later, .running (.readAff affPath dicPath))
  | .readAff affPath dicPath =>
      match readToString affPath input.failure (shared.dirOf op.language).aff with
      | .error error => some (shared, .running (.unlock (.error error)))
      | .ok aff => some (shared, .running (.readDic aff dicPath))
  | .readDic aff dicPath =>
      match readToString dicPath input.failure (shared.dirOf op.language).dic with
      | .error error => some (shared, .running (.unlock (.error error)))
      | .ok dic => some (shared, .running (.parse aff dic))
  | .parse aff dic =>
      match newEngine parse aff dic with
      | .error error => some (shared, .running (.unlock (.error error)))
      | .ok engine =>
          some ({ shared with
              allocations := shared.allocations + 1
              parsed := (ticket, op.language) :: shared.parsed },
            .running (.insert { allocation := shared.allocations, engine }))
  | .insert engine => some (shared.install op.language engine, .running (.unlock (.ok engine)))
  | .unlock result => some ({ shared with loadLock := none }, .returned (.loaded result))
  | .replace engine =>
      some ({ shared.install op.language { allocation := shared.allocations, engine } with
          allocations := shared.allocations + 1 },
        .returned .replaced)

end

end LoadShared

inductive LoadEvent (ε : Type) where
  | call (ticket : ℕ) (op : LoadOp ε)
  | act (ticket : ℕ) (input : DiskInput)
  | drop (ticket : ℕ)
  | disk (language : String) (dir : LanguageDir)

namespace LoadWorld

section

variable {ε : Type} (parse : String → String → Option ε)

def new (defaultLanguage : String) (engine : ε) (manager : DictionaryManager)
    (disk : Dict String LanguageDir) : LoadWorld ε :=
  { registry := EngineRegistry.new defaultLanguage engine manager
    disk
    loadLock := none
    allocations := 1
    parsed := []
    calls := ∅ }

/-- A dropped call drops its guard.  The directories may change at any time:
other processes work on them, and so does a write whose call was dropped. -/
def step (world : LoadWorld ε) : LoadEvent ε → Option (LoadWorld ε)
  | .call ticket op =>
      match world.calls.lookup ticket with
      | some _ => none
      | none => some { world with calls := world.calls.start ticket op op.entry }
  | .act ticket input =>
      match world.calls.lookup ticket with
      | some { op, status := .running frame } =>
          (world.exec parse ticket op input frame).map fun outcome =>
            { toLoadShared := outcome.1, calls := world.calls.advance ticket outcome.2 }
      | _ => none
  | .drop ticket =>
      match world.calls.frameAt ticket with
      | some .lock =>
          some { world with calls := world.calls.advance ticket (.returned .dropped) }
      | some (.ensure _) =>
          some { world with
            loadLock := none
            calls := world.calls.advance ticket (.returned .dropped) }
      | _ => none
  | .disk language dir => some { world with toLoadShared := world.setDir language dir }

end

end LoadWorld

/-! ## What an action does -/

/-- The cases of an action.  Between the second look and the parse, only the
files change. -/
inductive LoadMove {ε : Type} (parse : String → String → Option ε) (shared : LoadShared ε)
    (ticket : ℕ) (op : LoadOp ε) :
    LoadFrame ε → LoadShared ε → Status (LoadFrame ε) (LoadResult ε) → Prop where
  | served {engine : Arc ε} (cached : shared.registry.engines.lookup op.language = some engine) :
      LoadMove parse shared ticket op .read shared (.returned (.loaded (.ok engine)))
  | missed (absent : shared.registry.engines.lookup op.language = none) :
      LoadMove parse shared ticket op .read shared (.running .lock)
  | locked (free : shared.loadLock = none) :
      LoadMove parse shared ticket op .lock { shared with loadLock := some ticket }
        (.running op.locked)
  | servedAgain {engine : Arc ε}
      (cached : shared.registry.engines.lookup op.language = some engine) :
      LoadMove parse shared ticket op .readAgain shared (.running (.unlock (.ok engine)))
  | missedAgain (absent : shared.registry.engines.lookup op.language = none) :
      LoadMove parse shared ticket op .readAgain shared (.running (.ensure .isFresh))
  | loads {frame next : LoadFrame ε} {disk : Dict String LanguageDir} (loading : frame.Loading)
      (still : next.Loading) :
      LoadMove parse shared ticket op frame { shared with disk } (.running next)
  | fails {frame : LoadFrame ε} {disk : Dict String LanguageDir} {error : EngineError}
      (loading : frame.Loading) :
      LoadMove parse shared ticket op frame { shared with disk }
        (.running (.unlock (.error error)))
  | parsed {aff dic : String} {engine : ε} (result : parse aff dic = some engine) :
      LoadMove parse shared ticket op (.parse aff dic)
        { shared with
          allocations := shared.allocations + 1
          parsed := (ticket, op.language) :: shared.parsed }
        (.running (.insert { allocation := shared.allocations, engine }))
  | inserted {engine : Arc ε} :
      LoadMove parse shared ticket op (.insert engine) (shared.install op.language engine)
        (.running (.unlock (.ok engine)))
  | unlocked {result : Except EngineError (Arc ε)} :
      LoadMove parse shared ticket op (.unlock result) { shared with loadLock := none }
        (.returned (.loaded result))
  | replaced {engine : ε} :
      LoadMove parse shared ticket op (.replace engine)
        { shared.install op.language { allocation := shared.allocations, engine } with
          allocations := shared.allocations + 1 }
        (.returned .replaced)

section

variable {ε : Type} {parse : String → String → Option ε} {shared later : LoadShared ε}
  {ticket : ℕ} {op : LoadOp ε} {input : DiskInput} {frame : LoadFrame ε}
  {status : Status (LoadFrame ε) (LoadResult ε)}

theorem LoadShared.exec_move (taken : shared.exec parse ticket op input frame = some (later, status)) :
    LoadMove parse shared ticket op frame later status := by
  unfold exec at taken
  cases frame with
  | read =>
      cases cached : shared.registry.engines.lookup op.language with
      | none =>
          simp only [cached] at taken
          cases taken
          exact .missed cached
      | some engine =>
          simp only [cached] at taken
          cases taken
          exact .served cached
  | lock =>
      cases free : shared.loadLock with
      | none =>
          simp only [free] at taken
          cases taken
          exact .locked free
      | some holder =>
          simp only [free] at taken
          cases taken
  | readAgain =>
      cases cached : shared.registry.engines.lookup op.language with
      | none =>
          simp only [cached] at taken
          cases taken
          exact .missedAgain cached
      | some engine =>
          simp only [cached] at taken
          cases taken
          exact .servedAgain cached
  | ensure frame =>
      cases moved : (frame.exec shared.registry.dictionaryManager op.language op.sourceUrl input
          (shared.dirOf op.language)).next with
      | running next =>
          simp only [moved] at taken
          cases taken
          exact .loads trivial trivial
      | returned ended =>
          cases ended with
          | error error =>
              simp only [moved] at taken
              cases taken
              exact .fails trivial
          | ok paths =>
              simp only [moved] at taken
              cases taken
              exact .loads trivial trivial
  | readAff affPath dicPath =>
      cases reads : readToString affPath input.failure (shared.dirOf op.language).aff with
      | error error =>
          simp only [reads] at taken
          cases taken
          exact .fails trivial
      | ok aff =>
          simp only [reads] at taken
          cases taken
          exact .loads trivial trivial
  | readDic aff dicPath =>
      cases reads : readToString dicPath input.failure (shared.dirOf op.language).dic with
      | error error =>
          simp only [reads] at taken
          cases taken
          exact .fails trivial
      | ok dic =>
          simp only [reads] at taken
          cases taken
          exact .loads trivial trivial
  | parse aff dic =>
      unfold newEngine at taken
      cases result : parse aff dic with
      | none =>
          simp only [result] at taken
          cases taken
          exact .fails trivial
      | some engine =>
          simp only [result] at taken
          cases taken
          exact .parsed result
  | insert engine =>
      cases taken
      exact .inserted
  | unlock result =>
      cases taken
      exact .unlocked
  | replace engine =>
      cases taken
      exact .replaced

/-- Engines are inserted and never removed. -/
theorem LoadMove.lookup (move : LoadMove parse shared ticket op frame later status)
    (language : String) :
    later.registry.engines.lookup language = shared.registry.engines.lookup language ∨
      (language = op.language ∧ later.registry.engines.lookup language ≠ none) := by
  have installs : ∀ engine : Arc ε,
      (shared.install op.language engine).registry.engines.lookup language =
          shared.registry.engines.lookup language ∨
        (language = op.language ∧
          (shared.install op.language engine).registry.engines.lookup language ≠ none) := by
    intro engine
    have inserted := EngineState.lookup_insertEngine shared.toEngineState op.language language engine
    by_cases same : language = op.language
    · rw [if_pos same] at inserted
      refine Or.inr ⟨same, ?_⟩
      intro absent
      cases inserted.symm.trans absent
    · rw [if_neg same] at inserted
      exact Or.inl inserted
  cases move with
  | inserted => exact installs _
  | replaced => exact installs _
  | served | missed | locked | servedAgain | missedAgain | loads | fails | parsed | unlocked =>
      exact Or.inl rfl

theorem LoadMove.parsed_cases (move : LoadMove parse shared ticket op frame later status) :
    later.parsed = shared.parsed ∨ ∃ aff dic engine, frame = .parse aff dic ∧
      later.parsed = (ticket, op.language) :: shared.parsed ∧ status = .running (.insert engine) := by
  cases move with
  | parsed => exact Or.inr ⟨_, _, _, rfl, rfl, rfl⟩
  | served | missed | locked | servedAgain | missedAgain | loads | fails | inserted | unlocked
  | replaced => exact Or.inl rfl

theorem LoadMove.defaultLanguage (move : LoadMove parse shared ticket op frame later status) :
    later.registry.defaultLanguage = shared.registry.defaultLanguage := by
  cases move <;> rfl

theorem LoadMove.dictionaryManager (move : LoadMove parse shared ticket op frame later status) :
    later.registry.dictionaryManager = shared.registry.dictionaryManager := by
  cases move <;> rfl

end

namespace LoadWorld

section

variable {ε : Type} {parse : String → String → Option ε} {world next : LoadWorld ε}
  {event : LoadEvent ε}

/-- The cases of an event. -/
inductive Step (parse : String → String → Option ε) (world : LoadWorld ε) :
    LoadEvent ε → LoadWorld ε → Prop where
  | call {ticket : ℕ} {op : LoadOp ε} (unused : world.calls.lookup ticket = none) :
      Step parse world (.call ticket op)
        { world with calls := world.calls.start ticket op op.entry }
  | act {ticket : ℕ} {input : DiskInput} {op : LoadOp ε} {frame : LoadFrame ε}
      {shared : LoadShared ε} {status : Status (LoadFrame ε) (LoadResult ε)}
      (running : world.calls.lookup ticket = some { op, status := .running frame })
      (move : LoadMove parse world.toLoadShared ticket op frame shared status) :
      Step parse world (.act ticket input)
        { toLoadShared := shared, calls := world.calls.advance ticket status }
  | dropWaiting {ticket : ℕ} (running : world.calls.frameAt ticket = some .lock) :
      Step parse world (.drop ticket)
        { world with calls := world.calls.advance ticket (.returned .dropped) }
  | dropLoading {ticket : ℕ} {frame : EnsureFrame}
      (running : world.calls.frameAt ticket = some (.ensure frame)) :
      Step parse world (.drop ticket)
        { world with
          loadLock := none
          calls := world.calls.advance ticket (.returned .dropped) }
  | disk {language : String} {dir : LanguageDir} :
      Step parse world (.disk language dir)
        { world with toLoadShared := world.setDir language dir }

theorem step_cases (taken : world.step parse event = some next) : Step parse world event next := by
  unfold step at taken
  cases event with
  | call ticket op =>
      cases unused : world.calls.lookup ticket with
      | none =>
          simp only [unused] at taken
          cases taken
          exact .call unused
      | some call =>
          simp only [unused] at taken
          cases taken
  | act ticket input =>
      cases stored : world.calls.lookup ticket with
      | none =>
          simp only [stored] at taken
          cases taken
      | some call =>
          obtain ⟨op, status⟩ := call
          cases status with
          | returned result =>
              simp only [stored] at taken
              cases taken
          | running frame =>
              simp only [stored] at taken
              obtain ⟨⟨shared, status⟩, executed, equal⟩ := Option.map_eq_some_iff.mp taken
              cases equal
              exact .act stored (LoadShared.exec_move executed)
  | drop ticket =>
      cases running : world.calls.frameAt ticket with
      | none =>
          simp only [running] at taken
          cases taken
      | some frame =>
          simp only [running] at taken
          cases frame with
          | lock =>
              cases taken
              exact .dropWaiting running
          | ensure frame =>
              cases taken
              exact .dropLoading running
          | read | readAgain | readAff | readDic | parse | insert | unlock | replace => cases taken
  | disk language dir =>
      cases taken
      exact .disk

theorem dictionaryManager_of_step (taken : Step parse world event next) :
    next.registry.dictionaryManager = world.registry.dictionaryManager := by
  cases taken with
  | act running move => exact move.dictionaryManager
  | call | dropWaiting | dropLoading | disk => rfl

/-- A call keeps the operation it was made for. -/
theorem op_of_step (taken : Step parse world event next) {ticket : ℕ}
    {call : Call (LoadOp ε) (LoadFrame ε) (LoadResult ε)}
    (found : next.calls.lookup ticket = some call) :
    event = .call ticket call.op ∨
      ∃ old, world.calls.lookup ticket = some old ∧ old.op = call.op := by
  have advanced : ∀ {other status}, (world.calls.advance other status).lookup ticket = some call →
      ∃ old, world.calls.lookup ticket = some old ∧ old.op = call.op := by
    intro other status found
    rw [Calls.lookup_advance] at found
    split at found
    · rename_i same
      obtain ⟨old, stored, rfl⟩ := Option.map_eq_some_iff.mp found
      exact ⟨old, same ▸ stored, rfl⟩
    · exact ⟨call, found, rfl⟩
  cases taken with
  | call unused =>
      rw [Calls.start, Dict.lookup_insert_ite] at found
      split at found
      · rename_i same
        cases found
        rw [same]
        exact Or.inl rfl
      · exact Or.inr ⟨call, found, rfl⟩
  | act => exact Or.inr (advanced found)
  | dropWaiting => exact Or.inr (advanced found)
  | dropLoading => exact Or.inr (advanced found)
  | disk => exact Or.inr ⟨call, found, rfl⟩

/-! ## The lock -/

/-- The lock belongs to the call between taking and releasing it. -/
def LockGuarded (world : LoadWorld ε) : Prop :=
  world.calls.Guarded LoadFrame.Locked world.loadLock

theorem locked_entry (op : LoadOp ε) : ¬op.entry.Locked := by
  unfold LoadOp.entry
  split <;> exact id

theorem locked_locked (op : LoadOp ε) : op.locked.Locked := by
  unfold LoadOp.locked
  split <;> trivial

theorem LockGuarded.step (guarded : world.LockGuarded) (taken : Step parse world event next) :
    next.LockGuarded := by
  unfold LockGuarded at guarded ⊢
  cases taken with
  | call unused => exact guarded.start unused (locked_entry _)
  | act stored move =>
      rename_i ticket input op frame shared status
      have running : world.calls.frameAt ticket = some frame :=
        Calls.frameAt_eq_some_iff.mpr ⟨op, stored⟩
      have outside : status.frame? = none → ¬frame.Locked →
          ((∃ later, status.frame? = some later ∧ later.Locked) ↔ frame.Locked) := by
        intro returned unlocked
        rw [returned]
        simp [unlocked]
      have inside : ∀ {later : LoadFrame ε}, later.Locked → frame.Locked →
          ((∃ seen, (Status.running (ρ := LoadResult ε) later).frame? = some seen ∧ seen.Locked) ↔
            frame.Locked) := by
        intro later laterLocked frameLocked
        exact iff_of_true ⟨later, rfl, laterLocked⟩ frameLocked
      cases move with
      | served => exact guarded.stays running (outside rfl id)
      | missed =>
          refine guarded.stays running (iff_of_false ?_ id)
          intro entered
          obtain ⟨_, equal, locked⟩ := entered
          cases equal
          exact locked
      | locked free =>
          rw [free] at guarded
          exact guarded.acquires running (locked_locked op)
      | servedAgain => exact guarded.stays running (inside trivial trivial)
      | missedAgain => exact guarded.stays running (inside trivial trivial)
      | loads loading still => exact guarded.stays running (inside still.locked loading.locked)
      | fails loading => exact guarded.stays running (inside trivial loading.locked)
      | parsed => exact guarded.stays running (inside trivial trivial)
      | inserted => exact guarded.stays running (inside trivial trivial)
      | unlocked =>
          refine guarded.releases running trivial ?_
          intro later equal
          cases equal
      | replaced => exact guarded.stays running (outside rfl id)
  | dropWaiting running =>
      refine guarded.stays running (iff_of_false ?_ id)
      intro entered
      obtain ⟨_, equal, _⟩ := entered
      cases equal
  | dropLoading running =>
      refine guarded.releases running trivial ?_
      intro later equal
      cases equal
  | disk => exact guarded

end

end LoadWorld

end SpellServer
