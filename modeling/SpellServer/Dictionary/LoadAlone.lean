import SpellServer.Dictionary.Loading

/-!
# A load with nothing in between

When the lock is free, a call whose actions follow one another does what
`EngineState.getOrLoad` and `EngineState.load` say.  The lock never stays taken:
the call that has it can always go on to release it.
-/

namespace SpellServer

open Library

/-- The parse that a call makes, with the allocation of its `Arc`. -/
def allocating {ε : Type} (parse : String → String → Option ε) (allocation : ℕ) (aff dic : String) :
    Option (Arc ε) :=
  (parse aff dic).map fun engine => { allocation, engine }

section

variable {ε : Type} {parse : String → String → Option ε} {ticket : ℕ} {op : LoadOp ε}

/-- Actions of one call that follow one another. -/
inductive Alone (parse : String → String → Option ε) (ticket : ℕ) (op : LoadOp ε) :
    LoadShared ε → Status (LoadFrame ε) (LoadResult ε) → LoadShared ε →
      Status (LoadFrame ε) (LoadResult ε) → Prop where
  | rest (shared : LoadShared ε) (status : Status (LoadFrame ε) (LoadResult ε)) :
      Alone parse ticket op shared status shared status
  | act {shared middle later : LoadShared ε} {frame : LoadFrame ε}
      {status finish : Status (LoadFrame ε) (LoadResult ε)} (input : DiskInput)
      (executed : shared.exec parse ticket op input frame = some (middle, status))
      (following : Alone parse ticket op middle status later finish) :
      Alone parse ticket op shared (.running frame) later finish

namespace Alone

variable {shared middle later : LoadShared ε} {frame : LoadFrame ε}
  {status halfway finish : Status (LoadFrame ε) (LoadResult ε)}

theorem trans (first : Alone parse ticket op shared status middle halfway)
    (second : Alone parse ticket op middle halfway later finish) :
    Alone parse ticket op shared status later finish := by
  induction first with
  | rest => exact second
  | act input executed _ induction => exact .act input executed (induction second)

/-- They are a run of the world. -/
theorem run {guard : LoadWorld ε → LoadEvent ε → Prop}
    (allowed : ∀ world input, guard world (.act ticket input))
    (alone : Alone parse ticket op shared status later finish) {world : LoadWorld ε}
    (same : world.toLoadShared = shared) (stored : world.calls.lookup ticket = some { op, status }) :
    ∃ events next, Run (LoadWorld.step parse) guard world events next ∧
      next.toLoadShared = later ∧ next.calls.lookup ticket = some { op, status := finish } ∧
      ∀ other, other ≠ ticket → next.calls.lookup other = world.calls.lookup other := by
  induction alone generalizing world with
  | rest => exact ⟨[], world, .nil _, same, stored, fun _ _ => rfl⟩
  | @act shared middle later frame status finish input executed following induction =>
      rw [← same] at executed
      obtain ⟨events, next, run, reached, ended, others⟩ := @induction
        { toLoadShared := middle, calls := world.calls.advance ticket status } rfl (by
          rw [Calls.lookup_advance, if_pos rfl, stored]
          rfl)
      have taken : world.step parse (.act ticket input) =
          some { toLoadShared := middle, calls := world.calls.advance ticket status } := by
        simp only [LoadWorld.step, stored, executed, Option.map_some]
      refine ⟨_, next, .cons (allowed world input) taken run, reached, ended, ?_⟩
      intro other elsewhere
      rw [others other elsewhere, Calls.lookup_advance, if_neg elsewhere]

end Alone

/-! ## One load -/

theorem dirOf_setDir (shared : LoadShared ε) (language : String) (dir : LanguageDir) :
    (shared.setDir language dir).dirOf language = dir := by
  unfold EngineState.dirOf LoadShared.setDir
  rw [Dict.lookup_insert_ite, if_pos rfl]
  rfl

/-- What follows `ensure_dictionary`. -/
def LoadFrame.ensured : Except DictionaryError (String × String) → LoadFrame ε
  | .error error => .unlock (.error (.dictionary error))
  | .ok (affPath, dicPath) => .readAff affPath dicPath

theorem ensure_alone {shared : LoadShared ε} {inputs : List DiskInput} {frame : EnsureFrame}
    {ended : Except DictionaryError (String × String)}
    (ends : (EnsureFrame.runAlone shared.registry.dictionaryManager op.language op.sourceUrl inputs
      (shared.dirOf op.language) frame).next = .returned ended) :
    ∃ disk, Alone parse ticket op shared (.running (.ensure frame)) { shared with disk }
        (.running (.ensured ended)) ∧
      ({ shared with disk } : LoadShared ε).dirOf op.language =
        (EnsureFrame.runAlone shared.registry.dictionaryManager op.language op.sourceUrl inputs
          (shared.dirOf op.language) frame).dir := by
  induction inputs generalizing shared frame with
  | nil => cases ends
  | cons input inputs induction =>
      generalize outcomeEq : frame.exec shared.registry.dictionaryManager op.language op.sourceUrl
        input (shared.dirOf op.language) = outcome
      cases moved : outcome.next with
      | returned result =>
          have stops : EnsureFrame.runAlone shared.registry.dictionaryManager op.language
              op.sourceUrl (input :: inputs) (shared.dirOf op.language) frame = outcome := by
            simp only [EnsureFrame.runAlone, outcomeEq, moved]
          rw [stops] at ends ⊢
          rw [moved] at ends
          cases ends
          have executed : shared.exec parse ticket op input (.ensure frame) =
              some (shared.setDir op.language outcome.dir, .running (.ensured ended)) := by
            cases ended <;> simp only [LoadShared.exec, outcomeEq, moved, LoadFrame.ensured]
          exact ⟨_, .act input executed (.rest _ _), dirOf_setDir shared op.language outcome.dir⟩
      | running next =>
          have goes : EnsureFrame.runAlone shared.registry.dictionaryManager op.language
              op.sourceUrl (input :: inputs) (shared.dirOf op.language) frame =
                { EnsureFrame.runAlone shared.registry.dictionaryManager op.language op.sourceUrl
                    inputs outcome.dir next with
                  downloaded := outcome.downloaded ++
                    (EnsureFrame.runAlone shared.registry.dictionaryManager op.language op.sourceUrl
                      inputs outcome.dir next).downloaded } := by
            simp only [EnsureFrame.runAlone, outcomeEq, moved]
          rw [goes] at ends ⊢
          have here := dirOf_setDir shared op.language outcome.dir
          obtain ⟨disk, alone, dir⟩ := @induction (shared.setDir op.language outcome.dir) next (by
            rw [here]
            exact ends)
          rw [here] at dir
          have executed : shared.exec parse ticket op input (.ensure frame) =
              some (shared.setDir op.language outcome.dir, .running (.ensure next)) := by
            simp only [LoadShared.exec, outcomeEq, moved]
          exact ⟨disk, .act input executed alone, dir⟩

theorem unlock_alone (input : DiskInput) (shared : LoadShared ε)
    (result : Except EngineError (Arc ε)) :
    Alone parse ticket op shared (.running (.unlock result)) { shared with loadLock := none }
      (.returned (.loaded result)) :=
  .act input rfl (.rest _ _)

/-- `load_from_paths`, the insertion and the release of the lock. -/
theorem loadFromPaths_alone (shared : LoadShared ε) (inputs : LoadInputs) (affPath dicPath : String) :
    ∃ later, Alone parse ticket op shared (.running (.readAff affPath dicPath)) later
        (.returned (.loaded (loadFromPaths (allocating parse shared.allocations) affPath dicPath
          inputs (shared.dirOf op.language)))) ∧
      later.registry = (match loadFromPaths (allocating parse shared.allocations) affPath dicPath
          inputs (shared.dirOf op.language) with
        | .error _ => shared.registry
        | .ok engine => (shared.insertEngine op.language engine).registry) := by
  obtain ⟨input, inputEq⟩ : ∃ input, input = inputs.ensure.isFresh := ⟨_, rfl⟩
  cases affRead : readToString affPath inputs.readAff (shared.dirOf op.language).aff with
  | error error =>
      have result : loadFromPaths (allocating parse shared.allocations) affPath dicPath inputs
          (shared.dirOf op.language) = .error error := by
        unfold loadFromPaths
        rw [affRead]
        rfl
      rw [result]
      refine ⟨_, .act { input with failure := inputs.readAff } ?_ (unlock_alone input shared _), rfl⟩
      simp only [LoadShared.exec, affRead]
  | ok aff =>
      have readsAff : shared.exec parse ticket op { input with failure := inputs.readAff }
          (.readAff affPath dicPath) = some (shared, .running (.readDic aff dicPath)) := by
        simp only [LoadShared.exec, affRead]
      cases dicRead : readToString dicPath inputs.readDic (shared.dirOf op.language).dic with
      | error error =>
          have result : loadFromPaths (allocating parse shared.allocations) affPath dicPath inputs
              (shared.dirOf op.language) = .error error := by
            unfold loadFromPaths
            rw [affRead, dicRead]
            rfl
          rw [result]
          refine ⟨_, .act _ readsAff (.act { input with failure := inputs.readDic } ?_
            (unlock_alone input shared _)), rfl⟩
          simp only [LoadShared.exec, dicRead]
      | ok dic =>
          have readsDic : shared.exec parse ticket op { input with failure := inputs.readDic }
              (.readDic aff dicPath) = some (shared, .running (.parse aff dic)) := by
            simp only [LoadShared.exec, dicRead]
          have result : loadFromPaths (allocating parse shared.allocations) affPath dicPath inputs
              (shared.dirOf op.language) = newEngine (allocating parse shared.allocations) aff dic := by
            unfold loadFromPaths
            rw [affRead, dicRead]
            rfl
          rw [result]
          cases parsed : parse aff dic with
          | none =>
              have rejected : newEngine (allocating parse shared.allocations) aff dic =
                  .error .parse := by
                unfold newEngine allocating
                rw [parsed]
                rfl
              have parses : shared.exec parse ticket op input (.parse aff dic) =
                  some (shared, .running (.unlock (.error .parse))) := by
                simp only [LoadShared.exec, newEngine, parsed]
              rw [rejected]
              exact ⟨_, .act _ readsAff (.act _ readsDic (.act _ parses
                (unlock_alone input shared _))), rfl⟩
          | some engine =>
              have accepted : newEngine (allocating parse shared.allocations) aff dic =
                  .ok { allocation := shared.allocations, engine } := by
                unfold newEngine allocating
                rw [parsed]
                rfl
              have parses : shared.exec parse ticket op input (.parse aff dic) =
                  some ({ shared with
                      allocations := shared.allocations + 1
                      parsed := (ticket, op.language) :: shared.parsed },
                    .running (.insert { allocation := shared.allocations, engine })) := by
                simp only [LoadShared.exec, newEngine, parsed]
              rw [accepted]
              exact ⟨_, .act _ readsAff (.act _ readsDic (.act _ parses (.act input rfl
                (unlock_alone input _ _)))), rfl⟩

/-- What a load does under the lock. -/
theorem load_alone (shared : LoadShared ε) (inputs : LoadInputs)
    {result : Except EngineError (Arc ε)}
    (returned : (shared.load (allocating parse shared.allocations) op.language op.sourceUrl
      inputs).result = some result) :
    ∃ later, Alone parse ticket op shared (.running (.ensure .isFresh)) later
        (.returned (.loaded result)) ∧
      later.registry = (shared.load (allocating parse shared.allocations) op.language op.sourceUrl
        inputs).state.registry := by
  unfold EngineState.load EngineState.loadEnsured at returned ⊢
  cases ended : (ensureDictionary shared.registry.dictionaryManager op.language op.sourceUrl
      inputs.ensure (shared.dirOf op.language)).next with
  | running frame =>
      simp only [ended] at returned
      cases returned
  | returned paths =>
      obtain ⟨disk, ensured, dir⟩ := @ensure_alone _ parse ticket op shared _ _ _ ended
      cases paths with
      | error error =>
          simp only [ended] at returned ⊢
          cases returned
          exact ⟨_, ensured.trans (unlock_alone inputs.ensure.isFresh _ _), rfl⟩
      | ok paths =>
          obtain ⟨later, loaded, registry⟩ := @loadFromPaths_alone _ parse ticket op
            { shared with disk } inputs paths.1 paths.2
          have here : ({ shared with disk } : LoadShared ε).dirOf op.language =
              (ensureDictionary shared.registry.dictionaryManager op.language op.sourceUrl
                inputs.ensure (shared.dirOf op.language)).dir := dir
          rw [here] at loaded registry
          simp only [ended] at returned ⊢
          generalize loadFromPaths _ _ _ _ _ = final at returned loaded registry ⊢
          cases final with
          | error error =>
              cases returned
              exact ⟨later, ensured.trans loaded, registry⟩
          | ok engine =>
              cases returned
              exact ⟨later, ensured.trans loaded, registry⟩

/-- `get_or_load`, when the lock is free. -/
theorem getOrLoad_alone {shared : LoadShared ε} (free : shared.loadLock = none) {language : String}
    {sourceUrl : Option String} {inputs : LoadInputs} {result : Except EngineError (Arc ε)}
    (returned : (shared.getOrLoad (allocating parse shared.allocations) language sourceUrl
      inputs).result = some result) :
    ∃ later, Alone parse ticket (.getOrLoad language sourceUrl) shared
        (.running (LoadOp.getOrLoad language sourceUrl).entry) later
        (.returned (.loaded result)) ∧
      later.registry = (shared.getOrLoad (allocating parse shared.allocations) language sourceUrl
        inputs).state.registry := by
  obtain ⟨op, opEq⟩ : ∃ op : LoadOp ε, op = .getOrLoad language sourceUrl := ⟨_, rfl⟩
  obtain ⟨input, inputEq⟩ : ∃ input, input = inputs.ensure.isFresh := ⟨_, rfl⟩
  have locks : shared.exec parse ticket op input .lock =
      some ({ shared with loadLock := some ticket }, .running op.locked) := by
    simp only [LoadShared.exec, free]
  unfold EngineState.getOrLoad at returned ⊢
  rw [← opEq]
  cases sourceUrl with
  | some source =>
      obtain ⟨later, loaded, registry⟩ := @load_alone _ parse ticket op
        { shared with loadLock := some ticket } inputs result (by rw [opEq]; exact returned)
      rw [opEq] at locks loaded registry ⊢
      exact ⟨later, .act _ locks loaded, registry⟩
  | none =>
      cases cached : shared.registry.engines.lookup language with
      | some engine =>
          simp only [cached] at returned ⊢
          cases returned
          have served : shared.exec parse ticket op input .read =
              some (shared, .returned (.loaded (.ok engine))) := by
            rw [opEq]
            simp only [LoadShared.exec, LoadOp.language, cached]
          rw [opEq] at served ⊢
          exact ⟨shared, .act input served (.rest _ _), rfl⟩
      | none =>
          simp only [cached] at returned ⊢
          obtain ⟨later, loaded, registry⟩ := @load_alone _ parse ticket op
            { shared with loadLock := some ticket } inputs result (by rw [opEq]; exact returned)
          have missed : shared.exec parse ticket op input .read =
              some (shared, .running .lock) := by
            rw [opEq]
            simp only [LoadShared.exec, LoadOp.language, cached]
          have missedAgain : LoadShared.exec parse { shared with loadLock := some ticket } ticket op
              input .readAgain =
                some ({ shared with loadLock := some ticket }, .running (.ensure .isFresh)) := by
            rw [opEq]
            simp only [LoadShared.exec, LoadOp.language, cached]
          rw [opEq] at locks missed missedAgain loaded registry ⊢
          exact ⟨later, .act _ missed (.act _ locks (.act _ missedAgain loaded)), registry⟩

/-- `load`, when the lock is free. -/
theorem loadCall_alone {shared : LoadShared ε} (free : shared.loadLock = none) {language : String}
    {sourceUrl : Option String} {inputs : LoadInputs} {result : Except EngineError (Arc ε)}
    (returned : (shared.load (allocating parse shared.allocations) language sourceUrl
      inputs).result = some result) :
    ∃ later, Alone parse ticket (.load language sourceUrl) shared
        (.running (LoadOp.load language sourceUrl).entry) later (.returned (.loaded result)) ∧
      later.registry = (shared.load (allocating parse shared.allocations) language sourceUrl
        inputs).state.registry := by
  obtain ⟨later, loaded, registry⟩ := @load_alone _ parse ticket (.load language sourceUrl)
    { shared with loadLock := some ticket } inputs result returned
  have locks : shared.exec parse ticket (.load language sourceUrl) inputs.ensure.isFresh .lock =
      some ({ shared with loadLock := some ticket }, .running (.ensure .isFresh)) := by
    simp only [LoadShared.exec, LoadOp.locked, free]
  exact ⟨later, .act _ locks loaded, registry⟩

/-! ## Allocations -/

/-- The same engines; which allocation an engine sits in makes no difference. -/
structure EngineState.Shares (state : EngineState ε) (shared : EngineState (Arc ε)) : Prop where
  manager : shared.registry.dictionaryManager = state.registry.dictionaryManager
  disk : shared.disk = state.disk
  engines : ∀ language, state.registry.engines.lookup language =
    (shared.registry.engines.lookup language).map Arc.engine

structure LoadOutcome.Shares (outcome : LoadOutcome ε) (shared : LoadOutcome (Arc ε)) : Prop where
  result : outcome.result = shared.result.map (Except.map Arc.engine)
  engines : ∀ language, outcome.state.registry.engines.lookup language =
    (shared.state.registry.engines.lookup language).map Arc.engine

theorem loadFromPaths_allocating (allocation : ℕ) (affPath dicPath : String) (inputs : LoadInputs)
    (dir : LanguageDir) :
    loadFromPaths parse affPath dicPath inputs dir =
      (loadFromPaths (allocating parse allocation) affPath dicPath inputs dir).map Arc.engine := by
  unfold loadFromPaths
  cases readToString affPath inputs.readAff dir.aff with
  | error error => rfl
  | ok aff =>
      cases readToString dicPath inputs.readDic dir.dic with
      | error error => rfl
      | ok dic =>
          show newEngine parse aff dic = (newEngine (allocating parse allocation) aff dic).map _
          unfold newEngine allocating
          cases parse aff dic <;> rfl

namespace EngineState.Shares

variable {state : EngineState ε} {shared : EngineState (Arc ε)}

theorem insertEngine (shares : state.Shares shared) (language : String) (engine : Arc ε)
    (other : String) :
    (state.insertEngine language engine.engine).registry.engines.lookup other =
      ((shared.insertEngine language engine).registry.engines.lookup other).map Arc.engine := by
  rw [lookup_insertEngine, lookup_insertEngine]
  split
  · rfl
  · exact shares.engines other

theorem load (shares : state.Shares shared) (allocation : ℕ) (language : String)
    (sourceUrl : Option String) (inputs : LoadInputs) :
    (state.load parse language sourceUrl inputs).Shares
      (shared.load (allocating parse allocation) language sourceUrl inputs) := by
  have dir : shared.dirOf language = state.dirOf language := by
    unfold dirOf
    rw [shares.disk]
  unfold EngineState.load loadEnsured
  rw [shares.manager, dir]
  cases (ensureDictionary state.registry.dictionaryManager language sourceUrl inputs.ensure
      (state.dirOf language)).next with
  | running frame => exact ⟨rfl, shares.engines⟩
  | returned paths =>
      cases paths with
      | error error => exact ⟨rfl, shares.engines⟩
      | ok paths =>
          simp only [@loadFromPaths_allocating _ parse allocation paths.1 paths.2 inputs]
          cases loadFromPaths (allocating parse allocation) paths.1 paths.2 inputs _ with
          | error error => exact ⟨rfl, shares.engines⟩
          | ok engine => exact ⟨rfl, shares.insertEngine language engine⟩

theorem getOrLoad (shares : state.Shares shared) (allocation : ℕ) (language : String)
    (sourceUrl : Option String) (inputs : LoadInputs) :
    (state.getOrLoad parse language sourceUrl inputs).Shares
      (shared.getOrLoad (allocating parse allocation) language sourceUrl inputs) := by
  have loads := @load _ parse _ _ shares allocation language sourceUrl inputs
  unfold EngineState.getOrLoad
  rw [shares.engines language]
  cases sourceUrl with
  | some url => exact loads
  | none =>
      cases shared.registry.engines.lookup language with
      | some engine => exact ⟨rfl, shares.engines⟩
      | none => exact loads

end EngineState.Shares

/-! ## The lock is released -/

/-- An input with which an action fails. -/
def failingInput : DiskInput := { now := 0, failure := some "", answers := fun _ => .failed "" }

theorem ensure_frees (shared : LoadShared ε) (frame : EnsureFrame) :
    ∃ later finish, Alone parse ticket op shared (.running (.ensure frame)) later finish ∧
      later.loadLock = none := by
  have fails : ∀ (shared : LoadShared ε) (frame : EnsureFrame) (error : DictionaryError),
      frame.exec shared.registry.dictionaryManager op.language op.sourceUrl failingInput
        (shared.dirOf op.language) = .finish (shared.dirOf op.language) (.error error) →
      ∃ later finish, Alone parse ticket op shared (.running (.ensure frame)) later finish ∧
        later.loadLock = none := by
    intro shared frame error ends
    have executed : shared.exec parse ticket op failingInput (.ensure frame) =
        some (shared.setDir op.language (shared.dirOf op.language),
          .running (.unlock (.error (.dictionary error)))) := by
      simp only [LoadShared.exec, ends, EnsureOutcome.finish_next, EnsureOutcome.finish_dir]
    exact ⟨_, _, .act _ executed (unlock_alone failingInput _ _), rfl⟩
  cases frame with
  | isFresh =>
      have stale : shared.registry.dictionaryManager.isFresh failingInput
          (shared.dirOf op.language) = false := by
        rw [← Bool.not_eq_true, DictionaryManager.isFresh_iff]
        intro fresh
        cases fresh.1
      have executed : shared.exec parse ticket op failingInput (.ensure .isFresh) =
          some (shared.setDir op.language (shared.dirOf op.language),
            .running (.ensure .createDirAll)) := by
        simp only [LoadShared.exec, EnsureFrame.exec, stale]
        rfl
      obtain ⟨later, finish, alone, freed⟩ := fails _ .createDirAll _ rfl
      exact ⟨later, finish, .act _ executed alone, freed⟩
  | createDirAll => exact fails shared _ _ rfl
  | downloadAff => exact fails shared _ _ rfl
  | downloadDic => exact fails shared _ _ rfl
  | writeAff => exact fails shared _ _ rfl
  | renameAff => exact fails shared _ _ rfl
  | writeDic => exact fails shared _ _ rfl
  | renameDic => exact fails shared _ _ rfl

/-- A call under the lock can go on to release it. -/
theorem locked_frees (shared : LoadShared ε) {frame : LoadFrame ε} (locked : frame.Locked) :
    ∃ later finish, Alone parse ticket op shared (.running frame) later finish ∧
      later.loadLock = none := by
  have failed : ∀ error, shared.exec parse ticket op failingInput frame =
      some (shared, .running (.unlock (.error error))) →
      ∃ later finish, Alone parse ticket op shared (.running frame) later finish ∧
        later.loadLock = none := by
    intro error executed
    exact ⟨_, _, .act _ executed (unlock_alone failingInput shared _), rfl⟩
  cases frame with
  | read | lock | replace => exact locked.elim
  | readAgain =>
      cases cached : shared.registry.engines.lookup op.language with
      | some engine =>
          refine ⟨_, _, .act failingInput ?_ (unlock_alone failingInput shared (.ok engine)), rfl⟩
          simp only [LoadShared.exec, cached]
      | none =>
          obtain ⟨later, finish, alone, freed⟩ := @ensure_frees _ parse ticket op shared .isFresh
          refine ⟨later, finish, .act failingInput ?_ alone, freed⟩
          simp only [LoadShared.exec, cached]
  | ensure frame => exact ensure_frees shared frame
  | readAff => exact failed _ rfl
  | readDic => exact failed _ rfl
  | parse aff dic =>
      cases parsed : newEngine parse aff dic with
      | error error =>
          apply failed error
          simp only [LoadShared.exec, parsed]
      | ok engine =>
          have executed : shared.exec parse ticket op failingInput (.parse aff dic) =
              some ({ shared with
                  allocations := shared.allocations + 1
                  parsed := (ticket, op.language) :: shared.parsed },
                .running (.insert { allocation := shared.allocations, engine })) := by
            simp only [LoadShared.exec, parsed]
          exact ⟨_, _, .act _ executed (.act failingInput rfl (unlock_alone failingInput _ _)), rfl⟩
  | insert engine => exact ⟨_, _, .act failingInput rfl (unlock_alone failingInput _ _), rfl⟩
  | unlock result => exact ⟨_, _, unlock_alone failingInput shared result, rfl⟩

namespace LoadWorld

variable {guard : LoadWorld ε → LoadEvent ε → Prop} {world : LoadWorld ε}

/-- The lock becomes free, while a ticket stays unused. -/
theorem lock_freed (acts : ∀ world ticket input, guard world (.act ticket input))
    (guarded : world.LockGuarded) (unused : world.calls.lookup ticket = none) :
    ∃ events freed, Run (step parse) guard world events freed ∧ freed.loadLock = none ∧
      freed.calls.lookup ticket = none := by
  cases holder : world.loadLock with
  | none => exact ⟨[], world, .nil _, holder, unused⟩
  | some other =>
      obtain ⟨frame, running, locked⟩ := (guarded other).mp holder
      obtain ⟨op, stored⟩ := Calls.frameAt_eq_some_iff.mp running
      obtain ⟨later, finish, alone, free⟩ := locked_frees world.toLoadShared locked
      obtain ⟨events, freed, run, reached, _, others⟩ :=
        alone.run (fun world input => acts world other input) rfl stored
      have elsewhere : ticket ≠ other := by
        intro same
        rw [same, stored] at unused
        cases unused
      refine ⟨events, freed, run, ?_, (others ticket elsewhere).trans unused⟩
      rw [reached]
      exact free

/-- A call that is made and then acts on its own. -/
theorem call_returns (acts : ∀ world ticket input, guard world (.act ticket input))
    (called : guard world (.call ticket op)) (unused : world.calls.lookup ticket = none)
    {later : LoadShared ε} {result : LoadResult ε}
    (alone : Alone parse ticket op world.toLoadShared (.running op.entry) later (.returned result)) :
    ∃ events finish, Run (step parse) guard world events finish ∧
      finish.calls.Returned ticket op result := by
  have taken : world.step parse (.call ticket op) =
      some { world with calls := world.calls.start ticket op op.entry } := by
    simp only [step, unused]
  obtain ⟨events, finish, run, _, returned, _⟩ := @Alone.run _ _ _ _ _ _ _ _ guard
    (fun world input => acts world ticket input) alone
    { world with calls := world.calls.start ticket op op.entry } rfl (by
      rw [Calls.start, Dict.lookup_insert_ite, if_pos rfl])
  exact ⟨_, finish, .cons called taken run, returned⟩

end LoadWorld

end

end SpellServer
