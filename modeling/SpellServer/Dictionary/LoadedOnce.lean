import SpellServer.Dictionary.LoadAlone
import SpellServer.Dictionary.Serving

/-!
# Languages are loaded once

As long as there are only calls of `get_or_load` without a source, a language is
absent while a call under the lock loads it, so that none is loaded again.
-/

namespace SpellServer

open Library

namespace LoadWorld

section

variable {ε : Type} {parse : String → String → Option ε} {world next : LoadWorld ε}
  {event : LoadEvent ε}

/-- Where a call for a language may be. -/
def Consistent (engines : Dict String (Arc ε)) (language : String) :
    Status (LoadFrame ε) (LoadResult ε) → Prop
  | .running (.unlock (.ok engine)) | .returned (.loaded (.ok engine)) =>
      engines.lookup language = some engine
  | .running (.ensure _) | .running (.readAff _ _) | .running (.readDic _ _)
  | .running (.parse _ _) | .running (.insert _) => engines.lookup language = none
  | .running (.replace _) => False
  | _ => True

theorem consistent_loading_iff {engines : Dict String (Arc ε)} {language : String}
    {frame : LoadFrame ε} (loading : frame.Loading) :
    Consistent engines language (.running frame) ↔ engines.lookup language = none := by
  cases frame <;> first | exact Iff.rfl | exact loading.elim

/-- Engines that are added do not concern the calls outside the lock. -/
theorem Consistent.extend {engines later : Dict String (Arc ε)} {language : String}
    {status : Status (LoadFrame ε) (LoadResult ε)}
    (consistent : Consistent engines language status)
    (kept : ∀ engine, engines.lookup language = some engine → later.lookup language = some engine)
    (outside : ∀ frame, status = .running frame → ¬frame.Locked) :
    Consistent later language status := by
  cases status with
  | running frame =>
      have unlocked := outside frame rfl
      cases frame with
      | read => trivial
      | lock => trivial
      | replace => exact consistent
      | readAgain | ensure | readAff | readDic | parse | insert | unlock =>
          exact absurd trivial unlocked
  | returned result =>
      cases result with
      | loaded result =>
          cases result with
          | ok engine => exact kept engine consistent
          | error error => trivial
      | replaced => trivial
      | dropped => trivial

/-- What holds as long as there are only calls of `get_or_load` without a source. -/
structure LoadedOnce (world : LoadWorld ε) : Prop where
  guarded : world.LockGuarded
  lookups : ∀ {ticket call}, world.calls.lookup ticket = some call →
    ∃ language, call.op = .getOrLoad language none
  consistent : ∀ {ticket op status}, world.calls.lookup ticket = some { op, status } →
    Consistent world.registry.engines op.language status
  inserted : ∀ {ticket language}, (ticket, language) ∈ world.parsed →
    world.registry.engines.lookup language ≠ none ∨ ∃ op engine, op.language = language ∧
      world.calls.lookup ticket = some { op, status := .running (.insert engine) }
  once : (world.parsed.map Prod.snd).Nodup

namespace LoadedOnce

variable {ticket : ℕ} {op : LoadOp ε} {frame : LoadFrame ε} {shared : LoadShared ε}
  {status : Status (LoadFrame ε) (LoadResult ε)}

/-- The call that moves is consistent afterwards. -/
theorem consistent_move (sound : world.LoadedOnce)
    (running : world.calls.lookup ticket = some { op, status := .running frame })
    (move : LoadMove parse world.toLoadShared ticket op frame shared status) :
    Consistent shared.registry.engines op.language status := by
  have before := sound.consistent running
  cases move with
  | served cached => exact cached
  | missed => trivial
  | locked =>
      obtain ⟨language, same⟩ := sound.lookups running
      have lookup : op = .getOrLoad language none := same
      rw [lookup]
      trivial
  | servedAgain cached => exact cached
  | missedAgain absent => exact absent
  | loads loading still =>
      exact (consistent_loading_iff still).mpr ((consistent_loading_iff loading).mp before)
  | fails => trivial
  | parsed => exact before
  | inserted =>
      have installed := EngineState.lookup_insertEngine world.toEngineState op.language op.language
      rename_i engine
      rw [Consistent]
      exact (installed engine).trans (if_pos rfl)
  | unlocked =>
      rename_i result
      cases result with
      | ok engine => exact before
      | error error => trivial
  | replaced => exact before.elim

/-- An engine that is there is not replaced. -/
theorem kept_move (sound : world.LoadedOnce)
    (running : world.calls.lookup ticket = some { op, status := .running frame })
    (move : LoadMove parse world.toLoadShared ticket op frame shared status) {language : String}
    {engine : Arc ε} (cached : world.registry.engines.lookup language = some engine) :
    shared.registry.engines.lookup language = some engine := by
  have before := sound.consistent running
  cases move with
  | inserted =>
      have absent : world.registry.engines.lookup op.language = none := before
      have different : language ≠ op.language := by
        intro same
        rw [← same, cached] at absent
        cases absent
      exact (EngineState.lookup_insertEngine world.toEngineState op.language language _).trans
        ((if_neg different).trans cached)
  | replaced => exact before.elim
  | served | missed | locked | servedAgain | missedAgain | loads | fails | parsed | unlocked =>
      exact cached

/-- Another call is consistent afterwards. -/
theorem consistent_other (sound : world.LoadedOnce)
    (running : world.calls.lookup ticket = some { op, status := .running frame })
    (move : LoadMove parse world.toLoadShared ticket op frame shared status) {other : ℕ}
    (elsewhere : other ≠ ticket) {otherOp : LoadOp ε}
    {otherStatus : Status (LoadFrame ε) (LoadResult ε)}
    (stored : world.calls.lookup other = some { op := otherOp, status := otherStatus }) :
    Consistent shared.registry.engines otherOp.language otherStatus := by
  have before := sound.consistent stored
  by_cases locked : frame.Locked
  · refine before.extend (fun _ => sound.kept_move running move) ?_
    intro otherFrame equal otherLocked
    rw [equal] at stored
    exact elsewhere (sound.guarded.exclusive (Calls.frameAt_eq_some_iff.mpr ⟨_, running⟩) locked
      (Calls.frameAt_eq_some_iff.mpr ⟨_, stored⟩) otherLocked)
  · cases move with
    | served | missed | locked => exact before
    | replaced => exact (sound.consistent running).elim
    | loads loading | fails loading => exact absurd loading.locked locked
    | servedAgain | missedAgain | parsed | inserted | unlocked => exact absurd trivial locked

/-- What was parsed before the action is inserted, or about to be. -/
theorem inserted_move (sound : world.LoadedOnce)
    (running : world.calls.lookup ticket = some { op, status := .running frame })
    (move : LoadMove parse world.toLoadShared ticket op frame shared status) {entry : ℕ}
    {language : String} (parsed : (entry, language) ∈ world.parsed) :
    shared.registry.engines.lookup language ≠ none ∨ ∃ entryOp engine,
      entryOp.language = language ∧ AList.lookup entry (world.calls.advance ticket status) =
        some { op := entryOp, status := .running (.insert engine) } := by
  rcases sound.inserted parsed with present | ⟨entryOp, engine, named, stored⟩
  · left
    obtain ⟨engine, cached⟩ := Option.ne_none_iff_exists'.mp present
    rw [sound.kept_move running move cached]
    exact Option.some_ne_none engine
  · by_cases same : entry = ticket
    · subst entry
      rw [running] at stored
      cases stored
      cases move with
      | inserted =>
          left
          have installed := EngineState.lookup_insertEngine world.toEngineState op.language
            language engine
          rw [if_pos named.symm] at installed
          intro absent
          cases installed.symm.trans absent
      | loads loading | fails loading => exact loading.elim
    · right
      refine ⟨entryOp, engine, named, ?_⟩
      rw [Calls.lookup_advance, if_neg same]
      exact stored

/-- A language that is about to be parsed has not been parsed. -/
theorem not_parsed (sound : world.LoadedOnce) {aff dic : String}
    (running : world.calls.lookup ticket = some { op, status := .running (.parse aff dic) }) :
    op.language ∉ world.parsed.map Prod.snd := by
  intro member
  obtain ⟨⟨entry, language⟩, parsed, same⟩ := List.mem_map.mp member
  have absent : world.registry.engines.lookup op.language = none := sound.consistent running
  rcases sound.inserted parsed with present | ⟨entryOp, engine, _, stored⟩
  · rw [← same] at absent
    exact present absent
  · have here : entry = ticket := sound.guarded.exclusive
      (Calls.frameAt_eq_some_iff.mpr ⟨_, running⟩) trivial
      (Calls.frameAt_eq_some_iff.mpr ⟨_, stored⟩) trivial
    rw [here, running] at stored
    cases stored

theorem drop (sound : world.LoadedOnce) (running : world.calls.frameAt ticket = some frame)
    (loading : frame = .lock ∨ frame.Loading) {lock : Option ℕ}
    (guarded : Calls.Guarded LoadFrame.Locked lock
      (world.calls.advance ticket (.returned .dropped)))
    (lookups : ∀ {other call},
      (world.calls.advance ticket (.returned .dropped)).lookup other = some call →
        ∃ language, call.op = .getOrLoad language none) :
    LoadedOnce { world with
      loadLock := lock
      calls := world.calls.advance ticket (.returned .dropped) } := by
  obtain ⟨op, stored⟩ := Calls.frameAt_eq_some_iff.mp running
  refine ⟨guarded, lookups, ?_, ?_, sound.once⟩
  · intro other otherOp status found
    rw [Calls.lookup_advance] at found
    split at found
    · rw [stored] at found
      cases found
      trivial
    · exact sound.consistent found
  · intro entry language parsed
    rcases sound.inserted parsed with present | ⟨entryOp, engine, named, about⟩
    · exact Or.inl present
    · refine Or.inr ⟨entryOp, engine, named, ?_⟩
      rw [Calls.lookup_advance, if_neg]
      · exact about
      · intro same
        rw [same, stored] at about
        cases about
        rcases loading with waiting | loading
        · cases waiting
        · exact loading

theorem step (sound : world.LoadedOnce) (taken : Step parse world event next)
    (lookup : ∀ ticket op, event = .call ticket op → ∃ language, op = .getOrLoad language none) :
    next.LoadedOnce := by
  have guarded := sound.guarded.step taken
  have lookups : ∀ {other call}, next.calls.lookup other = some call →
      ∃ language, call.op = .getOrLoad language none := by
    intro other call found
    rcases op_of_step taken found with new | ⟨old, stored, same⟩
    · exact lookup other call.op new
    · rw [← same]
      exact sound.lookups stored
  cases taken with
  | call unused =>
      rename_i ticket op
      obtain ⟨language, named⟩ := lookup ticket op rfl
      refine ⟨guarded, lookups, ?_, ?_, sound.once⟩
      · intro other otherOp status found
        rw [Calls.start, Dict.lookup_insert_ite] at found
        split at found
        · cases found
          rw [named]
          trivial
        · exact sound.consistent found
      · intro entry language parsed
        rcases sound.inserted parsed with present | ⟨entryOp, engine, named, about⟩
        · exact Or.inl present
        · refine Or.inr ⟨entryOp, engine, named, ?_⟩
          rw [Calls.start, Dict.lookup_insert_ite, if_neg]
          · exact about
          · intro same
            rw [same, unused] at about
            cases about
  | act running move =>
      rename_i ticket input op frame shared status
      refine ⟨guarded, lookups, ?_, ?_, ?_⟩
      · intro other otherOp otherStatus found
        rw [Calls.lookup_advance] at found
        split at found
        · rw [running] at found
          cases found
          exact sound.consistent_move running move
        · rename_i elsewhere
          exact sound.consistent_other running move elsewhere found
      · intro entry language parsed
        rcases move.parsed_cases with same | ⟨aff, dic, engine, _, added, about⟩
        · rw [same] at parsed
          exact sound.inserted_move running move parsed
        · rw [added] at parsed
          rcases List.mem_cons.mp parsed with new | old
          · cases new
            refine Or.inr ⟨op, engine, rfl, ?_⟩
            rw [Calls.lookup_advance, if_pos rfl, running, about]
            rfl
          · exact sound.inserted_move running move old
      · rcases move.parsed_cases with same | ⟨aff, dic, engine, parsing, added, _⟩
        · rw [same]
          exact sound.once
        · rw [parsing] at running
          rw [added]
          exact List.nodup_cons.mpr ⟨sound.not_parsed running, sound.once⟩
  | dropWaiting running => exact sound.drop running (Or.inl rfl) guarded lookups
  | dropLoading running => exact sound.drop running (Or.inr trivial) guarded lookups
  | disk => exact ⟨guarded, lookups, sound.consistent, sound.inserted, sound.once⟩

theorem new (defaultLanguage : String) (engine : ε) (manager : DictionaryManager)
    (disk : Dict String LanguageDir) :
    (LoadWorld.new defaultLanguage engine manager disk).LoadedOnce := by
  constructor
  · exact Calls.Guarded.empty
  · intro ticket call found
    cases found
  · intro ticket op status found
    cases found
  · intro ticket language parsed
    cases parsed
  · exact List.nodup_nil

end LoadedOnce

end

end LoadWorld

/-! ## Runs -/

/-- The only calls are those of `get_or_load` without a source. -/
def LoadEvent.isLookup {ε : Type} : LoadEvent ε → Bool
  | .call _ (.getOrLoad _ none) => true
  | .call _ _ => false
  | _ => true

section

variable {ε : Type} (parse : String → String → Option ε)

abbrev LookupRun : LoadWorld ε → List (LoadEvent ε) → LoadWorld ε → Prop :=
  Run (LoadWorld.step parse) fun _ event => event.isLookup = true

abbrev LoadRun : LoadWorld ε → List (LoadEvent ε) → LoadWorld ε → Prop :=
  Run (LoadWorld.step parse) fun _ _ => True

end

namespace LoadWorld

section

variable {ε : Type} {parse : String → String → Option ε} {start world finish : LoadWorld ε}
  {events : List (LoadEvent ε)}

theorem LoadedOnce.run (sound : start.LoadedOnce) (run : LookupRun parse start events world) :
    world.LoadedOnce := by
  refine Run.invariant run ?_ sound
  intro state event next sound lookup taken
  refine sound.step (step_cases taken) ?_
  intro ticket op equal
  rw [equal] at lookup
  cases op with
  | getOrLoad language sourceUrl =>
      cases sourceUrl with
      | none => exact ⟨language, rfl⟩
      | some source => cases lookup
  | load => cases lookup
  | replace => cases lookup

theorem LockGuarded.run (guarded : start.LockGuarded) (run : LoadRun parse start events world) :
    world.LockGuarded := by
  refine Run.invariant run ?_ guarded
  intro state event next guarded _ taken
  exact guarded.step (step_cases taken)

/-- A language that has an engine keeps one. -/
theorem lookup_run (run : LoadRun parse start events world) {language : String}
    (present : start.registry.engines.lookup language ≠ none) :
    world.registry.engines.lookup language ≠ none := by
  refine @Run.invariant _ _ _ _ _ _ _
    (fun world : LoadWorld ε => world.registry.engines.lookup language ≠ none) run ?_ present
  intro state event next present _ taken
  cases step_cases taken with
  | act running move =>
      rcases move.lookup language with same | ⟨_, inserted⟩
      · rw [same]
        exact present
      · exact inserted
  | call | dropWaiting | dropLoading | disk => exact present

theorem defaultLanguage_run (run : LoadRun parse start events world) :
    world.registry.defaultLanguage = start.registry.defaultLanguage := by
  refine @Run.invariant _ _ _ _ _ _ _ (fun world : LoadWorld ε =>
    world.registry.defaultLanguage = start.registry.defaultLanguage) run ?_ rfl
  intro state event next same _ taken
  cases step_cases taken with
  | act running move => exact move.defaultLanguage.trans same
  | call | dropWaiting | dropLoading | disk => exact same

/-- The outcome of the call can only be this one. -/
def Decided (world : LoadWorld ε) (ticket : ℕ) (result : LoadResult ε) : Prop :=
  ∃ op, world.calls.lookup ticket = some { op, status := .returned result } ∨
    ∃ loaded, result = .loaded loaded ∧
      world.calls.lookup ticket = some { op, status := .running (.unlock loaded) }

theorem Decided.step {ticket : ℕ} {result : LoadResult ε} {event : LoadEvent ε}
    (decided : world.Decided ticket result) (taken : Step parse world event finish) :
    finish.Decided ticket result := by
  obtain ⟨op, decided⟩ := decided
  have stored : world.calls.lookup ticket ≠ none := by
    rcases decided with stored | ⟨loaded, _, stored⟩ <;> rw [stored] <;> exact Option.some_ne_none _
  -- A call that is dropped is not decided yet.
  have dropped : ∀ {other frame}, world.calls.frameAt other = some frame →
      (∀ loaded, frame ≠ .unlock loaded) → ticket ≠ other := by
    intro other frame running undecided same
    obtain ⟨otherOp, otherStored⟩ := Calls.frameAt_eq_some_iff.mp running
    rw [← same] at otherStored
    rcases decided with stored | ⟨loaded, _, stored⟩
    · cases stored.symm.trans otherStored
    · cases stored.symm.trans otherStored
      exact undecided loaded rfl
  cases taken with
  | call unused =>
      rename_i other otherOp
      have elsewhere : ticket ≠ other := by
        intro same
        rw [same] at stored
        exact stored unused
      refine ⟨op, ?_⟩
      rw [Calls.start, Dict.lookup_insert_ite, if_neg elsewhere]
      exact decided
  | act running move =>
      rename_i other input otherOp frame shared status
      by_cases same : ticket = other
      · subst other
        rcases decided with returned | ⟨loaded, result, about⟩
        · cases running.symm.trans returned
        · cases running.symm.trans about
          cases move with
          | unlocked =>
              refine ⟨op, Or.inl ?_⟩
              rw [Calls.lookup_advance, if_pos rfl, running, result]
              rfl
          | loads loading | fails loading => exact loading.elim
      · refine ⟨op, ?_⟩
        rw [Calls.lookup_advance, if_neg same]
        exact decided
  | dropWaiting running =>
      refine ⟨op, ?_⟩
      rw [Calls.lookup_advance, if_neg (dropped running fun _ equal => by cases equal)]
      exact decided
  | dropLoading running =>
      refine ⟨op, ?_⟩
      rw [Calls.lookup_advance, if_neg (dropped running fun _ equal => by cases equal)]
      exact decided
  | disk => exact ⟨op, decided⟩

/-- Only a call that succeeds changes the engines. -/
theorem act_failed {ticket : ℕ} {input : DiskInput} {op : LoadOp ε} {error : EngineError}
    (taken : start.step parse (.act ticket input) = some world)
    (run : LoadRun parse world events finish)
    (failed : finish.calls.Returned ticket op (.loaded (.error error))) :
    world.registry.engines = start.registry.engines := by
  have undecided : ∀ result, result ≠ .loaded (.error error) → ¬world.Decided ticket result := by
    intro result different decided
    have ended : finish.Decided ticket result := by
      refine @Run.invariant _ _ _ _ _ _ _
        (fun world : LoadWorld ε => world.Decided ticket result) run ?_ decided
      intro state event next decided _ taken
      exact decided.step (step_cases taken)
    obtain ⟨endOp, returned | ⟨loaded, _, about⟩⟩ := ended
    · cases returned.symm.trans failed
      exact different rfl
    · cases about.symm.trans failed
  cases step_cases taken with
  | act running move =>
      rename_i callOp frame shared status
      cases move with
      | inserted =>
          rename_i engine
          have different : LoadResult.loaded (.ok engine) ≠ .loaded (.error error) := by
            intro equal
            cases equal
          refine absurd ⟨callOp, Or.inr ⟨_, rfl, ?_⟩⟩ (undecided _ different)
          rw [Calls.lookup_advance, if_pos rfl, running]
          rfl
      | replaced =>
          have different : (LoadResult.replaced : LoadResult ε) ≠ .loaded (.error error) := by
            intro equal
            cases equal
          refine absurd ⟨callOp, Or.inl ?_⟩ (undecided _ different)
          rw [Calls.lookup_advance, if_pos rfl, running]
          rfl
      | served | missed | locked | servedAgain | missedAgain | loads | fails | parsed | unlocked =>
          rfl

end

end LoadWorld

/-! ## Loaded once -/

/-- With calls of `get_or_load` alone, each language is parsed at most once, all calls get
the same engine, and the next call can succeed whatever came before.  With other calls
as well, loads take turns, failed ones leave the engines, and no engine is ever missing
again, least of all the default one. -/
theorem get_or_load_once {ε : Type} (parse : String → String → Option ε) (defaultLanguage : String)
    (engine : ε) (manager : DictionaryManager) (disk : Dict String LanguageDir) :
    (∀ events world,
      LookupRun parse (LoadWorld.new defaultLanguage engine manager disk) events world →
      (∀ language, (world.parsed.map Prod.snd).count language ≤ 1) ∧
      (∀ language one two first second,
        world.calls.Returned one (.getOrLoad language none) (.loaded (.ok first)) →
        world.calls.Returned two (.getOrLoad language none) (.loaded (.ok second)) →
          first = second) ∧
      ∀ ticket language, world.calls.lookup ticket = none →
        ∃ earlier freed, LookupRun parse world earlier freed ∧ ∀ inputs loaded,
          (freed.getOrLoad (allocating parse freed.allocations) language none inputs).result =
              some (.ok loaded) →
            ∃ later finish, LookupRun parse freed later finish ∧
              finish.calls.Returned ticket (.getOrLoad language none) (.loaded (.ok loaded))) ∧
    ∀ events world, LoadRun parse (LoadWorld.new defaultLanguage engine manager disk) events world →
      world.registry.defaultEngine ≠ none ∧
      (∀ one two first second, world.calls.frameAt one = some first → first.Loading →
        world.calls.frameAt two = some second → second.Loading → one = two) ∧
      (∀ later finish language, LoadRun parse world later finish →
        world.registry.engines.lookup language ≠ none →
          finish.registry.engines.lookup language ≠ none) ∧
      ∀ ticket input after later finish op error,
        world.step parse (.act ticket input) = some after → LoadRun parse after later finish →
        finish.calls.Returned ticket op (.loaded (.error error)) →
          after.registry.engines = world.registry.engines := by
  constructor
  · intro events world run
    have sound := (LoadWorld.LoadedOnce.new defaultLanguage engine manager disk).run run
    refine ⟨List.nodup_iff_count_le_one.mp sound.once, ?_, ?_⟩
    · intro language one two first second returned otherReturned
      have cached : world.registry.engines.lookup language = some first := sound.consistent returned
      have otherCached : world.registry.engines.lookup language = some second :=
        sound.consistent otherReturned
      exact Option.some.inj (cached.symm.trans otherCached)
    · intro ticket language unused
      obtain ⟨earlier, freed, run, free, unused⟩ := @LoadWorld.lock_freed _ parse _
        (fun _ event => event.isLookup = true) _ (fun _ _ _ => rfl) sound.guarded unused
      refine ⟨earlier, freed, run, ?_⟩
      intro inputs loaded returned
      obtain ⟨later, alone, _⟩ := @getOrLoad_alone _ _ ticket _ free _ _ _ _ returned
      exact LoadWorld.call_returns (fun _ _ _ => rfl) rfl unused alone
  · intro events world run
    have initial : (LoadWorld.new defaultLanguage engine manager disk).LockGuarded :=
      Calls.Guarded.empty
    have guarded := initial.run run
    refine ⟨?_, ?_, ?_, ?_⟩
    · unfold EngineRegistry.defaultEngine
      rw [LoadWorld.defaultLanguage_run run]
      apply LoadWorld.lookup_run run
      have loaded : (LoadWorld.new defaultLanguage engine manager disk).registry.engines.lookup
          defaultLanguage = some { allocation := 0, engine } := AList.lookup_insert _
      intro absent
      cases loaded.symm.trans absent
    · intro one two first second running loading otherRunning otherLoading
      exact guarded.exclusive otherRunning otherLoading.locked running loading.locked
    · intro later finish language following present
      exact LoadWorld.lookup_run following present
    · intro ticket input after later finish op error taken following failed
      exact LoadWorld.act_failed taken following failed

/-! ## Two calls at once -/

/-- A server with the files of a second language. -/
def startedWorld : LoadWorld (String × String) :=
  .new "en_US" ("SET UTF-8\n", "1\nhello\n") EngineState.cachedState.registry.dictionaryManager
    EngineState.cachedState.disk

/-- Both calls miss before the first one loads. -/
def concurrentCalls : List (LoadEvent (String × String)) :=
  let input := EngineState.laterInputs.ensure.isFresh
  [.call 0 (.getOrLoad "fr_FR" none), .call 1 (.getOrLoad "fr_FR" none), .act 0 input,
    .act 1 input, .act 0 input, .act 0 input, .act 0 input, .act 0 input, .act 0 input,
    .act 0 input, .act 0 input, .act 0 input, .act 1 input, .act 1 input, .act 1 input]

def loadsFrench (world : LoadWorld (String × String)) (ticket : ℕ) : Bool :=
  match world.calls.lookup ticket with
  | some { op, status := .returned (.loaded (.ok _)) } => op = .getOrLoad "fr_FR" none
  | _ => false

theorem loadsFrench_returned {world : LoadWorld (String × String)} {ticket : ℕ}
    (loads : loadsFrench world ticket = true) :
    ∃ engine, world.calls.Returned ticket (.getOrLoad "fr_FR" none) (.loaded (.ok engine)) := by
  unfold loadsFrench at loads
  split at loads
  · rename_i op engine stored
    rw [of_decide_eq_true loads] at stored
    exact ⟨engine, stored⟩
  · cases loads

theorem concurrent_calls_share_engine :
    ∃ world engine, LookupRun (fun aff dic => some (aff, dic)) startedWorld concurrentCalls world ∧
      world.calls.Returned 0 (.getOrLoad "fr_FR" none) (.loaded (.ok engine)) ∧
      world.calls.Returned 1 (.getOrLoad "fr_FR" none) (.loaded (.ok engine)) := by
  obtain ⟨world, run, outcome⟩ := @Run.exists_of_runEvents _ _
    (LoadWorld.step fun aff dic => some (aff, dic)) startedWorld concurrentCalls
    (fun _ event => event.isLookup) (fun world => loadsFrench world 0 && loadsFrench world 1)
    (by decide +kernel)
  obtain ⟨first, second⟩ := Bool.and_eq_true_iff.mp outcome
  obtain ⟨engine, returned⟩ := loadsFrench_returned first
  obtain ⟨other, otherReturned⟩ := loadsFrench_returned second
  have same := ((get_or_load_once _ _ _ _ _).1 _ _ run).2.1 _ _ _ _ _ returned otherReturned
  rw [← same] at otherReturned
  exact ⟨world, engine, run, returned, otherReturned⟩

end SpellServer
