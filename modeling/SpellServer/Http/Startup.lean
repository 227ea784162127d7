import SpellServer.Dictionary.Pairs
import SpellServer.Dictionary.Registration
import SpellServer.Http.LanguageCodes
import SpellServer.Store.BootstrapReset
import SpellServer.Store.PlatformAccess

/-!
# Starting the server

A server that has bound its port has an engine for its own language and for
every dictionary that was registered when it started, and keeps one, so spell
checks in these languages never wait for a download.  A start that issues a
bootstrap key has no dictionary to load and goes on to print the key.
-/

namespace SpellServer

open Library

/-! ## Engines that have been loaded -/

namespace LoadWorld

/-- A call that has an engine to return. -/
def Succeeded {ε : Type} : Status (LoadFrame ε) (LoadResult ε) → Prop
  | .running (.unlock (.ok _)) | .returned (.loaded (.ok _)) => True
  | _ => False

variable {ε : Type} {parse : String → String → Option ε} {world next : LoadWorld ε}
  {event : LoadEvent ε}

/-- Engines are never removed. -/
theorem lookup_of_step (taken : Step parse world event next) {language : String}
    (cached : world.registry.engines.lookup language ≠ none) :
    next.registry.engines.lookup language ≠ none := by
  cases taken with
  | act running move =>
      rcases move.lookup language with same | ⟨_, present⟩
      · rwa [same]
      · exact present
  | call | dropWaiting | dropLoading | disk => exact cached

/-- Calls are never forgotten. -/
theorem call_of_step (taken : Step parse world event next) {ticket : ℕ}
    {call : Call (LoadOp ε) (LoadFrame ε) (LoadResult ε)}
    (made : world.calls.lookup ticket = some call) :
    ∃ later, next.calls.lookup ticket = some later ∧ later.op = call.op := by
  have advanced : ∀ other status, ∃ later,
      (world.calls.advance other status).lookup ticket = some later ∧ later.op = call.op := by
    intro other status
    rw [Calls.lookup_advance]
    split
    · rename_i same
      rw [← same, made]
      exact ⟨_, rfl, rfl⟩
    · exact ⟨call, made, rfl⟩
  cases taken with
  | @call other op unused =>
      refine ⟨call, ?_, rfl⟩
      rw [Calls.start, Dict.lookup_insert_ite, if_neg]
      · exact made
      · rintro rfl
        cases unused.symm.trans made
  | act => exact advanced _ _
  | dropWaiting => exact advanced _ _
  | dropLoading => exact advanced _ _
  | disk => exact ⟨call, made, rfl⟩

/-- The languages of the calls that have succeeded have engines. -/
def LoadsHeld (world : LoadWorld ε) : Prop :=
  ∀ ticket op status, world.calls.lookup ticket = some { op, status } → Succeeded status →
    world.registry.engines.lookup op.language ≠ none

theorem loadsHeld_new (language : String) (engine : ε) (manager : DictionaryManager)
    (disk : Dict String LanguageDir) : (new language engine manager disk).LoadsHeld := by
  intro ticket op status made
  cases made

theorem LoadsHeld.step (held : world.LoadsHeld) (taken : Step parse world event next) :
    next.LoadsHeld := by
  -- A call that succeeds with this step, or had before.
  have advanced : ∀ {other : ℕ} {status : Status (LoadFrame ε) (LoadResult ε)},
      (∀ op old, world.calls.lookup other = some { op, status := old } → Succeeded status →
        next.registry.engines.lookup op.language ≠ none) →
      next.calls = world.calls.advance other status → next.LoadsHeld := by
    intro other status own same ticket op seen made succeeded
    rw [same, Calls.lookup_advance] at made
    split at made
    · rename_i equal
      obtain ⟨⟨oldOp, old⟩, stored, moved⟩ := Option.map_eq_some_iff.mp made
      cases moved
      exact own _ _ stored succeeded
    · exact lookup_of_step taken (held _ _ _ made succeeded)
  cases taken with
  | @call other op unused =>
      intro ticket seenOp status made succeeded
      rw [Calls.start, Dict.lookup_insert_ite] at made
      split at made
      · cases made
        revert succeeded
        unfold LoadOp.entry
        split <;> exact False.elim
      · exact held _ _ _ made succeeded
  | @act ticket input op frame shared status running move =>
      refine advanced ?_ rfl
      intro seenOp old stored succeeded
      cases running.symm.trans stored
      cases move with
      | served cached =>
          rw [cached]
          exact Option.some_ne_none _
      | servedAgain cached =>
          rw [cached]
          exact Option.some_ne_none _
      | inserted =>
          rename_i engine
          have installed :=
            EngineState.lookup_insertEngine world.toEngineState op.language op.language engine
          rw [if_pos rfl] at installed
          intro absent
          cases installed.symm.trans absent
      | @unlocked result =>
          cases result with
          | ok engine => exact held _ _ _ running trivial
          | error error => exact succeeded.elim
      | locked free =>
          revert succeeded
          unfold LoadOp.locked
          split <;> exact False.elim
      | loads loading still =>
          rename_i later disk
          cases later <;> first | exact succeeded.elim | exact still.elim
      | missed | missedAgain | fails | parsed | replaced => exact succeeded.elim
  | dropWaiting running =>
      refine advanced ?_ rfl
      intro op old stored succeeded
      exact succeeded.elim
  | dropLoading running =>
      refine advanced ?_ rfl
      intro op old stored succeeded
      exact succeeded.elim
  | disk => exact held

end LoadWorld

/-! ## What an event can do -/

def ServerEvent.isStart [Driver] {ε : Type} : ServerEvent ε → Bool
  | .start _ _ _ _ => true
  | _ => false

namespace ServerWorld

section

variable [Driver] {ε : Type} {hashKey : String → String} {parse : String → String → Option ε}
  {parseUri : String → Option Uri} {world next started finish : ServerWorld ε}
  {event : ServerEvent ε}

/-- The store, the engines or the phase moves, or a start replaces them all. -/
inductive Moves (hashKey : String → String) (parse : String → String → Option ε)
    (world : ServerWorld ε) : ServerEvent ε → ServerWorld ε → Prop where
  | stays {event : ServerEvent ε} : Moves hashKey parse world event world
  | store {event : ServerEvent ε} {own : Event} {store : World}
      (registering : Dict ℕ AddDictionaryRequest)
      (taken : world.store.step hashKey own = some store)
      (runs : ∀ now input, own ≠ .restart now input)
      (serves : ∀ ticket op, own = .call ticket op → world.phase = .serving) :
      Moves hashKey parse world event { world with store, registering }
  | engines {event : ServerEvent ε} {own : LoadEvent ε} {engines : LoadWorld ε}
      (taken : world.engines.step parse own = some engines) :
      Moves hashKey parse world event { world with engines }
  | starts {now : Clock} {input : Input} {store : World} (engine : ε)
      (disk : Dict String LanguageDir)
      (taken : world.store.step hashKey (.restart now input) = some store) :
      Moves hashKey parse world (.start now input engine disk)
        (world.started store
          ((Store.open hashKey now input world.store.store.pool).bind Opened.bootstrap) engine disk)
  | warms {ticket position : ℕ} {sources : List (String × String)} {source : String × String}
      {engines : LoadWorld ε} (starting : world.phase = .starting sources)
      (picked : sources[position]? = some source)
      (taken : world.engines.step parse (.call ticket (.load source.1 (some source.2))) =
        some engines) :
      Moves hashKey parse world (.warm ticket position)
        { world with phase := .starting (sources.eraseIdx position), engines }
  | serves (starting : world.phase = .starting []) (loaded : world.allLoaded = true) :
      Moves hashKey parse world .serve world.served

theorem callStore_moves {ticket : ℕ} {op : Op} {registering : Dict ℕ AddDictionaryRequest}
    (serving : world.phase = .serving)
    (taken : ({ world with registering } : ServerWorld ε).callStore hashKey ticket op = some next) :
    Moves hashKey parse world event next := by
  obtain ⟨store, stepped, rfl⟩ := Option.map_eq_some_iff.mp taken
  exact .store registering stepped (fun _ _ same => by cases same) fun _ _ _ => serving

theorem callEngines_moves {ticket : ℕ} {op : LoadOp ε}
    (taken : world.callEngines parse ticket op = some next) :
    Moves hashKey parse world event next := by
  obtain ⟨engines, stepped, rfl⟩ := Option.map_eq_some_iff.mp taken
  exact .engines stepped

theorem request_moves {ticket : ℕ} {request : LanguageRequest} (serving : world.phase = .serving)
    (taken : world.request hashKey parse parseUri ticket request = some next) :
    Moves hashKey parse world event next := by
  cases request with
  | createTenant body =>
      cases accepted : createTenant body with
      | error error =>
          simp only [ServerWorld.request, accepted] at taken
          cases taken
          exact .stays
      | ok op =>
          simp only [ServerWorld.request, accepted] at taken
          exact callStore_moves serving taken
  | updateTenant id body =>
      cases accepted : updateTenant id body with
      | error error =>
          simp only [ServerWorld.request, accepted] at taken
          cases taken
          exact .stays
      | ok op =>
          simp only [ServerWorld.request, accepted] at taken
          exact callStore_moves serving taken
  | addDictionary body =>
      cases accepted : registeredBody parseUri body with
      | error error =>
          simp only [ServerWorld.request, accepted] at taken
          cases taken
          exact .stays
      | ok req =>
          simp only [ServerWorld.request, accepted] at taken
          exact callStore_moves serving taken
  | spellcheck tenantId body =>
      cases accepted : spellcheckBody body with
      | error error =>
          simp only [ServerWorld.request, accepted] at taken
          cases taken
          exact .stays
      | ok req =>
          simp only [ServerWorld.request, accepted] at taken
          exact callEngines_moves taken

theorem step_moves (taken : world.step hashKey parse parseUri event = some next) :
    Moves hashKey parse world event next := by
  cases event with
  | request ticket request =>
      simp only [ServerWorld.step] at taken
      split at taken
      · rename_i serving
        exact request_moves serving taken
      · cases taken
  | load ticket =>
      simp only [ServerWorld.step] at taken
      split at taken
      · cases taken
      · split at taken
        · exact callEngines_moves taken
        · cases taken
  | store own =>
      cases own with
      | call ticket op =>
          simp only [ServerWorld.step] at taken
          split at taken
          · rename_i admitted
            exact callStore_moves admitted.1 taken
          · cases taken
      | act | background =>
          simp only [ServerWorld.step] at taken
          obtain ⟨store, stepped, rfl⟩ := Option.map_eq_some_iff.mp taken
          exact .store world.registering stepped (fun _ _ same => by cases same)
            fun _ _ same => by cases same
      | restart now input => cases taken
  | engine own =>
      cases own with
      | call ticket op => cases taken
      | act | drop | disk =>
          simp only [ServerWorld.step] at taken
          obtain ⟨engines, stepped, rfl⟩ := Option.map_eq_some_iff.mp taken
          exact .engines stepped
  | start now input engine disk =>
      obtain ⟨store, stepped, rfl⟩ := Option.map_eq_some_iff.mp taken
      exact .starts engine disk stepped
  | warm ticket position =>
      simp only [ServerWorld.step] at taken
      split at taken
      · rename_i sources starting
        split at taken
        · rename_i source picked
          split at taken
          · obtain ⟨engines, stepped, rfl⟩ := Option.map_eq_some_iff.mp taken
            exact .warms starting picked stepped
          · cases taken
        · cases taken
      · cases taken
  | serve =>
      simp only [ServerWorld.step] at taken
      split at taken
      · rename_i ready
        cases taken
        exact .serves ready.1 ready.2
      · cases taken

/-! ## Languages that are ready -/

/-- The languages that a server starts with have engines, or their loads come before
the port. -/
structure Readies (codes : List String) (world : ServerWorld ε) : Prop where
  held : world.engines.LoadsHeld
  configured : world.engines.registry.engines.lookup world.language ≠ none
  starting : ∀ sources, world.phase = .starting sources → ∀ code ∈ codes,
    (∃ source ∈ sources, source.1 = code) ∨
      ∃ ticket call, world.engines.calls.lookup ticket = some call ∧ call.op.language = code
  serving : world.phase = .serving →
    ∀ code ∈ codes, world.engines.registry.engines.lookup code ≠ none

variable {codes : List String}

theorem allLoaded_succeeded (loaded : world.allLoaded = true) {ticket : ℕ}
    {call : Call (LoadOp ε) (LoadFrame ε) (LoadResult ε)}
    (made : world.engines.calls.lookup ticket = some call) : LoadWorld.Succeeded call.status := by
  have each := List.all_eq_true.mp loaded call (Dict.mem_values_iff.mpr ⟨ticket, made⟩)
  split at each
  · rename_i returned
    rw [returned]
    trivial
  · cases each

theorem Readies.engines (ready : Readies codes world) {own : LoadEvent ε} {engines : LoadWorld ε}
    (taken : world.engines.step parse own = some engines) :
    Readies codes { world with engines } := by
  have cases := LoadWorld.step_cases taken
  refine ⟨ready.held.step cases, LoadWorld.lookup_of_step cases ready.configured, ?_, ?_⟩
  · intro sources starting code member
    rcases ready.starting sources starting code member with left | ⟨ticket, call, made, same⟩
    · exact Or.inl left
    · obtain ⟨later, kept, op⟩ := LoadWorld.call_of_step cases made
      exact Or.inr ⟨ticket, later, kept, op ▸ same⟩
  · intro serving code member
    exact LoadWorld.lookup_of_step cases (ready.serving serving code member)

theorem Readies.starts (world : ServerWorld ε) (store : World)
    (bootstrapKey : Option CreatedApiKey) (engine : ε) (disk : Dict String LanguageDir) :
    Readies (store.store.dictionaries.values.map DictionaryInfo.code)
      (world.started store bootstrapKey engine disk) := by
  refine ⟨LoadWorld.loadsHeld_new world.language engine world.manager disk, ?_, ?_, ?_⟩
  · have present : (LoadWorld.new world.language engine world.manager disk).registry.engines.lookup
        world.language = some { allocation := 0, engine } := AList.lookup_insert _
    intro absent
    cases present.symm.trans absent
  · intro sources starting code member
    cases starting
    obtain ⟨info, listed, rfl⟩ := List.mem_map.mp member
    exact Or.inl ⟨_, List.mem_map_of_mem listed, rfl⟩
  · intro serving
    cases serving

/-- Events after the start keep the languages ready. -/
theorem Readies.moves (ready : Readies codes world) (moves : Moves hashKey parse world event next)
    (later : event.isStart = false) : Readies codes next := by
  cases moves with
  | stays => exact ready
  | store registering taken runs serves =>
      exact ⟨ready.held, ready.configured, ready.starting, ready.serving⟩
  | engines taken => exact ready.engines taken
  | starts engine disk taken => cases later
  | @warms ticket position sources source engines starting picked taken =>
      have moved := ready.engines taken
      refine ⟨moved.held, moved.configured, ?_, ?_⟩
      · intro left same code member
        cases same
        rcases moved.starting sources starting code member with ⟨listed, inside, rfl⟩ | made
        · by_cases own : listed = source
          · -- The source that is being warmed has a call now.
            right
            obtain ⟨call, found, op⟩ : ∃ call, engines.calls.lookup ticket = some call ∧
                call.op = .load source.1 (some source.2) := by
              cases LoadWorld.step_cases taken with
              | call unused => exact ⟨_, AList.lookup_insert _, rfl⟩
            refine ⟨ticket, call, found, ?_⟩
            rw [op, own]
            rfl
          · left
            refine ⟨listed, ?_, rfl⟩
            obtain ⟨inRange, same⟩ := List.getElem?_eq_some_iff.mp picked
            rw [List.mem_eraseIdx_iff_getElem?]
            obtain ⟨index, found⟩ := List.getElem?_of_mem inside
            refine ⟨index, ?_, found⟩
            rintro rfl
            exact own (Option.some.inj (found.symm.trans picked))
        · exact Or.inr made
      · intro serving
        cases serving
  | serves starting loaded =>
      refine ⟨ready.held, ready.configured, ?_, ?_⟩
      · intro sources same
        cases same
      · intro _ code member
        rcases ready.starting [] starting code member with ⟨_, none, _⟩ | ⟨ticket, call, made, same⟩
        · cases none
        · rw [← same]
          exact ready.held ticket call.op call.status made (allLoaded_succeeded loaded made)

/-! ## The bootstrap key -/

/-- The store as the first start leaves it, with the key it has issued. -/
structure FirstOpened (hashKey : String → String) (store : World) (created : CreatedApiKey) :
    Prop where
  tasks : store.tasks = []
  calls : store.calls = ∅
  issued : store.issued = [(created.record.id, created.rawKey)]
  platform : created.record.role = .platform
  authenticates : ∀ input rest,
    store.store.runAlone hashKey (input :: rest) (Op.authenticate created.rawKey).entry =
      some (store.store, .authenticated (some created.record))

/-- The key waits to be printed, and no dictionary stands before it. -/
structure Waiting (hashKey : String → String) (world : ServerWorld ε) (created : CreatedApiKey) :
    Prop where
  pending : world.bootstrapKey = some created
  phase : world.phase = .starting []
  idle : world.engines.calls = ∅
  unregistered : world.registering = ∅
  unprinted : world.printed = []
  store : FirstOpened hashKey world.store created

/-- What has been printed is the first raw key that was ever generated. -/
def FirstPrinted (world : ServerWorld ε) : Prop :=
  ∃ id rawKey rest, world.store.issued = (id, rawKey) :: rest ∧ world.printed = [rawKey]

/-- Before the first start nothing is stored, and from it on there is platform access. -/
inductive Founded (hashKey : String → String) (world : ServerWorld ε) : Prop where
  | stopped (phase : world.phase = .stopped) (blank : world.store = .blank)
      (pending : world.bootstrapKey = none) (unprinted : world.printed = [])
  | waiting (created : CreatedApiKey) (waits : Waiting hashKey world created)
      (owned : world.store.RevokesOwned) (access : world.store.store.pool.PlatformAccess)
  | running (started : world.phase ≠ .stopped) (pending : world.bootstrapKey = none)
      (printed : world.printed = [] ∨ FirstPrinted world)
      (owned : world.store.RevokesOwned) (access : world.store.store.pool.PlatformAccess)

theorem blank_step {own : Event} {store : World} (taken : World.blank.step hashKey own = some store)
    (called : ∀ ticket op, own ≠ .call ticket op) (runs : ∀ now input, own ≠ .restart now input) :
    False := by
  rcases World.step_cases taken with ⟨ticket, op, rfl, _⟩ | ⟨ticket, input, frame, rfl, _, running, _⟩ |
    ⟨position, succeeds, task, rfl, found, _⟩ | ⟨now, input, _, rfl, _⟩
  · exact called ticket op rfl
  · cases running
  · cases found
  · exact runs now input rfl

/-- The first start finds an empty database: it issues a key, and has no dictionary
to load. -/
theorem blank_started {now : Clock} {input : Input} {store : World}
    (taken : World.blank.step hashKey (.restart now input) = some store) :
    store.store.pool.PlatformAccess ∧ store.store.dictionaries.values = [] ∧
      ∃ created, (Store.open hashKey now input World.blank.store.pool).bind Opened.bootstrap =
          some created ∧ FirstOpened hashKey store created := by
  rcases World.step_cases taken with ⟨_, _, other, _⟩ | ⟨_, _, _, other, _⟩ | ⟨_, _, _, other, _⟩ |
    ⟨_, _, opened, same, _, success, rfl⟩
  · cases other
  · cases other
  · cases other
  · cases same
    have reached : World.ReachableWhen hashKey
        (fun before event => keysValidated before event = true) .blank := ⟨[], .nil _⟩
    have access := Store.open_platformAccess (World.reachable_keysShaped reached).store
      World.blank_revokesOwned.written (World.reachable_platformKeysLast reached.reachable) success
    refine ⟨access, ?_⟩
    rcases Store.open_cases success with rfl | ⟨inserted, _, rfl⟩
    · obtain ⟨row, member, _⟩ := access
      cases member
    · refine ⟨rfl, newApiKey hashKey input none "bootstrap" .platform none, ?_, ?_⟩
      · rw [success]
        rfl
      · refine ⟨rfl, rfl, rfl, rfl, ?_⟩
        intro later rest
        apply Store.runAlone_authenticate_cached rfl
        · exact AList.lookup_insert _
        · intro time
          simp [newApiKey, KeyRecord.isActive]

/-- While the key waits, only the files move; the next start finds its row, and the port
is reached with nothing in between. -/
theorem Waiting.step {created : CreatedApiKey} (waits : Waiting hashKey world created)
    (taken : world.step hashKey parse parseUri event = some next) :
    Waiting hashKey next created ∧ next.store = world.store ∨
      (∃ now input engine disk, event = .start now input engine disk) ∨
      event = .serve ∧ next = world.served := by
  cases event with
  | request ticket request => simp [ServerWorld.step, waits.phase] at taken
  | load ticket => simp [ServerWorld.step, waits.unregistered] at taken
  | store own =>
      cases own with
      | call ticket op => simp [ServerWorld.step, waits.phase] at taken
      | act ticket input =>
          simp [ServerWorld.step, World.step, waits.store.calls, Calls.frameAt] at taken
      | background position succeeds =>
          simp [ServerWorld.step, World.step, waits.store.tasks] at taken
      | restart now input => cases taken
  | engine own =>
      cases own with
      | call ticket op => cases taken
      | act ticket input => simp [ServerWorld.step, LoadWorld.step, waits.idle] at taken
      | drop ticket => simp [ServerWorld.step, LoadWorld.step, waits.idle, Calls.frameAt] at taken
      | disk language dir =>
          left
          cases taken
          exact ⟨⟨waits.pending, waits.phase, waits.idle, waits.unregistered, waits.unprinted,
            waits.store⟩, rfl⟩
  | start now input engine disk => exact Or.inr (Or.inl ⟨now, input, engine, disk, rfl⟩)
  | warm ticket position => simp [ServerWorld.step, waits.phase] at taken
  | serve =>
      simp only [ServerWorld.step] at taken
      split at taken
      · cases taken
        exact Or.inr (Or.inr ⟨rfl, rfl⟩)
      · cases taken

/-- No call that could fail has been made. -/
theorem Waiting.serve {created : CreatedApiKey} (waits : Waiting hashKey world created) :
    world.step hashKey parse parseUri .serve = some world.served := by
  simp [ServerWorld.step, waits.phase, allLoaded, waits.idle, Dict.values]

theorem Waiting.printed {created : CreatedApiKey} (waits : Waiting hashKey world created) :
    world.served.printed = [created.rawKey] := by
  simp [served, waits.pending, waits.unprinted]

theorem FirstPrinted.grows {store : World} {event : Event} (printed : FirstPrinted world)
    (taken : world.store.step hashKey event = some store) (same : next.printed = world.printed)
    (moved : next.store = store) : FirstPrinted next := by
  obtain ⟨id, rawKey, rest, issued, only⟩ := printed
  obtain ⟨extra, grown⟩ := World.issued_extends taken
  refine ⟨id, rawKey, rest ++ extra, ?_, same.trans only⟩
  rw [moved, ← grown, issued, List.cons_append]

/-- A start with access to the platform issues nothing. -/
theorem Founded.reopened {now : Clock} {input : Input} {store : World} {engine : ε}
    {disk : Dict String LanguageDir}
    (printed : world.printed = [] ∨ FirstPrinted world) (owned : world.store.RevokesOwned)
    (access : world.store.store.pool.PlatformAccess)
    (taken : world.store.step hashKey (.restart now input) = some store) :
    Founded hashKey (world.started store
      ((Store.open hashKey now input world.store.store.pool).bind Opened.bootstrap) engine disk) := by
  refine .running ?_ ?_ ?_ (owned.step taken) (World.platformAccess_step owned access taken)
  · intro stopped
    cases stopped
  · rw [access.open_eq]
    rfl
  · exact printed.imp_right fun first => first.grows taken rfl rfl

theorem Founded.step (founded : Founded hashKey world)
    (taken : world.step hashKey parse parseUri event = some next) : Founded hashKey next := by
  have moves := step_moves taken
  cases founded with
  | stopped phase blank pending unprinted =>
      cases moves with
      | stays => exact .stopped phase blank pending unprinted
      | store registering acted runs serves =>
          rw [blank] at acted
          refine (blank_step acted ?_ runs).elim
          intro ticket op same
          cases phase.symm.trans (serves ticket op same)
      | engines => exact .stopped phase blank pending unprinted
      | starts engine disk restarted =>
          rw [blank] at restarted ⊢
          obtain ⟨access, nothing, created, issued, opened⟩ := blank_started restarted
          refine .waiting created ⟨issued, ?_, rfl, rfl, unprinted, opened⟩
            (World.blank_revokesOwned.step restarted) access
          simp only [started, nothing, List.map_nil]
      | warms starting => cases phase.symm.trans starting
      | serves starting => cases phase.symm.trans starting
  | waiting created waits owned access =>
      rcases waits.step taken with ⟨still, same⟩ | ⟨now, input, engine, disk, rfl⟩ | ⟨_, rfl⟩
      · refine .waiting created still ?_ ?_
        · rw [same]
          exact owned
        · rw [same]
          exact access
      · obtain ⟨store, restarted, rfl⟩ := Option.map_eq_some_iff.mp taken
        exact reopened (Or.inl waits.unprinted) owned access restarted
      · refine .running ?_ rfl (Or.inr ?_) owned access
        · intro stopped
          cases stopped
        · exact ⟨_, _, [], waits.store.issued, waits.printed⟩
  | running started pending printed owned access =>
      cases moves with
      | stays => exact .running started pending printed owned access
      | store registering acted runs serves =>
          exact .running started pending (printed.imp_right fun first => first.grows acted rfl rfl)
            (owned.step acted) (World.platformAccess_step owned access acted)
      | engines => exact .running started pending printed owned access
      | starts engine disk restarted => exact reopened printed owned access restarted
      | warms => exact .running (by simp) pending printed owned access
      | serves =>
          refine .running ?_ rfl ?_ owned access
          · intro stopped
            cases stopped
          · have same : world.served.printed = world.printed := by simp [served, pending]
            rcases printed with none | ⟨id, rawKey, rest, issued, only⟩
            · exact Or.inl (same.trans none)
            · exact Or.inr ⟨id, rawKey, rest, issued, same.trans only⟩

theorem Founded.printed_once (founded : Founded hashKey world) : world.printed.length ≤ 1 := by
  cases founded with
  | stopped _ _ _ unprinted => simp [unprinted]
  | waiting _ waits => simp [waits.unprinted]
  | running _ _ printed =>
      rcases printed with none | ⟨_, _, _, _, only⟩
      · simp [none]
      · simp [only]

/-- A start that issues a key is the first one. -/
theorem Founded.issues {now : Clock} {input : Input} {engine : ε} {disk : Dict String LanguageDir}
    (founded : Founded hashKey world)
    (taken : world.step hashKey parse parseUri (.start now input engine disk) = some next)
    (issues : next.bootstrapKey ≠ none) : world.phase = .stopped := by
  obtain ⟨store, restarted, rfl⟩ := Option.map_eq_some_iff.mp taken
  have silent : world.store.store.pool.PlatformAccess → False := by
    intro access
    apply issues
    rw [access.open_eq]
    rfl
  cases founded with
  | stopped phase => exact phase
  | waiting _ _ _ access => exact (silent access).elim
  | running _ _ _ _ access => exact (silent access).elim

theorem Founded.waits {created : CreatedApiKey} (founded : Founded hashKey world)
    (pending : world.bootstrapKey = some created) : Waiting hashKey world created := by
  cases founded with
  | stopped _ _ nothing => cases pending.symm.trans nothing
  | waiting other waits =>
      cases waits.pending.symm.trans pending
      exact waits
  | running _ nothing => cases pending.symm.trans nothing

/-- No start has been cut short with a key that waits. -/
def Kept (world : ServerWorld ε) : Prop :=
  world.phase = .stopped ∨ world.bootstrapKey ≠ none ∨ world.printed ≠ []

theorem Kept.moves (kept : Kept world) (founded : Founded hashKey world)
    (moves : Moves hashKey parse world event next)
    (spared : event.isStart = true → world.bootstrapKey = none) : Kept next := by
  cases moves with
  | stays | store | engines => exact kept
  | starts engine disk restarted =>
      right
      cases founded with
      | stopped phase blank pending unprinted =>
          left
          rw [blank] at restarted ⊢
          obtain ⟨_, _, created, issued, _⟩ := blank_started restarted
          intro none
          cases issued.symm.trans none
      | waiting created waits => cases waits.pending.symm.trans (spared rfl)
      | running started pending =>
          right
          rcases kept with stopped | waits | printed
          · exact absurd stopped started
          · exact absurd pending waits
          · exact printed
  | warms starting =>
      rcases kept with stopped | later
      · cases stopped.symm.trans starting
      · exact Or.inr later
  | serves starting =>
      right; right
      rcases kept with stopped | waits | printed
      · cases stopped.symm.trans starting
      · obtain ⟨created, pending⟩ := Option.ne_none_iff_exists'.mp waits
        simp [served, pending]
      · simp [served, printed]

theorem Kept.firstPrinted (kept : Kept world) (founded : Founded hashKey world)
    (serving : world.phase = .serving) : FirstPrinted world := by
  cases founded with
  | stopped phase => cases phase.symm.trans serving
  | waiting _ waits => cases waits.phase.symm.trans serving
  | running started nothing printed =>
      rcases printed with none | first
      · rcases kept with stopped | waits | printed
        · exact absurd stopped started
        · exact absurd nothing waits
        · exact absurd none printed
      · exact first

end

end ServerWorld

/-! ## What a start leads to -/

section

variable {ε : Type} {hashKey : String → String} {parse : String → String → Option ε}
  {parseUri : String → Option Uri}

/-- Once the server serves, a spell check in its own language, in one that was registered
when it started, or in one whose load has succeeded since, gets its engine at the first
look, with no lock and no file. -/
theorem serving_languages_ready [Driver] {world started finish : ServerWorld ε} {now : Clock}
    {input : Input} {engine : ε} {disk : Dict String LanguageDir} {events : List (ServerEvent ε)}
    (starts : world.step hashKey parse parseUri (.start now input engine disk) = some started)
    (run : Run (ServerWorld.step hashKey parse parseUri) (fun _ event => event.isStart = false)
      started events finish)
    (serving : finish.phase = .serving) {code : String}
    (known : code = finish.language ∨
      (∃ info ∈ started.store.store.dictionaries.values, info.code = code) ∨
      ∃ ticket op engine, op.language = code ∧
        finish.engines.calls.Returned ticket op (.loaded (.ok engine))) :
    ∃ engine, ∀ ticket diskInput,
      finish.engines.exec parse ticket (.getOrLoad code none) diskInput .read =
        some (finish.engines.toLoadShared, .returned (.loaded (.ok engine))) := by
  have begun : ServerWorld.Readies (started.store.store.dictionaries.values.map DictionaryInfo.code)
      started := by
    obtain ⟨store, stepped, rfl⟩ := Option.map_eq_some_iff.mp starts
    exact .starts ..
  have ready : ServerWorld.Readies
      (started.store.store.dictionaries.values.map DictionaryInfo.code) finish :=
    run.invariant (fun _ _ _ ready later taken => ready.moves (ServerWorld.step_moves taken) later)
      begun
  have present : finish.engines.registry.engines.lookup code ≠ none := by
    rcases known with rfl | ⟨info, listed, rfl⟩ | ⟨ticket, op, engine, rfl, returned⟩
    · exact ready.configured
    · exact ready.serving serving _ (List.mem_map_of_mem listed)
    · exact ready.held _ _ _ returned trivial
  obtain ⟨engine, cached⟩ := Option.ne_none_iff_exists'.mp present
  refine ⟨engine, ?_⟩
  intro ticket diskInput
  simp only [LoadShared.exec, LoadOp.language, cached]

/-- At most one bootstrap key is ever printed, and only the first start issues one.
While it waits, it is the only raw key there is, the store accepts it, and the server can
go on to print it and serve.  If no start is cut short before that, a server that serves
has printed it. -/
theorem bootstrap_key_printed [Driver] {language : String} {manager : DictionaryManager}
    {events : List (ServerEvent ε)} {world : ServerWorld ε}
    (run : Run (ServerWorld.step hashKey parse parseUri) (fun _ _ => True)
      (.blank language manager) events world) :
    world.printed.length ≤ 1 ∧
    (∀ now input engine disk next,
      world.step hashKey parse parseUri (.start now input engine disk) = some next →
      next.bootstrapKey ≠ none → world.phase = .stopped) ∧
    (∀ created, world.bootstrapKey = some created →
      ServerWorld.FirstOpened hashKey world.store created ∧
      ∃ next, world.step hashKey parse parseUri .serve = some next ∧ next.phase = .serving ∧
        next.printed = [created.rawKey]) ∧
    (Run (ServerWorld.step hashKey parse parseUri)
        (fun before event => event.isStart = true → before.bootstrapKey = none)
        (.blank language manager) events world →
      world.phase = .serving → world.FirstPrinted) := by
  have begun : ServerWorld.Founded hashKey (ServerWorld.blank language manager : ServerWorld ε) :=
    .stopped rfl rfl rfl rfl
  have founded : ServerWorld.Founded hashKey world :=
    run.invariant (fun _ _ _ founded _ taken => founded.step taken) begun
  refine ⟨founded.printed_once, ?_, ?_, ?_⟩
  · intro now input engine disk next taken issues
    exact founded.issues taken issues
  · intro created pending
    have waits := founded.waits pending
    exact ⟨waits.store, _, waits.serve, rfl, waits.printed⟩
  · intro spared serving
    have stays : ∀ before event after,
        ServerWorld.Founded hashKey before ∧ ServerWorld.Kept before →
        (event.isStart = true → before.bootstrapKey = none) →
        before.step hashKey parse parseUri event = some after →
        ServerWorld.Founded hashKey after ∧ ServerWorld.Kept after := by
      intro before event after ⟨founded, kept⟩ allowed taken
      exact ⟨founded.step taken, kept.moves founded (ServerWorld.step_moves taken) allowed⟩
    obtain ⟨_, kept⟩ := spared.invariant stays ⟨begun, Or.inl rfl⟩
    exact kept.firstPrinted founded serving

end

open scoped DefaultBackend

/-- French is registered before the server is started again. -/
def frenchRegistered : List (ServerEvent Unit) :=
  [.start (sampleInput 0 0).now (sampleInput 0 0) () ∅, .serve,
    .request 0 (.addDictionary (some RegistrationState.frenchRequest)), .store (.act 0 (sampleInput 0 4)),
    .store (.act 0 (sampleInput 0 4)), .store (.act 0 (sampleInput 0 4))]

/-- The cached French files are fresh, so the load goes through. -/
def frenchWarmed : List (ServerEvent Unit) :=
  [.warm 0 0, .engine (.act 0 (sampleDiskInput 1)), .engine (.act 0 (sampleDiskInput 1)),
    .engine (.act 0 (sampleDiskInput 1)), .engine (.act 0 (sampleDiskInput 1)),
    .engine (.act 0 (sampleDiskInput 1)), .engine (.act 0 (sampleDiskInput 1)),
    .engine (.act 0 (sampleDiskInput 1)), .serve]

theorem serving_languages_ready_for_french :
    ∃ finish : ServerWorld Unit, finish.phase = .serving ∧
      ∃ engine, finish.engines.exec (fun _ _ => some ()) 7 (.getOrLoad "fr_FR" none)
        (sampleDiskInput 2) .read =
          some (finish.engines.toLoadShared, .returned (.loaded (.ok engine))) := by
  obtain ⟨world, _, outcome⟩ := @Run.exists_of_runEvents _ _
    (ServerWorld.step sampleHash (fun _ _ => some ()) RegistrationState.sampleParseUri)
    (.blank "en_US" sampleManager) frenchRegistered (fun _ _ => true)
    (fun world => (world.step sampleHash (fun _ _ => some ()) RegistrationState.sampleParseUri
      (.start (sampleInput 1 5).now (sampleInput 1 5) () EngineState.cachedState.disk)).any
        fun started =>
          (started.store.store.dictionaries.values.map DictionaryInfo.code) = ["fr_FR"] &&
          (runEvents (ServerWorld.step sampleHash (fun _ _ => some ()) RegistrationState.sampleParseUri)
            (fun _ event => !event.isStart) started frenchWarmed).any
              fun finish => finish.phase = .serving)
    (by decide +kernel)
  obtain ⟨started, starts, checked⟩ := (Option.any_eq_true _ _).mp outcome
  obtain ⟨registered, warmed⟩ := Bool.and_eq_true_iff.mp checked
  obtain ⟨finish, run, served⟩ := Run.exists_of_runEvents warmed
  have serving : finish.phase = .serving := of_decide_eq_true served
  have listed : "fr_FR" ∈ started.store.store.dictionaries.values.map DictionaryInfo.code := by
    rw [of_decide_eq_true registered]
    exact List.mem_singleton.mpr rfl
  have known := List.mem_map.mp listed
  have later : Run (ServerWorld.step sampleHash (fun _ _ => some ()) RegistrationState.sampleParseUri)
      (fun _ event => event.isStart = false) started frenchWarmed finish :=
    run.weaken fun _ event allowed => by simpa using allowed
  obtain ⟨engine, answers⟩ := serving_languages_ready starts later serving (Or.inr (Or.inl known))
  exact ⟨finish, serving, engine, answers 7 (sampleDiskInput 2)⟩

/-- The server is started again once it has served. -/
def startedAgain : List (ServerEvent Unit) :=
  [.start (sampleInput 0 0).now (sampleInput 0 0) () ∅, .serve,
    .start (sampleInput 1 1).now (sampleInput 1 1) () ∅, .serve]

theorem bootstrap_key_printed_at_first_start :
    ∃ world : ServerWorld Unit, world.phase = .serving ∧ world.printed = [sampleKey 0] := by
  obtain ⟨world, run, outcome⟩ := @Run.exists_of_runEvents _ _
    (ServerWorld.step sampleHash (fun _ _ => some ()) RegistrationState.sampleParseUri)
    (.blank "en_US" sampleManager) startedAgain
    (fun before event => !event.isStart || before.bootstrapKey.isNone)
    (fun world => decide (world.phase = .serving) &&
      decide (world.store.issued.head?.map Prod.snd = some (sampleKey 0)))
    (by decide +kernel)
  obtain ⟨serving, first⟩ : (_ ∧ _) := by
    simpa only [Bool.and_eq_true, decide_eq_true_eq] using outcome
  have spared : Run (ServerWorld.step sampleHash (fun _ _ => some ())
        RegistrationState.sampleParseUri)
      (fun before event => event.isStart = true → before.bootstrapKey = none)
      (.blank "en_US" sampleManager) startedAgain world := by
    apply run.weaken
    intro before event allowed starts
    simpa [starts] using allowed
  obtain ⟨_, _, _, delivered⟩ := bootstrap_key_printed (spared.weaken fun _ _ _ => trivial)
  obtain ⟨id, rawKey, rest, issued, printed⟩ := delivered spared serving
  rw [issued] at first
  cases Option.some.inj first
  exact ⟨world, serving, printed⟩

end SpellServer
