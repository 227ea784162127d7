import SpellServer.Dictionary.Codes
import SpellServer.Dictionary.Loading
import SpellServer.Dictionary.Serving
import SpellServer.Http.SpellRoutes
import SpellServer.Store.StoredCodes

/-!
# The codes that reach the file system

A running server: its store, its engines, and the requests that bring a language
code in.  Whatever the bodies say, the codes of all loads are valid ones, or the
configured default.
-/

namespace SpellServer

open Library

/-! ## Handlers -/

/-- The requests whose bodies name languages; a body that is not JSON of the right
shape is `none`.  The spell-check routes run for the tenant of their key. -/
inductive LanguageRequest where
  | createTenant (body : Option CreateTenantRequest)
  | updateTenant (id : String) (body : Option UpdateTenantRequest)
  | addDictionary (body : Option AddDictionaryRequest)
  | spellcheck (tenantId : String) (body : Option SpellCheckRequest)

/-- What a handler goes on with: a body of the right shape that passes its checks. -/
def validBody {α : Type} (validate : α → List ValidationError) (body : Option α) :
    Except AppError α :=
  match body with
  | none => .error .jsonRejection
  | some req => if validate req ≠ [] then .error .validation else .ok req

theorem validBody_ok {α : Type} {validate : α → List ValidationError} {body : Option α} {req : α}
    (accepted : validBody validate body = .ok req) : validate req = [] := by
  unfold validBody at accepted
  cases body with
  | none => cases accepted
  | some given =>
      simp only at accepted
      split at accepted
      · cases accepted
      · rename_i valid
        cases accepted
        exact not_not.mp valid

/-- `create_tenant`, up to its call of the store. -/
def createTenant (body : Option CreateTenantRequest) : Except AppError Op :=
  (validBody CreateTenantRequest.validate body).map fun req =>
    .createTenant req.name req.language req.quotaLimit req.periodStart req.periodEnd

/-- `update_tenant`, up to its call of the store. -/
def updateTenant (id : String) (body : Option UpdateTenantRequest) : Except AppError Op :=
  (validBody UpdateTenantRequest.validate body).map fun req =>
    .updateTenant id
      { name := req.name
        language := req.language
        quotaLimit := req.quotaLimit
        requestCount := req.requestCount
        periodStart := req.periodStart
        periodEnd := req.periodEnd }

/-- The body that `add_dictionary` accepts. -/
def registeredBody (parseUri : String → Option Uri) (body : Option AddDictionaryRequest) :
    Except AppError AddDictionaryRequest := validBody (AddDictionaryRequest.validate parseUri) body

/-- The body that `spellcheck` and `spellcheck_positions` accept. -/
def spellcheckBody (body : Option SpellCheckRequest) : Except AppError SpellCheckRequest :=
  validBody SpellCheckRequest.validate body

/-- The language `resolve_engine` asks for. -/
def Store.resolveLanguage (store : Store) (configured tenantId : String)
    (requested : Option String) : String :=
  match requested with
  | some language => language
  | none => ((store.getTenant tenantId).map TenantInfo.language).getD configured

theorem SpellService.requestedLanguage_eq [Driver] (service : SpellService) (tenantId : String)
    (req : SpellCheckRequest) : service.requestedLanguage tenantId req =
      service.app.store.resolveLanguage service.language tenantId req.language := rfl

/-! ## The server -/

/-- `main` loads the registered dictionaries one after the other; when all of them have
succeeded, it prints the bootstrap key and binds its port. -/
inductive ServerPhase where
  | stopped
  | starting (sources : List (String × String))
  | serving
deriving DecidableEq, Repr

/-- `registering` holds the bodies of the requests that wait for `register_dictionary`,
`bootstrapKey` a key that `Store::open` has issued and `main` has not printed.  What has
been printed outlasts the process. -/
structure ServerWorld [Driver] (ε : Type) where
  language : String
  manager : DictionaryManager
  store : World
  engines : LoadWorld ε
  registering : Dict ℕ AddDictionaryRequest
  bootstrapKey : Option CreatedApiKey
  printed : List String
  phase : ServerPhase

inductive ServerEvent [Driver] (ε : Type) where
  | request (ticket : ℕ) (request : LanguageRequest)
  | load (ticket : ℕ)
  | store (event : Event)
  | engine (event : LoadEvent ε)
  | start (now : Clock) (input : Input) (engine : ε) (disk : Dict String LanguageDir)
  | warm (ticket position : ℕ)
  | serve

/-- The other handlers, and the gates, make calls that name no language. -/
def Op.namesLanguage : Op → Bool
  | .createTenant _ _ _ _ _ | .updateTenant _ _ | .registerDictionary _ _ => true
  | _ => false

namespace ServerWorld

section

variable {ε : Type} (hashKey : String → String) (parse : String → String → Option ε)
  (parseUri : String → Option Uri)

/-- Nothing has been started and nothing stored. -/
def blank [Driver] (language : String) (manager : DictionaryManager) : ServerWorld ε :=
  { language
    manager
    store := .blank
    engines :=
      { registry := { defaultLanguage := language, dictionaryManager := manager, engines := ∅ }
        disk := ∅
        loadLock := none
        allocations := 0
        parsed := []
        calls := ∅ }
    registering := ∅
    bootstrapKey := none
    printed := []
    phase := .stopped }

/-- A process that has opened the store; nothing else is left of the one before. -/
def started [Driver] (world : ServerWorld ε) (store : World) (bootstrapKey : Option CreatedApiKey)
    (engine : ε) (disk : Dict String LanguageDir) : ServerWorld ε :=
  { world with
    store
    engines := .new world.language engine world.manager disk
    registering := ∅
    bootstrapKey
    phase := .starting (store.store.dictionaries.values.map fun info =>
      (info.code, info.sourceUrl)) }

/-- `main` from the last dictionary to the port; if the port cannot be bound, the next
event is another start. -/
def served [Driver] (world : ServerWorld ε) : ServerWorld ε :=
  { world with
    bootstrapKey := none
    printed := world.printed ++ world.bootstrapKey.toList.map CreatedApiKey.rawKey
    phase := .serving }

def callStore [Driver] (world : ServerWorld ε) (ticket : ℕ) (op : Op) : Option (ServerWorld ε) :=
  (world.store.step hashKey (.call ticket op)).map fun store => { world with store }

def callEngines [Driver] (world : ServerWorld ε) (ticket : ℕ) (op : LoadOp ε) :
    Option (ServerWorld ε) :=
  (world.engines.step parse (.call ticket op)).map fun engines => { world with engines }

/-- What a request does before it waits; one that is turned down does nothing. -/
def request [Driver] (world : ServerWorld ε) (ticket : ℕ) : LanguageRequest → Option (ServerWorld ε)
  | .createTenant body =>
      match createTenant body with
      | .error _ => some world
      | .ok op => world.callStore hashKey ticket op
  | .updateTenant id body =>
      match updateTenant id body with
      | .error _ => some world
      | .ok op => world.callStore hashKey ticket op
  | .addDictionary body =>
      match registeredBody parseUri body with
      | .error _ => some world
      | .ok req =>
          { world with registering := world.registering.insert ticket req }.callStore hashKey ticket
            (.registerDictionary req.code req.sourceUrl)
  | .spellcheck tenantId body =>
      match spellcheckBody body with
      | .error _ => some world
      | .ok req =>
          world.callEngines parse ticket
            (.getOrLoad (world.store.store.resolveLanguage world.language tenantId req.language)
              none)

/-- All loads so far have succeeded. -/
def allLoaded [Driver] (world : ServerWorld ε) : Bool :=
  world.engines.calls.values.all fun call =>
    match call.status with
    | .returned (.loaded (.ok _)) => true
    | _ => false

/-- `register_dictionary` has succeeded. -/
def registered [Driver] (world : ServerWorld ε) (ticket : ℕ) : Bool :=
  match world.store.calls.lookup ticket with
  | some { op := _, status := .returned (.registeredDictionary _) } => true
  | _ => false

def step [Driver] (world : ServerWorld ε) : ServerEvent ε → Option (ServerWorld ε)
  | .request ticket request =>
      if world.phase = .serving then world.request hashKey parse parseUri ticket request else none
  | .load ticket =>
      match world.registering.lookup ticket with
      | none => none
      | some req =>
          if world.registered ticket then
            world.callEngines parse ticket (.load req.code (some req.sourceUrl))
          else none
  | .store event =>
      match event with
      | .restart _ _ => none
      | .call ticket op =>
          if world.phase = .serving ∧ op.namesLanguage = false then world.callStore hashKey ticket op
          else none
      | event => (world.store.step hashKey event).map fun store => { world with store }
  | .engine event =>
      match event with
      | .call _ _ => none
      | event => (world.engines.step parse event).map fun engines => { world with engines }
  | .start now input engine disk =>
      (world.store.step hashKey (.restart now input)).map fun store =>
        world.started store
          ((Store.open hashKey now input world.store.store.pool).bind Opened.bootstrap) engine disk
  | .warm ticket position =>
      match world.phase with
      | .starting sources =>
          match sources[position]? with
          | some source =>
              if world.allLoaded then
                { world with phase := .starting (sources.eraseIdx position) }.callEngines parse ticket
                  (.load source.1 (some source.2))
              else none
          | none => none
      | _ => none
  | .serve =>
      if world.phase = .starting [] ∧ world.allLoaded then some world.served else none

end

end ServerWorld

/-! ## Validation -/

theorem SafeCode.of_not_invalid {code : String} (accepted : isValidLanguageCode code ≠ false) :
    SafeCode code :=
  (isValidLanguageCode_iff code).mp (Bool.ne_false_iff.mp accepted)

theorem validateLanguage_safe {language : Option String} (valid : validateLanguage language = []) :
    ∀ code ∈ language, SafeCode code := by
  intro code given
  cases given
  apply SafeCode.of_not_invalid
  intro invalid
  simp [validateLanguage, invalid] at valid

theorem CreateTenantRequest.language_safe {req : CreateTenantRequest} (valid : req.validate = []) :
    ∀ code ∈ req.language, SafeCode code := by
  unfold validate at valid
  split at valid
  · exact validateLanguage_safe valid
  · rename_i errors
    exact absurd valid errors

theorem UpdateTenantRequest.language_safe {req : UpdateTenantRequest} (valid : req.validate = []) :
    ∀ code ∈ req.language, SafeCode code := by
  unfold validate at valid
  split at valid
  · exact validateLanguage_safe valid
  · rename_i errors
    exact absurd valid errors

theorem AddDictionaryRequest.code_safe {parseUri : String → Option Uri}
    {req : AddDictionaryRequest} (valid : req.validate parseUri = []) : SafeCode req.code := by
  apply SafeCode.of_not_invalid
  intro invalid
  simp [validate, invalid] at valid

theorem SpellCheckRequest.language_safe {req : SpellCheckRequest} (valid : req.validate = []) :
    ∀ code ∈ req.language, SafeCode code := by
  intro code given
  apply SafeCode.of_not_invalid
  intro invalid
  unfold validate at valid
  split at valid
  · unfold hasInputValidation at valid
    rw [given] at valid
    simp only [Option.any_some, invalid, Bool.not_false, if_true] at valid
    split at valid <;> cases valid
  · rename_i errors
    exact absurd valid errors

theorem createTenant_codes {body : Option CreateTenantRequest} {op : Op}
    (accepted : createTenant body = .ok op) : op.Codes SafeCode := by
  unfold createTenant at accepted
  cases valid : validBody CreateTenantRequest.validate body with
  | error error =>
      rw [valid] at accepted
      cases accepted
  | ok req =>
      rw [valid] at accepted
      cases accepted
      exact req.language_safe (validBody_ok valid)

theorem updateTenant_codes {id : String} {body : Option UpdateTenantRequest} {op : Op}
    (accepted : updateTenant id body = .ok op) : op.Codes SafeCode := by
  unfold updateTenant at accepted
  cases valid : validBody UpdateTenantRequest.validate body with
  | error error =>
      rw [valid] at accepted
      cases accepted
  | ok req =>
      rw [valid] at accepted
      cases accepted
      exact req.language_safe (validBody_ok valid)

/-! ## Every load -/

theorem safeCode_default : SafeCode defaultLanguage :=
  (isValidLanguageCode_iff _).mp (by decide +kernel)

/-- The configured language, or a valid code. -/
def Loadable (configured code : String) : Prop := code = configured ∨ SafeCode code

namespace ServerWorld

section

variable [Driver] {ε : Type} {hashKey : String → String} {parse : String → String → Option ε}
  {parseUri : String → Option Uri} {language : String} {manager : DictionaryManager}
  {world next : ServerWorld ε} {event : ServerEvent ε}

/-- All codes that are kept, and all that are on their way to a load. -/
structure SafeCodes (language : String) (manager : DictionaryManager) (world : ServerWorld ε) :
    Prop where
  configured : world.language = language
  managed : world.manager = manager
  engines : world.engines.registry.dictionaryManager = manager
  store : world.store.Codes SafeCode
  registering : ∀ {ticket req}, world.registering.lookup ticket = some req → SafeCode req.code
  starting : ∀ {sources source}, world.phase = .starting sources → source ∈ sources →
    SafeCode source.1
  loads : ∀ {ticket call}, world.engines.calls.lookup ticket = some call →
    Loadable language call.op.language

namespace SafeCodes

theorem blank (language : String) (manager : DictionaryManager) :
    SafeCodes language manager (ServerWorld.blank language manager : ServerWorld ε) := by
  refine ⟨rfl, rfl, rfl, .blank, ?_, ?_, ?_⟩
  · intro ticket req found
    cases found
  · intro sources source starting
    cases starting
  · intro ticket call found
    cases found

theorem storeEvent (safe : SafeCodes language manager world) {event : Event} {store : World}
    (called : ∀ ticket op, event = .call ticket op → op.Codes SafeCode)
    (taken : world.store.step hashKey event = some store) :
    SafeCodes language manager { world with store } :=
  { safe with store := safe.store.step safeCode_default called taken }

theorem callStore (safe : SafeCodes language manager world) {ticket : ℕ} {op : Op}
    (codes : op.Codes SafeCode)
    (taken : world.callStore hashKey ticket op = some next) : SafeCodes language manager next := by
  obtain ⟨store, stepped, rfl⟩ := Option.map_eq_some_iff.mp taken
  refine safe.storeEvent ?_ stepped
  intro other called same
  cases same
  exact codes

theorem engineEvent (safe : SafeCodes language manager world) {event : LoadEvent ε}
    {engines : LoadWorld ε}
    (called : ∀ ticket op, event = .call ticket op → Loadable language op.language)
    (taken : world.engines.step parse event = some engines) :
    SafeCodes language manager { world with engines } := by
  have cases := LoadWorld.step_cases taken
  refine ⟨safe.configured, safe.managed, ?_, safe.store, safe.registering, safe.starting, ?_⟩
  · exact (LoadWorld.dictionaryManager_of_step cases).trans safe.engines
  intro ticket call found
  rcases LoadWorld.op_of_step cases found with new | ⟨old, stored, same⟩
  · exact called ticket call.op new
  · rw [← same]
    exact safe.loads stored

theorem callEngines (safe : SafeCodes language manager world) {ticket : ℕ} {op : LoadOp ε}
    (loadable : Loadable language op.language)
    (taken : world.callEngines parse ticket op = some next) : SafeCodes language manager next := by
  obtain ⟨engines, stepped, rfl⟩ := Option.map_eq_some_iff.mp taken
  refine safe.engineEvent ?_ stepped
  intro other called same
  cases same
  exact loadable

/-- The language of a request, of its tenant, or of the server. -/
theorem resolveLanguage (safe : SafeCodes language manager world) (tenantId : String)
    {requested : Option String} (given : ∀ code ∈ requested, SafeCode code) :
    Loadable language
      (world.store.store.resolveLanguage world.language tenantId requested) := by
  unfold Store.resolveLanguage
  cases requested with
  | some language => exact Or.inr (given language rfl)
  | none =>
      cases cached : world.store.store.getTenant tenantId with
      | none => exact Or.inl safe.configured
      | some info =>
          have held : SafeCode info.language := safe.store.store.tenants cached
          exact Or.inr held

theorem request (safe : SafeCodes language manager world) {ticket : ℕ} {request : LanguageRequest}
    (taken : world.request hashKey parse parseUri ticket request = some next) :
    SafeCodes language manager next := by
  cases request with
  | createTenant body =>
      cases accepted : createTenant body with
      | error error =>
          simp only [ServerWorld.request, accepted] at taken
          cases taken
          exact safe
      | ok op =>
          simp only [ServerWorld.request, accepted] at taken
          exact safe.callStore (createTenant_codes accepted) taken
  | updateTenant id body =>
      cases accepted : updateTenant id body with
      | error error =>
          simp only [ServerWorld.request, accepted] at taken
          cases taken
          exact safe
      | ok op =>
          simp only [ServerWorld.request, accepted] at taken
          exact safe.callStore (updateTenant_codes accepted) taken
  | addDictionary body =>
      cases accepted : registeredBody parseUri body with
      | error error =>
          simp only [ServerWorld.request, accepted] at taken
          cases taken
          exact safe
      | ok req =>
          simp only [ServerWorld.request, accepted] at taken
          have code := AddDictionaryRequest.code_safe (validBody_ok accepted)
          have waiting : SafeCodes language manager
              { world with registering := world.registering.insert ticket req } := by
            refine { safe with registering := ?_ }
            intro other held found
            rw [Dict.lookup_insert_ite] at found
            split at found
            · cases found
              exact code
            · exact safe.registering found
          refine waiting.callStore ?_ taken
          exact code
  | spellcheck tenantId body =>
      cases accepted : spellcheckBody body with
      | error error =>
          simp only [ServerWorld.request, accepted] at taken
          cases taken
          exact safe
      | ok req =>
          simp only [ServerWorld.request, accepted] at taken
          refine safe.callEngines ?_ taken
          exact safe.resolveLanguage tenantId (SpellCheckRequest.language_safe (validBody_ok accepted))

theorem start (safe : SafeCodes language manager world) {now : Clock} {input : Input} {engine : ε}
    {bootstrapKey : Option CreatedApiKey} {disk : Dict String LanguageDir} {store : World}
    (taken : world.store.step hashKey (.restart now input) = some store) :
    SafeCodes language manager (world.started store bootstrapKey engine disk) := by
  have codes : store.Codes SafeCode := by
    refine safe.store.step safeCode_default ?_ taken
    intro ticket op same
    cases same
  refine ⟨safe.configured, safe.managed, safe.managed, codes, ?_, ?_, ?_⟩
  · intro ticket req found
    cases found
  · intro sources source starting member
    cases starting
    obtain ⟨info, listed, rfl⟩ := List.mem_map.mp member
    obtain ⟨code, cached⟩ := Dict.mem_values_iff.mp listed
    exact codes.store.dictionaries cached
  · intro ticket call found
    cases found

theorem step (safe : SafeCodes language manager world)
    (taken : world.step hashKey parse parseUri event = some next) :
    SafeCodes language manager next := by
  cases event with
  | request ticket request =>
      simp only [ServerWorld.step] at taken
      split at taken
      · exact safe.request taken
      · cases taken
  | load ticket =>
      cases waiting : world.registering.lookup ticket with
      | none =>
          simp only [ServerWorld.step, waiting] at taken
          cases taken
      | some req =>
          simp only [ServerWorld.step, waiting] at taken
          split at taken
          · refine safe.callEngines ?_ taken
            exact Or.inr (safe.registering waiting)
          · cases taken
  | store event =>
      cases event with
      | call ticket op =>
          simp only [ServerWorld.step] at taken
          split at taken
          · rename_i admitted
            refine safe.callStore ?_ taken
            have unnamed := admitted.2
            cases op <;> first | exact trivial | cases unnamed
          · cases taken
      | act ticket input =>
          obtain ⟨store, stepped, rfl⟩ := Option.map_eq_some_iff.mp taken
          refine safe.storeEvent ?_ stepped
          intro other op same
          cases same
      | background position succeeds =>
          obtain ⟨store, stepped, rfl⟩ := Option.map_eq_some_iff.mp taken
          refine safe.storeEvent ?_ stepped
          intro other op same
          cases same
      | restart now input => cases taken
  | engine event =>
      cases event with
      | call ticket op => cases taken
      | act | drop | disk =>
          simp only [ServerWorld.step] at taken
          obtain ⟨engines, stepped, rfl⟩ := Option.map_eq_some_iff.mp taken
          refine safe.engineEvent ?_ stepped
          intro other op same
          cases same
  | start now input engine disk =>
      obtain ⟨store, stepped, rfl⟩ := Option.map_eq_some_iff.mp taken
      exact safe.start stepped
  | warm ticket position =>
      simp only [ServerWorld.step] at taken
      split at taken
      · rename_i sources starting
        split at taken
        · rename_i source picked
          split at taken
          · have warming : SafeCodes language manager
                { world with phase := .starting (sources.eraseIdx position) } := by
              refine { safe with starting := ?_ }
              intro left other same member
              cases same
              exact safe.starting starting (List.mem_of_mem_eraseIdx member)
            refine warming.callEngines ?_ taken
            exact Or.inr (safe.starting starting (List.mem_of_getElem? picked))
          · cases taken
        · cases taken
      · cases taken
  | serve =>
      simp only [ServerWorld.step] at taken
      split at taken
      · cases taken
        refine ⟨safe.configured, safe.managed, safe.engines, safe.store, safe.registering, ?_,
          safe.loads⟩
        intro sources source starting
        cases starting
      · cases taken

end SafeCodes

end

end ServerWorld

/-! ## Safe codes and paths -/

/-- In every run, each load is of the configured language or of a valid code, and valid
codes name directories of their own, with their files in them. -/
theorem loaded_codes_safe [Driver] {ε : Type} (hashKey : String → String)
    (parse : String → String → Option ε) (parseUri : String → Option Uri) (language : String)
    (manager : DictionaryManager) {events : List (ServerEvent ε)} {world : ServerWorld ε}
    (run : Run (ServerWorld.step hashKey parse parseUri) (fun _ _ => True)
      (.blank language manager) events world) :
    (∀ ticket call, world.engines.calls.lookup ticket = some call →
      call.op.language = language ∨ SafeCode call.op.language) ∧
    world.engines.registry.dictionaryManager = manager ∧
    (∀ code, SafeCode code →
      ChildOf manager.dictionaryDir (manager.cacheDir code) code ∧
      ChildOf (manager.cacheDir code) (manager.affPath code) (code ++ ".aff") ∧
      ChildOf (manager.cacheDir code) (manager.dicPath code) (code ++ ".dic") ∧
      ∀ other, SafeCode other → other ≠ code →
        manager.cacheDir other ≠ manager.cacheDir code ∧
        manager.affPath other ≠ manager.affPath code ∧
        manager.dicPath other ≠ manager.dicPath code ∧
        manager.affPath other ≠ manager.dicPath code) := by
  have safe : ServerWorld.SafeCodes language manager world := by
    refine @Run.invariant _ _ _ _ _ _ _
      (fun world : ServerWorld ε => ServerWorld.SafeCodes language manager world) run ?_
      (.blank language manager)
    intro state event next safe _ taken
    exact safe.step taken
  refine ⟨fun ticket call found => safe.loads found, safe.engines, ?_⟩
  intro code codeSafe
  refine ⟨codeSafe.cacheDir_child manager, codeSafe.affPath_child manager,
    codeSafe.dicPath_child manager, ?_⟩
  intro other otherSafe different
  have files := @SafeCode.files_ne _ _ manager otherSafe codeSafe different
  refine ⟨?_, ?_, ?_, ?_⟩
  · intro same
    exact different ((otherSafe.cacheDir_child manager).name_eq (codeSafe.cacheDir_child manager)
      same)
  · exact files (otherSafe.affPath_child manager) (codeSafe.affPath_child manager)
  · exact files (otherSafe.dicPath_child manager) (codeSafe.dicPath_child manager)
  · exact files (otherSafe.affPath_child manager) (codeSafe.dicPath_child manager)

/-! ## A tenant's language -/

open scoped DefaultBackend

/-- A tenant is created with a language, and its first text is checked. -/
def tenantLanguageEvents : List (ServerEvent Unit) :=
  [.start (sampleInput 0 0).now (sampleInput 0 0) () ∅, .serve,
    .request 0 (.createTenant (some
      { name := "acme"
        language := some "fr_FR"
        quotaLimit := none
        periodStart := none
        periodEnd := none })),
    .store (.act 0 (sampleInput 1 4)), .store (.act 0 (sampleInput 0 4)),
    .store (.act 0 (sampleInput 2 1)), .store (.act 0 (sampleInput 0 4)),
    .request 1 (.spellcheck (sampleId 1).text (some
      { text := some "bonjour", words := none, language := none }))]

theorem loaded_codes_safe_for_tenant_language :
    ∃ world : ServerWorld Unit, ∃ call, world.engines.calls.lookup 1 = some call ∧
      call.op.language = "fr_FR" ∧
      ChildOf EngineState.cachedState.registry.dictionaryManager.dictionaryDir
        (EngineState.cachedState.registry.dictionaryManager.cacheDir call.op.language)
        call.op.language := by
  obtain ⟨world, run, outcome⟩ := @Run.exists_of_runEvents _ _
    (ServerWorld.step sampleHash (fun _ _ => some ()) fun _ => none)
    (.blank "en_US" EngineState.cachedState.registry.dictionaryManager) tenantLanguageEvents
    (fun _ _ => true)
    (fun world => (world.engines.calls.lookup 1).any fun call => call.op.language = "fr_FR")
    (by decide +kernel)
  cases found : world.engines.calls.lookup 1 with
  | none =>
      rw [found] at outcome
      cases outcome
  | some call =>
      rw [found] at outcome
      have french : call.op.language = "fr_FR" := of_decide_eq_true outcome
      obtain ⟨loads, _, paths⟩ := loaded_codes_safe _ _ _ _ _ (run.weaken fun _ _ _ => trivial)
      rcases loads 1 call found with configured | safe
      · rw [french] at configured
        exact absurd configured (by decide)
      · exact ⟨world, call, found, french, (paths _ safe).1⟩

end SpellServer
