import SpellServer.Dictionary.LoadAlone
import SpellServer.Dictionary.Registration
import SpellServer.Http.Handlers

/-!
# Handlers as runs of the server

The handlers of the management routes, of the billable routes and of the
dictionary registration carry a request to its end in one step.  A server that
serves takes its actions one by one: each of the three is a run of the server in
which nothing else happens, so what holds in all runs holds of them.
-/

namespace SpellServer

open Library

section

variable [Driver]

/-! ## A call of the store -/

section

variable {hashKey : String → String}

/-- An action issues no value but the one it has drawn. -/
theorem KeyFrame.Issues.drawn {input : Input} {frame : KeyFrame} {pool later : Database}
    {issued : List (String × String)} (issues : frame.Issues hashKey input pool later issued)
    {value : String × String} (member : value ∈ issued) : value.2 = input.rawKey := by
  cases issues with
  | nothing => cases member
  | inserts | rekeys =>
      rw [List.mem_singleton.mp member]

theorem Frame.exec_draws {input : Input} {store : Store} {frame : Frame}
    {value : String × String} (issued : value ∈ (frame.exec hashKey input store).issued) :
    value.2 = input.rawKey := by
  cases frame with
  | key frame => exact frame.exec_issues.drawn issued
  | tenant frame =>
      have quiet := frame.exec_issued input store
      cases quiet ▸ issued
  | origin frame =>
      have quiet := (frame.exec_quiet input store).2
      cases quiet ▸ issued
  | dictionary frame =>
      have quiet := (frame.exec_quiet input store).2
      cases quiet ▸ issued

/-- The values drawn for a call are new, and no two of them are the same. -/
structure World.DrawsFresh (world : World) (inputs : List Input) : Prop where
  fresh : ∀ input ∈ inputs, world.RawKeyFresh input
  distinct : (inputs.map Input.rawKey).Nodup

theorem World.DrawsFresh.acted {world : World} {ticket : ℕ} {input : Input} {inputs : List Input}
    {frame : Frame} (draws : world.DrawsFresh (input :: inputs)) :
    (world.acted ticket (frame.exec hashKey input world.store)).DrawsFresh inputs := by
  have split := List.nodup_cons.mp draws.distinct
  refine ⟨?_, split.2⟩
  intro later member drawn
  rw [World.acted, List.map_append, List.mem_append] at drawn
  rcases drawn with before | now
  · exact draws.fresh later (List.mem_cons_of_mem input member) before
  · obtain ⟨value, issued, same⟩ := List.mem_map.mp now
    apply split.1
    rw [← Frame.exec_draws issued, same]
    exact List.mem_map_of_mem member

/-- A call with nothing in between is a run of its actions. -/
theorem World.runs_alone {inputs : List Input} {world : World} {ticket : ℕ} {op : Op}
    {frame : Frame} {after : Store} {result : Result}
    (running : world.calls.lookup ticket = some { op, status := .running frame })
    (draws : world.DrawsFresh inputs)
    (ran : world.store.runAlone hashKey inputs frame = some (after, result)) :
    ∃ events next,
      Run (World.step hashKey) (fun _ event => ∃ input, event = .act ticket input) world events
        next ∧
      next.store = after ∧ next.calls.Returned ticket op result := by
  induction inputs generalizing world frame with
  | nil => cases ran
  | cons input inputs induction =>
      have acting : world.calls.frameAt ticket = some frame :=
        Calls.frameAt_eq_some_iff.mpr ⟨op, running⟩
      have taken : world.step hashKey (.act ticket input) =
          some (world.acted ticket (frame.exec hashKey input world.store)) := by
        simp only [World.step, draws.fresh input List.mem_cons_self, if_true, acting,
          Option.map_some]
      have status : (world.acted ticket (frame.exec hashKey input world.store)).calls.lookup
          ticket = some { op, status := (frame.exec hashKey input world.store).next } := by
        rw [World.acted, Calls.lookup_advance, if_pos rfl, running]
        rfl
      simp only [Store.runAlone] at ran
      cases moved : (frame.exec hashKey input world.store).next with
      | returned reached =>
          rw [moved] at ran status
          cases ran
          exact ⟨_, _, .cons ⟨input, rfl⟩ taken (.nil _), rfl, status⟩
      | running later =>
          rw [moved] at ran status
          obtain ⟨events, next, run, same, returned⟩ := induction status draws.acted ran
          exact ⟨_, next, .cons ⟨input, rfl⟩ taken run, same, returned⟩

end

/-! ## Runs of the server -/

section

variable {ε : Type} {hashKey : String → String} {parse : String → String → Option ε}
  {parseUri : String → Option Uri} {world : ServerWorld ε} {ticket : ℕ}

/-- Any steps, none of which is forbidden. -/
abbrev ServerWorld.Goes (hashKey : String → String) (parse : String → String → Option ε)
    (parseUri : String → Option Uri) (world next : ServerWorld ε) : Prop :=
  ∃ events, Run (ServerWorld.step hashKey parse parseUri) (fun _ _ => True) world events next

namespace ServerWorld

theorem Goes.refl (world : ServerWorld ε) : Goes hashKey parse parseUri world world :=
  ⟨[], .nil world⟩

theorem Goes.head {event : ServerEvent ε} {middle next : ServerWorld ε}
    (taken : world.step hashKey parse parseUri event = some middle)
    (rest : Goes hashKey parse parseUri middle next) : Goes hashKey parse parseUri world next := by
  obtain ⟨events, run⟩ := rest
  exact ⟨event :: events, .cons trivial taken run⟩

theorem Goes.trans {middle next : ServerWorld ε} (first : Goes hashKey parse parseUri world middle)
    (second : Goes hashKey parse parseUri middle next) :
    Goes hashKey parse parseUri world next := by
  obtain ⟨events, run⟩ := first
  obtain ⟨later, rest⟩ := second
  exact ⟨events ++ later, run.append rest⟩

/-- The call of the store that the server has just made. -/
theorem Goes.store {op : Op} {inputs : List Input} {after : Store} {result : Result}
    (running : world.store.calls.lookup ticket = some { op, status := .running op.entry })
    (draws : world.store.DrawsFresh inputs)
    (ran : world.store.store.runAlone hashKey inputs op.entry = some (after, result)) :
    ∃ store, Goes hashKey parse parseUri world { world with store } ∧ store.store = after ∧
      store.calls.Returned ticket op result := by
  obtain ⟨events, store, run, same, returned⟩ := World.runs_alone running draws ran
  refine ⟨store, ⟨_, run.lift (fun store => { world with store }) ServerEvent.store ?_⟩, same,
    returned⟩
  rintro state event next ⟨input, rfl⟩ taken
  simp only [step, taken, Option.map_some]

/-- The load that the server has just asked for. -/
theorem Goes.engines {op : LoadOp ε} {shared : LoadShared ε}
    {status finish : Status (LoadFrame ε) (LoadResult ε)}
    (alone : Alone parse ticket op world.engines.toLoadShared status shared finish)
    (running : world.engines.calls.lookup ticket = some { op, status }) :
    ∃ engines, Goes hashKey parse parseUri world { world with engines } ∧
      engines.toLoadShared = shared ∧
      engines.calls.lookup ticket = some { op, status := finish } := by
  obtain ⟨events, engines, run, same, ended, _⟩ :=
    @Alone.run _ _ _ _ _ _ _ _ (fun _ event => ∃ input, event = .act ticket input)
      (fun _ input => ⟨input, rfl⟩) alone world.engines rfl running
  refine ⟨engines, ⟨_, run.lift (fun engines => { world with engines }) ServerEvent.engine ?_⟩,
    same, ended⟩
  rintro state event next ⟨input, rfl⟩ taken
  simp only [step, taken, Option.map_some]

theorem callStore_eq {op : Op} (unused : world.store.calls.lookup ticket = none) :
    world.callStore hashKey ticket op =
      some
        { world with
          store := { world.store with calls := world.store.calls.start ticket op op.entry } } := by
  simp [callStore, World.step, unused]

theorem callEngines_eq {op : LoadOp ε} (unused : world.engines.calls.lookup ticket = none) :
    world.callEngines parse ticket op =
      some
        { world with
          engines :=
            { world.engines with calls := world.engines.calls.start ticket op op.entry } } := by
  simp [callEngines, LoadWorld.step, unused]

/-- A load that an event of the server begins. -/
theorem Goes.load {event : ServerEvent ε} {op : LoadOp ε} {registry : EngineRegistry (Arc ε)}
    {result : Except EngineError (Arc ε)}
    (begins : world.step hashKey parse parseUri event = world.callEngines parse ticket op)
    (unused : world.engines.calls.lookup ticket = none)
    (alone : ∃ shared, Alone parse ticket op world.engines.toLoadShared (.running op.entry) shared
      (.returned (.loaded result)) ∧ shared.registry = registry) :
    ∃ engines, Goes hashKey parse parseUri world { world with engines } ∧
      engines.registry = registry ∧ engines.calls.Returned ticket op (.loaded result) := by
  obtain ⟨shared, ran, same⟩ := alone
  obtain ⟨engines, goes, reached, ended⟩ := @Goes.engines _ ε hashKey parse parseUri
    { world with
      engines :=
        { world.engines with calls := world.engines.calls.start ticket op op.entry } }
    ticket op _ _ _ ran (AList.lookup_insert _)
  have called := begins.trans (callEngines_eq unused)
  refine ⟨engines, .head called goes, ?_, ended⟩
  rw [← same, ← reached]

/-- A registration goes on to its load. -/
theorem load_eq {op : Op} {req : AddDictionaryRequest} {info : DictionaryInfo}
    (waiting : world.registering.lookup ticket = some req)
    (ended : world.store.calls.Returned ticket op (.registeredDictionary info)) :
    world.step hashKey parse parseUri (.load ticket) =
      world.callEngines parse ticket (.load req.code (some req.sourceUrl)) := by
  have stored : world.store.calls.lookup ticket =
      some { op, status := .returned (.registeredDictionary info) } := ended
  simp [step, waiting, registered, stored]

end ServerWorld

/-! ## The management handlers -/

omit [Driver] in
theorem Handling.ofBody_call {accepted : Except AppError Op} {op : Op}
    (calls : Handling.ofBody accepted = .call op) : accepted = .ok op := by
  cases accepted with
  | error error => cases calls
  | ok given =>
      cases calls
      rfl

omit [Driver] in
/-- Two of the handlers call an operation that names a language. -/
theorem ApiRoute.start_names {parseOrigin : String → Option OriginUri} {route : ApiRoute}
    {store : Store} {caller : KeyRecord} {op : Op}
    (calls : route.start parseOrigin store caller = .call op) (named : op.namesLanguage = true) :
    (∃ body, SpellServer.createTenant body = .ok op) ∨
      ∃ id body, SpellServer.updateTenant id body = .ok op := by
  cases route with
  | createTenant body => exact Or.inl ⟨_, Handling.ofBody_call calls⟩
  | updateTenant id body => exact Or.inr ⟨id, _, Handling.ofBody_call calls⟩
  | _ =>
      simp only [start, SpellServer.createApiKey, SpellServer.listApiKeys,
        SpellServer.revokeApiKey, SpellServer.rotateApiKey, SpellServer.getOwnTenant,
        SpellServer.listOwnOrigins, SpellServer.registerOrigin, SpellServer.revokeOrigin,
        SpellServer.listTenants, SpellServer.getTenant, Handling.forTenant,
        Handling.reject] at calls
      (repeat' split at calls) <;> cases calls <;> cases named

/-- The server begins a handler's call with an event of its own. -/
theorem ApiRoute.start_call {parseOrigin : String → Option OriginUri} {route : ApiRoute}
    {store : Store} {caller : KeyRecord} {op : Op} (serving : world.phase = .serving)
    (calls : route.start parseOrigin store caller = .call op) :
    ∃ event, world.step hashKey parse parseUri event = world.callStore hashKey ticket op := by
  cases named : op.namesLanguage with
  | false => exact ⟨.store (.call ticket op), by simp [ServerWorld.step, serving, named]⟩
  | true =>
      rcases start_names calls named with ⟨body, accepted⟩ | ⟨id, body, accepted⟩
      · refine ⟨.request ticket (.createTenant body), ?_⟩
        simp [ServerWorld.step, serving, ServerWorld.request, accepted]
      · refine ⟨.request ticket (.updateTenant id body), ?_⟩
        simp [ServerWorld.step, serving, ServerWorld.request, accepted]

/-- A management request, from its handler to its response. -/
theorem ApiRoute.handle_run {parseOrigin : String → Option OriginUri} {route : ApiRoute}
    {caller : KeyRecord} {inputs : HandlerInputs} {after : Store} {response : ApiResponse}
    (serving : world.phase = .serving) (unused : world.store.calls.lookup ticket = none)
    (draws : world.store.DrawsFresh inputs.actions)
    (handled : route.handle hashKey parseOrigin world.store.store caller inputs =
      some (after, response)) :
    ∃ store, ServerWorld.Goes hashKey parse parseUri world { world with store } ∧
      store.store = after ∧
      ∀ op, route.start parseOrigin world.store.store caller = .call op →
        ∃ result, store.calls.Returned ticket op result ∧
          result.answer inputs.sqlError = some response := by
  cases starts : route.start parseOrigin world.store.store caller with
  | respond given =>
      simp only [handle, starts] at handled
      cases handled
      refine ⟨world.store, .refl world, rfl, ?_⟩
      intro op calls
      cases calls
  | panicked panic =>
      simp only [handle, starts] at handled
      cases handled
  | call op =>
      obtain ⟨result, ran, answered⟩ := handle_call starts handled
      obtain ⟨event, begins⟩ :=
        @start_call _ ε hashKey parse parseUri world ticket _ _ _ _ _ serving starts
      rw [ServerWorld.callStore_eq unused] at begins
      have running : (world.store.calls.start ticket op op.entry).lookup ticket =
          some { op, status := .running op.entry } := AList.lookup_insert _
      obtain ⟨store, goes, same, returned⟩ := @ServerWorld.Goes.store _ ε hashKey parse parseUri
        { world with
          store := { world.store with calls := world.store.calls.start ticket op op.entry } }
        ticket op _ _ _ running ⟨draws.fresh, draws.distinct⟩ ran
      refine ⟨store, .head begins goes, same, ?_⟩
      intro other calls
      cases calls
      exact ⟨result, returned, answered⟩

/-! ## The billable handlers -/

/-- What a handler makes of the engine that `resolve_engine` has come to. -/
def SpellRoute.finish (route : SpellRoute) (language : String) (req : SpellCheckRequest) :
    Except EngineError Engine → Option SpellResult
  | .error error => some (.error (.unsupportedLanguage error.display))
  | .ok engine => (route.answer engine req).map fun answer => .ok (language, answer)

theorem SpellService.handle_eq (parse : String → String → Option Engine) (service : SpellService)
    (tenantId : String) (call : SpellCall) :
    service.handle parse tenantId call =
      match spellcheckBody call.body with
      | .error error => (service, some (.error error))
      | .ok req =>
          let loaded := service.resolveLoad parse tenantId req call.load
          ({ service with engines := loaded.state },
            loaded.result.bind
              (call.route.finish (service.requestedLanguage tenantId req) req)) := by
  unfold handle spellcheckBody validBody
  cases call.body with
  | none => rfl
  | some req =>
      by_cases valid : req.validate ≠ []
      · simp only [if_pos valid]
      · simp only [if_neg valid]
        cases (service.resolveLoad parse tenantId req call.load).result with
        | none => rfl
        | some result => cases result <;> rfl

/-- A spell check, from its handler to its answer; the lock of the loads is free. -/
theorem SpellService.handle_run {parse : String → String → Option Engine}
    {world : ServerWorld Engine} {service : SpellService} {tenantId : String} {call : SpellCall}
    (serving : world.phase = .serving) (free : world.engines.loadLock = none)
    (unused : world.engines.calls.lookup ticket = none)
    (store : service.app.store = world.store.store) (language : service.language = world.language)
    (shares : service.engines.Shares world.engines.toEngineState) :
    ∃ engines, ServerWorld.Goes hashKey parse parseUri world { world with engines } ∧
      (∀ other,
        (service.handle parse tenantId call).1.engines.registry.engines.lookup other =
          (engines.registry.engines.lookup other).map Arc.engine) ∧
      ∀ req, spellcheckBody call.body = .ok req →
        ∃ loaded, engines.calls.Returned ticket
            (.getOrLoad (service.requestedLanguage tenantId req) none) (.loaded loaded) ∧
          (service.handle parse tenantId call).2 =
            call.route.finish (service.requestedLanguage tenantId req) req
              (loaded.map Arc.engine) := by
  rw [handle_eq]
  cases accepted : spellcheckBody call.body with
  | error error =>
      have begins : world.step hashKey parse parseUri
          (.request ticket (.spellcheck tenantId call.body)) = some world := by
        simp [ServerWorld.step, serving, ServerWorld.request, accepted]
      refine ⟨world.engines, .head begins (.refl world), shares.engines, ?_⟩
      intro req other
      cases other
  | ok req =>
      obtain ⟨loaded, returned⟩ := EngineState.getOrLoad_returns
        (allocating parse world.engines.allocations) world.engines.toEngineState
        (service.requestedLanguage tenantId req) none call.load
      have same := @EngineState.Shares.getOrLoad _ parse _ _ shares world.engines.allocations
        (service.requestedLanguage tenantId req) none call.load
      have begins : world.step hashKey parse parseUri
          (.request ticket (.spellcheck tenantId call.body)) =
            world.callEngines parse ticket
              (.getOrLoad (service.requestedLanguage tenantId req) none) := by
        rw [requestedLanguage_eq, store, language]
        simp [ServerWorld.step, serving, ServerWorld.request, accepted]
      obtain ⟨engines, goes, registry, ended⟩ :=
        ServerWorld.Goes.load begins unused (getOrLoad_alone free returned)
      refine ⟨engines, goes, ?_, ?_⟩
      · intro other
        rw [registry]
        exact same.engines other
      · intro given both
        cases both
        refine ⟨loaded, ended, ?_⟩
        have result := same.result
        rw [returned] at result
        simp only [resolveLoad, result, Option.map_some, Option.bind_some]

/-! ## The registration -/

namespace RegistrationState

theorem addDictionary_rejected {state : RegistrationState ε} {body : Option AddDictionaryRequest}
    {inputs : AddDictionaryInputs} {error : AppError}
    (rejected : registeredBody parseUri body = .error error) :
    (state.addDictionary parse parseUri hashKey body inputs).state = state := by
  unfold registeredBody validBody at rejected
  unfold addDictionary
  cases body with
  | none => rfl
  | some req =>
      by_cases valid : req.validate parseUri ≠ []
      · simp only [if_pos valid]
      · simp only [if_neg valid] at rejected
        cases rejected

theorem addDictionary_accepted {state : RegistrationState ε} {body : Option AddDictionaryRequest}
    {inputs : AddDictionaryInputs} {req : AddDictionaryRequest}
    (accepted : registeredBody parseUri body = .ok req) :
    state.addDictionary parse parseUri hashKey body inputs =
      match state.store.runAlone hashKey [inputs.upsert, inputs.select, inputs.cache]
          (Op.registerDictionary req.code req.sourceUrl).entry with
      | some (store, .registeredDictionary info) =>
          loadRegistered parse { state with store } req inputs info
      | some (store, _) =>
          { state := { state with store }
            result := some (.error (.internal inputs.sqlError)) }
      | none => { state, result := none } := by
  unfold registeredBody validBody at accepted
  cases body with
  | none => cases accepted
  | some given =>
      by_cases valid : given.validate parseUri ≠ []
      · simp only [if_pos valid] at accepted
        cases accepted
      · simp only [if_neg valid] at accepted
        cases accepted
        exact if_neg valid

/-- A registration, from its handler to its answer; the lock of the loads is free. -/
theorem addDictionary_run {state : RegistrationState ε} {body : Option AddDictionaryRequest}
    {inputs : AddDictionaryInputs} {result : Except AppError DictionaryMetadata}
    (serving : world.phase = .serving) (free : world.engines.loadLock = none)
    (unused : world.store.calls.lookup ticket = none)
    (unloaded : world.engines.calls.lookup ticket = none)
    (draws : world.store.DrawsFresh [inputs.upsert, inputs.select, inputs.cache])
    (store : state.store = world.store.store)
    (shares : state.engines.Shares world.engines.toEngineState)
    (returned : (state.addDictionary parse parseUri hashKey body inputs).result = some result) :
    ∃ next, ServerWorld.Goes hashKey parse parseUri world next ∧
      next.store.store = (state.addDictionary parse parseUri hashKey body inputs).state.store ∧
      ∀ other, (state.addDictionary parse parseUri hashKey body
          inputs).state.engines.registry.engines.lookup other =
        (next.engines.registry.engines.lookup other).map Arc.engine := by
  cases accepted : registeredBody parseUri body with
  | error error =>
      have begins : world.step hashKey parse parseUri (.request ticket (.addDictionary body)) =
          some world := by
        simp [ServerWorld.step, serving, ServerWorld.request, accepted]
      rw [addDictionary_rejected accepted]
      exact ⟨world, .head begins (.refl world), store.symm, shares.engines⟩
  | ok req =>
      rw [addDictionary_accepted accepted] at returned ⊢
      have begins : world.step hashKey parse parseUri (.request ticket (.addDictionary body)) =
          ({ world with registering := world.registering.insert ticket req } :
            ServerWorld ε).callStore hashKey ticket (.registerDictionary req.code req.sourceUrl) := by
        simp [ServerWorld.step, serving, ServerWorld.request, accepted]
      have called := begins.trans (ServerWorld.callStore_eq unused)
      cases ran : state.store.runAlone hashKey [inputs.upsert, inputs.select, inputs.cache]
          (Op.registerDictionary req.code req.sourceUrl).entry with
      | none =>
          rw [ran] at returned
          cases returned
      | some outcome =>
          obtain ⟨after, reached⟩ := outcome
          rw [store] at ran
          obtain ⟨moved, goes, same, ended⟩ := @ServerWorld.Goes.store _ ε hashKey parse parseUri
            { world with
              registering := world.registering.insert ticket req
              store :=
                { world.store with
                  calls := world.store.calls.start ticket
                    (.registerDictionary req.code req.sourceUrl)
                    (Op.registerDictionary req.code req.sourceUrl).entry } }
            ticket _ _ _ _ (AList.lookup_insert _) ⟨draws.fresh, draws.distinct⟩ ran
          cases reached with
          | registeredDictionary info =>
              obtain ⟨loaded, loads⟩ := EngineState.load_returns
                (allocating parse world.engines.allocations) world.engines.toEngineState req.code
                (some req.sourceUrl) inputs.load
              have outcome := @EngineState.Shares.load _ parse _ _ shares
                world.engines.allocations req.code (some req.sourceUrl) inputs.load
              have goesOn : ({ world with
                    registering := world.registering.insert ticket req
                    store := moved } : ServerWorld ε).step hashKey parse parseUri (.load ticket) =
                  _ := ServerWorld.load_eq (AList.lookup_insert _) ended
              obtain ⟨engines, follows, registry, _⟩ :=
                ServerWorld.Goes.load goesOn unloaded (loadCall_alone free loads)
              refine ⟨_, .head called (goes.trans follows), same, ?_⟩
              intro other
              rw [registry]
              exact outcome.engines other
          | _ => exact ⟨_, .head called goes, same, shares.engines⟩

end RegistrationState

end

end

end SpellServer
