import SpellServer.Http.Authorization
import SpellServer.Http.SpellRoutes

/-!
# Billed and recorded requests

`require_quota` is the gate right outside `record_usage`, so that a request
costs a unit exactly when it gets to the recorder.  The recorder writes its
entry behind the handler, which is too late for a handler that panics.
-/

namespace SpellServer

open Library

def Task.bills [Driver] (tenantId : String) : Task → Bool
  | .requestCount id _ => id = tenantId
  | .lastUsedAt _ _ => false

/-- The quota units consumed so far: every admission spawns one write of the counter. -/
def AppState.unitsConsumed [Driver] (state : AppState) (tenantId : String) : ℕ :=
  state.tasks.countP (Task.bills tenantId)

/-! ## What each gate costs -/

namespace Verdict

/-- The gate has consumed nothing. -/
def Free [Driver] (before : AppState) (verdict : Verdict) : Prop :=
  ∀ tenantId, verdict.state.unitsConsumed tenantId = before.unitsConsumed tenantId

theorem Free.of_tasks [Driver] {before : AppState} {verdict : Verdict}
    (same : verdict.state.tasks = before.tasks) : verdict.Free before := by
  intro tenantId
  rw [AppState.unitsConsumed, same]
  rfl

theorem Free.andThen [Driver] {before : AppState} {verdict : Verdict}
    {later : AppState → Request → Verdict} (free : verdict.Free before)
    (continues : ∀ state request, verdict = .next state request →
      (later state request).Free state) : (verdict.andThen later).Free before := by
  cases verdict with
  | respond | panicked => exact free
  | next state request =>
      intro tenantId
      exact (continues state request rfl tenantId).trans (free tenantId)

end Verdict

theorem Store.touchLastUsed_spawned [Driver] {hashKey : String → String} {ambient : Ambient}
    {store after : Store} {id : String} {spawned : List Task}
    (touched : store.touchLastUsed hashKey ambient id = some (after, spawned)) :
    ∀ task ∈ spawned, ∀ tenantId, task.bills tenantId = false := by
  by_cases healthy : store.keysPoisoned = false
  · obtain ⟨_, marked, _⟩ := store.touchLastUsed_healthy hashKey ambient id healthy
    cases marked.symm.trans touched
    simp [Task.bills]
  · rw [store.touchLastUsed_poisoned hashKey ambient id (by simpa using healthy)] at touched
    cases touched

section

variable [Driver] {hashKey : String → String} {ambient : Ambient} {state later : AppState}
  {request handled : Request}

theorem admitKey_free (record : KeyRecord) :
    (admitKey hashKey ambient request state record).Free state := by
  unfold admitKey
  cases touched : state.store.touchLastUsed hashKey ambient record.id with
  | none => exact .of_tasks rfl
  | some entry =>
      obtain ⟨store, spawned⟩ := entry
      intro tenantId
      have none : spawned.countP (Task.bills tenantId) = 0 := by
        apply List.countP_eq_zero.mpr
        intro task member
        simp [Store.touchLastUsed_spawned touched task member tenantId]
      simp [Verdict.state, AppState.unitsConsumed, List.countP_append, none]

theorem requireActiveKey_free : (requireActiveKey hashKey ambient state request).Free state := by
  unfold requireActiveKey resolveKey
  split
  · exact .of_tasks rfl
  · split
    · exact .of_tasks rfl
    · split
      · exact .of_tasks rfl
      · exact .of_tasks rfl
      · exact admitKey_free _

theorem withTenant_free {noRecord noTenant : String} {body : String → Verdict}
    (free : ∀ tenantId, (body tenantId).Free state) :
    (withTenant state request noRecord noTenant body).Free state := by
  unfold withTenant
  split
  · exact .of_tasks rfl
  · split
    · exact .of_tasks rfl
    · exact free _

theorem requireActiveTenant_free : (requireActiveTenant state request).Free state := by
  apply withTenant_free
  intro tenantId
  split <;> exact .of_tasks rfl

theorem requireOriginBinding_free : (requireOriginBinding state request).Free state := by
  unfold requireOriginBinding
  split
  · exact .of_tasks rfl
  · split
    · exact .of_tasks rfl
    · apply withTenant_free
      intro tenantId
      split <;> exact .of_tasks rfl

/-- The layers outside `require_quota`. -/
theorem innerLayers_free (hashKey : String → String) (ambient : Ambient) (state : AppState)
    (request : Request) :
    (runLayers hashKey ambient [.requireOriginBinding, .requireActiveTenant, .requireActiveKey]
      state request).Free state := by
  have key : (runLayers hashKey ambient [.requireActiveKey] state request).Free state :=
    requireActiveKey_free
  have tenant : (runLayers hashKey ambient [.requireActiveTenant, .requireActiveKey] state
      request).Free state :=
    key.andThen fun _ _ _ => requireActiveTenant_free
  exact tenant.andThen fun _ _ _ => requireOriginBinding_free

theorem Store.tryConsumeQuota_cases (hashKey : String → String) (ambient : Ambient)
    (store : Store) (tenantId : String) :
    (store.tryConsumeQuota hashKey ambient tenantId).1 = false ∨
      ∃ after count, store.tryConsumeQuota hashKey ambient tenantId =
        (true, after, [.requestCount tenantId count]) := by
  cases known : store.tenants.lookup tenantId with
  | none =>
      left
      simp [Store.tryConsumeQuota, Op.entry, Frame.exec, TenantFrame.exec, known]
  | some info =>
      by_cases exhausted : info.exhausted = true
      · left
        simp [Store.tryConsumeQuota, Op.entry, Frame.exec, TenantFrame.exec, known, exhausted]
      · right
        refine ⟨{ store with tenants := store.tenants.insert tenantId info.consume },
          info.consume.requestCount, ?_⟩
        simp [Store.tryConsumeQuota, Op.entry, Frame.exec, TenantFrame.exec, known, exhausted]

/-- The gate refuses, or passes the request on at the cost of one unit. -/
theorem requireQuota_cases (hashKey : String → String) (ambient : Ambient) (state : AppState)
    {record : KeyRecord} {tenantId : String} (held : request.keyRecord = some record)
    (owned : record.tenantId = some tenantId) :
    requireQuota hashKey ambient state request = .reject state .quotaExceeded ∨
      ∃ later, requireQuota hashKey ambient state request = .next later request ∧
        ∀ other, later.unitsConsumed other =
          state.unitsConsumed other + if other = tenantId then 1 else 0 := by
  unfold requireQuota
  rw [withTenant_eq held owned]
  rcases state.store.tryConsumeQuota_cases hashKey ambient tenantId with refused | granted
  · left
    simp [refused]
  · right
    obtain ⟨after, count, outcome⟩ := granted
    refine ⟨{ state with store := after, tasks := state.tasks ++ [.requestCount tenantId count] },
      ?_, ?_⟩
    · simp [outcome]
    · intro other
      by_cases same : other = tenantId
      · subst other
        simp [AppState.unitsConsumed, List.countP_append, Task.bills]
      · simp [AppState.unitsConsumed, List.countP_append, Task.bills, same, Ne.symm same]

/-- A request is stopped for free, or gets to the handler at the cost of one unit. -/
theorem spellcheck_gates_cases (hashKey : String → String) (ambient : Ambient) (state : AppState)
    (request : Request) :
    ((∀ later handled, RouteGroup.spellcheck.serve hashKey ambient state request ≠
        .next later handled) ∧
      (RouteGroup.spellcheck.serve hashKey ambient state request).Free state) ∨
    ∃ later handled record tenantId,
      RouteGroup.spellcheck.serve hashKey ambient state request = .next later handled ∧
      handled.keyRecord = some record ∧ record.tenantId = some tenantId ∧
      ∀ other, later.unitsConsumed other =
        state.unitsConsumed other + if other = tenantId then 1 else 0 := by
  have unfolded : RouteGroup.spellcheck.serve hashKey ambient state request =
      ((runLayers hashKey ambient [.requireOriginBinding, .requireActiveTenant,
        .requireActiveKey] state request).andThen (requireQuota hashKey ambient)).andThen
          recordUsage := rfl
  have inner := innerLayers_free hashKey ambient state request
  rw [unfolded]
  cases stopped : runLayers hashKey ambient [.requireOriginBinding, .requireActiveTenant,
      .requireActiveKey] state request with
  | respond middle response | panicked middle panic =>
      rw [stopped] at inner
      exact Or.inl ⟨fun _ _ same => (by cases same), inner⟩
  | next middle between =>
      rw [stopped] at inner
      rw [Verdict.andThen_next]
      cases held : between.keyRecord with
      | none =>
          left
          have panics : requireQuota hashKey ambient middle between = .panicked middle
              (.expect "require_quota must be layered after require_active_key") := by
            simp only [requireQuota, withTenant, held]
          rw [panics, Verdict.andThen_panicked]
          exact ⟨fun _ _ same => (by cases same), inner⟩
      | some record =>
          cases owned : record.tenantId with
          | none =>
              left
              have panics : requireQuota hashKey ambient middle between = .panicked middle
                  (.expect "require_quota runs only on tenant-scoped routes") := by
                simp only [requireQuota, withTenant, held, owned]
              rw [panics, Verdict.andThen_panicked]
              exact ⟨fun _ _ same => (by cases same), inner⟩
          | some tenantId =>
              rcases requireQuota_cases hashKey ambient middle held owned with
                refused | ⟨later, granted, cost⟩
              · left
                rw [refused, Verdict.andThen_reject]
                exact ⟨fun _ _ same => (by cases same), inner⟩
              · right
                have passes : recordUsage later between = .next later between := by
                  simp only [recordUsage, withTenant, held, owned]
                rw [granted, Verdict.andThen_next, passes]
                refine ⟨later, between, record, tenantId, rfl, held, owned, fun other => ?_⟩
                rw [cost]
                exact congrArg (· + _) (inner other)

end

/-! ## Errors and their slugs -/

namespace AppError

theorem le_statusCode (error : AppError) : 400 ≤ error.statusCode := by
  cases error <;> simp [statusCode]

theorem problemSlug_ne_empty (error : AppError) : error.problemSlug ≠ "" := by
  cases error <;> simp [problemSlug]

end AppError

/-! ## One request -/

section

variable (parse : String → String → Option Engine) (hashKey : String → String)

/-- A refused request costs nothing and is not recorded; an admitted one costs
its tenant one unit and is recorded once, under the slug of its error if it has one. -/
def BilledOnce [Driver] (service : SpellService) (call : SpellCall) : Prop :=
  let (after, outcome) := service.serve parse hashKey call
  match outcome.admitted with
  | none =>
      (∀ other, after.app.unitsConsumed other = service.app.unitsConsumed other) ∧
        after.usage = service.usage
  | some tenantId =>
      (∀ other, after.app.unitsConsumed other =
        service.app.unitsConsumed other + if other = tenantId then 1 else 0) ∧
      ∃ entry : UsageRecord, after.usage = service.usage.record entry ∧
        entry.tenantId = tenantId ∧ (entry.errorSlug = "" ↔ entry.status < 400) ∧
        (400 ≤ entry.status →
          ∃ error, outcome = .answered tenantId (.error error) ∧
            entry.errorSlug = error.problemSlug)

/-- The request is admitted and its valid body gets as far as a text with a run
of nothing but punctuation, which kills the handler. -/
def KillsHandler [Driver] (service : SpellService) (call : SpellCall) : Prop :=
  ∃ app handled tenantId req text engine,
    RouteGroup.spellcheck.serve hashKey call.ambient service.app call.request =
      .next app handled ∧
    handled.keyRecord.bind KeyRecord.tenantId = some tenantId ∧
    call.body = some req ∧ req.validate = [] ∧ req.text = some text ∧
    ({ service with app }.resolveLoad parse tenantId req call.load).result =
      some (.ok engine) ∧
    HasPunctuationRun text

variable [Driver] {parse hashKey} {service : SpellService} {call : SpellCall}

omit [Driver] in
theorem SpellRoute.answer_eq_none_iff (route : SpellRoute) (engine : Engine)
    (req : SpellCheckRequest) :
    route.answer engine req = none ↔ ∃ text, req.text = some text ∧ HasPunctuationRun text := by
  have tokens : req.tokens = none ↔ ∃ text, req.text = some text ∧ HasPunctuationRun text := by
    unfold SpellCheckRequest.tokens
    cases given : req.text with
    | none => simp
    | some text => simp [tokenize_eq_none_iff]
  rw [← tokens]
  cases route <;> cases found : req.tokens <;>
    simp [answer, Engine.results, Engine.positionsByToken, found]

/-- The handler panics on a text that kills it, and on nothing else; it never
touches the recorder or the quota. -/
theorem SpellService.handle_cases (parse : String → String → Option Engine)
    (service : SpellService) (tenantId : String) (call : SpellCall) :
    (service.handle parse tenantId call).1.app = service.app ∧
    (service.handle parse tenantId call).1.usage = service.usage ∧
    ((service.handle parse tenantId call).2 = none ↔ ∃ req text engine,
      call.body = some req ∧ req.validate = [] ∧ req.text = some text ∧
      (service.resolveLoad parse tenantId req call.load).result = some (.ok engine) ∧
      HasPunctuationRun text) := by
  unfold handle
  cases body : call.body with
  | none => simp
  | some req =>
      by_cases valid : req.validate = []
      · obtain ⟨result, loaded⟩ := EngineState.getOrLoad_returns parse service.engines
          (service.requestedLanguage tenantId req) none call.load
        have resolved : (service.resolveLoad parse tenantId req call.load).result = some result :=
          loaded
        cases result with
        | error error => simp [valid, resolved]
        | ok engine =>
            have answers := call.route.answer_eq_none_iff engine req
            simp [valid, resolved, answers]
      · simp [valid]

omit [Driver] in
/-- The record of a response is that of its error, if it has one. -/
theorem SpellResult.usageRecord_response (result : SpellResult) (now : ℕ) (tenantId : String)
    (elapsed : ℕ) :
    let entry := result.response.usageRecord now tenantId elapsed
    entry.tenantId = tenantId ∧ (entry.errorSlug = "" ↔ entry.status < 400) ∧
      (400 ≤ entry.status → ∃ error, result = .error error ∧
        entry.errorSlug = error.problemSlug) := by
  cases result with
  | ok answer => simp [response, RouteResponse.usageRecord]
  | error error =>
      have failed : ¬error.statusCode < 400 := Nat.not_lt.mpr error.le_statusCode
      simp [response, RouteResponse.usageRecord, AppError.intoResponse, failed,
        error.problemSlug_ne_empty]

omit [Driver] in
theorem UsageRecorder.record_ne (recorder : UsageRecorder) (entry : UsageRecord) :
    recorder ≠ recorder.record entry := by
  intro same
  have counted := recorder.requestsOf_record entry entry.tenantId
  rw [← same] at counted
  simp at counted

/-- What happens to a request that no gate stops. -/
theorem SpellService.serve_admitted {later : AppState} {handled : Request} {record : KeyRecord}
    {tenantId : String}
    (passed : RouteGroup.spellcheck.serve hashKey call.ambient service.app call.request =
      .next later handled)
    (held : handled.keyRecord = some record) (owned : record.tenantId = some tenantId) :
    let admitted := { service with app := later }
    let handling := admitted.handle parse tenantId call
    service.serve parse hashKey call =
      match handling.2 with
      | none => (handling.1, .handlerPanicked tenantId)
      | some result =>
          ({ handling.1 with
              usage := handling.1.usage.record
                (result.response.usageRecord call.recordedAt tenantId call.elapsed) },
            .answered tenantId result) := by
  simp only [serve, passed, held, Option.bind_some, owned]
  split <;> simp_all

variable (parse hashKey) in
theorem billedOnce_iff (service : SpellService) (call : SpellCall) :
    BilledOnce parse hashKey service call ↔ ¬KillsHandler parse hashKey service call := by
  rcases spellcheck_gates_cases hashKey call.ambient service.app call.request with
    ⟨stopped, free⟩ | ⟨later, handled, record, tenantId, passed, held, owned, cost⟩
  · refine iff_of_true ?_ ?_
    · unfold BilledOnce SpellService.serve
      cases verdict : RouteGroup.spellcheck.serve hashKey call.ambient service.app call.request with
      | respond app response | panicked app panic =>
          rw [verdict] at free
          exact ⟨free, rfl⟩
      | next app handled => exact absurd verdict (stopped app handled)
    · intro kills
      obtain ⟨app, handled, _, _, _, _, passed, _⟩ := kills
      exact stopped app handled passed
  · obtain ⟨sameApp, sameUsage, panics⟩ := SpellService.handle_cases parse
      { service with app := later } tenantId call
    have tenant : handled.keyRecord.bind KeyRecord.tenantId = some tenantId := by
      rw [held, Option.bind_some, owned]
    unfold BilledOnce
    rw [SpellService.serve_admitted passed held owned]
    cases result : ({ service with app := later }.handle parse tenantId call).2 with
    | none =>
        refine iff_of_false ?_ (not_not.mpr ?_)
        · intro billed
          obtain ⟨_, entry, recorded, _⟩ := billed
          exact service.usage.record_ne entry (sameUsage.symm.trans recorded)
        · obtain ⟨req, text, engine, body, valid, given, loaded, run⟩ := panics.mp result
          exact ⟨later, handled, tenantId, req, text, engine, passed, tenant, body, valid, given,
            loaded, run⟩
    | some answer =>
        refine iff_of_true ?_ ?_
        · obtain ⟨sameTenant, slug, error⟩ :=
            answer.usageRecord_response call.recordedAt tenantId call.elapsed
          refine ⟨fun other => ?_, _, congrArg (UsageRecorder.record · _) sameUsage, sameTenant,
            slug, fun failed => ?_⟩
          · exact (congrArg (AppState.unitsConsumed · other) sameApp).trans (cost other)
          · obtain ⟨error, same, named⟩ := error failed
            exact ⟨error, by rw [same], named⟩
        · intro kills
          obtain ⟨app, other, otherTenant, req, text, engine, reached, owner, rest⟩ := kills
          cases passed.symm.trans reached
          cases tenant.symm.trans owner
          have panicked := panics.mpr ⟨req, text, engine, rest⟩
          rw [result] at panicked
          cases panicked

/-! ## Sequences of requests -/

variable (parse hashKey) in
def SpellService.step (service : SpellService) (call : SpellCall) : Option SpellService :=
  some (service.serve parse hashKey call).1

/-- The units and the records of a tenant have grown by the same number. -/
def SpellService.BalancedSince (start : SpellService) (tenantId : String)
    (finish : SpellService) : Prop :=
  (finish.app.unitsConsumed tenantId : ℤ) - start.app.unitsConsumed tenantId =
    finish.usage.requestsOf tenantId - start.usage.requestsOf tenantId

/-- A request that is billed once is recorded for the tenant that pays. -/
theorem BilledOnce.balanced (billed : BilledOnce parse hashKey service call) (tenantId : String) :
    service.BalancedSince tenantId (service.serve parse hashKey call).1 := by
  unfold BilledOnce at billed
  unfold SpellService.BalancedSince
  cases admitted : (service.serve parse hashKey call).2.admitted with
  | none =>
      simp only [admitted] at billed
      obtain ⟨units, usage⟩ := billed
      rw [units, usage, sub_self, sub_self]
  | some payer =>
      simp only [admitted] at billed
      obtain ⟨units, entry, usage, sameTenant, _⟩ := billed
      rw [units, usage, UsageRecorder.requestsOf_record, sameTenant]
      by_cases same : tenantId = payer
      · simp [same]
      · simp [same, Ne.symm same]

/-- Each request is billed once exactly when it does not kill its handler; over
a sequence of such requests every tenant has as many records as units. -/
theorem billable_requests_recorded (parse : String → String → Option Engine)
    (hashKey : String → String) :
    (∀ (service : SpellService) (call : SpellCall),
      BilledOnce parse hashKey service call ↔ ¬KillsHandler parse hashKey service call) ∧
    ∀ (start finish : SpellService) (calls : List SpellCall) (tenantId : String),
      Run (SpellService.step parse hashKey)
        (fun service call => ¬KillsHandler parse hashKey service call) start calls finish →
      start.BalancedSince tenantId finish := by
  refine ⟨billedOnce_iff parse hashKey, ?_⟩
  intro start finish calls tenantId run
  have preserved : ∀ service call next, start.BalancedSince tenantId service →
      ¬KillsHandler parse hashKey service call → service.step parse hashKey call = some next →
      start.BalancedSince tenantId next := by
    intro service call next before survives taken
    cases taken
    have billed := ((billedOnce_iff parse hashKey service call).mpr survives).balanced tenantId
    unfold SpellService.BalancedSince at before billed ⊢
    omega
  apply run.invariant preserved
  unfold SpellService.BalancedSince
  rw [sub_self, sub_self]

end

/-! ## A run of dots -/

open scoped DefaultBackend

/-- A server that has loaded its default language. -/
def startedService (store : Store) : SpellService :=
  { app := .started store unrestricted
    language := "en_US"
    engines :=
      { registry :=
          { defaultLanguage := "en_US"
            dictionaryManager :=
              { baseUrl := "https://example.com/dict"
                dictionaryDir := "/data/dictionaries"
                refreshInterval := 86400 * 1000000000 }
            engines := (∅ : Dict String Engine).insert "en_US" sampleEngine }
        disk := ∅ }
    usage := .new }

/-- A request with the tenant's key of `tenantSetup`. -/
def textCall (text : String) : SpellCall :=
  let input : DiskInput :=
    { now := 0, failure := none, answers := fun _ => .failed "HTTP status client error" }
  { route := .spellcheck
    request := tenantRequest []
    body := some { text := some text, words := none, language := none }
    ambient := sampleAmbient
    load :=
      { ensure :=
          { isFresh := input, createDirAll := input, downloadAff := input, downloadDic := input
            writeAff := input, renameAff := input, writeDic := input, renameDic := input }
        readAff := none
        readDic := none }
    recordedAt := 1760000000
    elapsed := 1500000 }

/-- The engine is loaded already, so nothing is parsed. -/
def noParser (_ _ : String) : Option Engine := none

/-- What the request leaves of units and records of the tenant. -/
def unitsAndRecords (store : Store) (text : String) : ℕ × ℤ :=
  let after := ((startedService store).serve noParser sampleHash (textCall text)).1
  (after.app.unitsConsumed (sampleId 1).text, after.usage.requestsOf (sampleId 1).text)

theorem punctuation_run_billed_unrecorded :
    ¬∀ (world : World) (calls : List SpellCall) (finish : SpellService) (tenantId : String),
      World.Reachable sampleHash world →
      Run (SpellService.step noParser sampleHash) (fun _ _ => True) (startedService world.store)
        calls finish →
      (finish.app.unitsConsumed tenantId : ℤ) = finish.usage.requestsOf tenantId := by
  intro claim
  obtain ⟨world, run, outcome⟩ := World.exists_run sampleHash (fun _ _ => true) tenantSetup
    (fun world => decide (unitsAndRecords world.store "wait ... what" = (1, 0)))
    (by decide +kernel)
  have served := claim world [textCall "wait ... what"] _ (sampleId 1).text
    ⟨_, run.weaken fun _ _ _ => trivial⟩ (.cons trivial rfl (.nil _))
  obtain ⟨units, records⟩ := Prod.mk.inj (of_decide_eq_true outcome)
  rw [units, records] at served
  cases served

theorem billable_requests_recorded_for_words :
    ∃ world, World.Reachable sampleHash world ∧
      BilledOnce noParser sampleHash (startedService world.store) (textCall "hello, wrld") ∧
      ((unitsAndRecords world.store "hello, wrld").1 : ℤ) =
        (unitsAndRecords world.store "hello, wrld").2 := by
  obtain ⟨world, run, outcome⟩ := World.exists_run sampleHash (fun _ _ => true) tenantSetup
    (fun world => decide (unitsAndRecords world.store "hello, wrld" = (1, 1)))
    (by decide +kernel)
  have survives : ¬KillsHandler noParser sampleHash (startedService world.store)
      (textCall "hello, wrld") := by
    intro kills
    obtain ⟨_, _, _, _, _, _, _, _, body, _, given, _, punctuated⟩ := kills
    cases body
    cases given
    exact absurd punctuated (by decide +kernel)
  obtain ⟨single, sequence⟩ := billable_requests_recorded noParser sampleHash
  refine ⟨world, ⟨_, run.weaken fun _ _ _ => trivial⟩, (single _ _).mpr survives, ?_⟩
  have balanced := sequence (startedService world.store) _ [textCall "hello, wrld"]
    (sampleId 1).text (.cons survives rfl (.nil _))
  have start : (startedService world.store).app.unitsConsumed (sampleId 1).text = 0 := rfl
  have empty : (startedService world.store).usage.requestsOf (sampleId 1).text = 0 := rfl
  rw [SpellService.BalancedSince, start, empty, Nat.cast_zero, sub_zero, sub_zero] at balanced
  exact balanced

end SpellServer
