import SpellServer.Dictionary.Registry
import SpellServer.Http.Gates
import SpellServer.Spell.Check
import SpellServer.Usage.Recorder

/-!
# The billable routes

`POST /spellcheck` and `POST /spellcheck/positions` behind their gates: the two
handlers, and what `record_usage` does with the response when one comes back.
-/

namespace SpellServer

open Library

/-- The application state; `language` is that of the configuration. -/
structure SpellService [Driver] where
  app : AppState
  language : String
  engines : EngineState Engine
  usage : UsageRecorder

inductive SpellRoute where
  | spellcheck
  | spellcheckPositions
deriving DecidableEq, Repr

inductive SpellAnswer where
  | results (results : List TokenResult)
  | positions (byToken : Dict String PositionAccumulator)

/-- `none` is a panic of the tokenizer. -/
def SpellRoute.answer (engine : Engine) (req : SpellCheckRequest) : SpellRoute → Option SpellAnswer
  | .spellcheck => (engine.results req).map .results
  | .spellcheckPositions => (engine.positionsByToken req).map .positions

/-- A request and everything that serving it takes from outside.  A body that is
not JSON of the right shape is `none`. -/
structure SpellCall [Driver] where
  route : SpellRoute
  request : Request
  body : Option SpellCheckRequest
  ambient : Ambient
  load : LoadInputs
  recordedAt : ℕ
  elapsed : ℕ

/-- The language an answer was given in, and the answer. -/
abbrev SpellResult := Except AppError (String × SpellAnswer)

/-- What the recorder reads off a response. -/
structure RouteResponse where
  status : ℕ
  resolvedLanguage : Option String
  problemSlug : Option String
deriving DecidableEq, Repr

def SpellResult.response : SpellResult → RouteResponse
  | .ok (language, _) =>
      { status := 200, resolvedLanguage := some language, problemSlug := none }
  | .error error =>
      { status := error.intoResponse.status
        resolvedLanguage := none
        problemSlug := some error.intoResponse.problemSlug }

/-- What `record_usage` makes of a response. -/
def RouteResponse.usageRecord (response : RouteResponse) (now : ℕ) (tenantId : String)
    (elapsed : ℕ) : UsageRecord :=
  { now
    tenantId
    language := response.resolvedLanguage.getD "unknown"
    status := response.status
    errorSlug :=
      if response.status < 400 then "" else response.problemSlug.getD "internal-error"
    latency := elapsed }

/-- How a request ends; the handler has run for a tenant in the last two cases. -/
inductive SpellOutcome where
  | refused (response : ProblemResponse)
  | gatePanicked (panic : Panic)
  | handlerPanicked (tenantId : String)
  | answered (tenantId : String) (result : SpellResult)

/-- The tenant whose quota was asked for and granted. -/
def SpellOutcome.admitted : SpellOutcome → Option String
  | .refused _ | .gatePanicked _ => none
  | .handlerPanicked tenantId | .answered tenantId _ => some tenantId

namespace SpellService

/-- The language of the request, of its tenant, or of the server. -/
def requestedLanguage [Driver] (service : SpellService) (tenantId : String)
    (req : SpellCheckRequest) :
    String :=
  match req.language with
  | some language => language
  | none =>
      ((service.app.store.getTenant tenantId).map TenantInfo.language).getD service.language

section

variable (parse : String → String → Option Engine) (hashKey : String → String)

/-- The load `resolve_engine` asks for. -/
def resolveLoad [Driver] (service : SpellService) (tenantId : String) (req : SpellCheckRequest)
    (inputs : LoadInputs) : LoadOutcome Engine :=
  service.engines.getOrLoad parse (service.requestedLanguage tenantId req) none inputs

/-- Both handlers; `none` is a panic. -/
def handle [Driver] (service : SpellService) (tenantId : String) (call : SpellCall) :
    SpellService × Option SpellResult :=
  match call.body with
  | none => (service, some (.error .jsonRejection))
  | some req =>
      if req.validate ≠ [] then (service, some (.error .validation))
      else
        let loaded := service.resolveLoad parse tenantId req call.load
        let resolved := { service with engines := loaded.state }
        match loaded.result with
        | none => (resolved, none)
        | some (.error error) => (resolved, some (.error (.unsupportedLanguage error.display)))
        | some (.ok engine) =>
            (resolved, (call.route.answer engine req).map fun answer =>
              .ok (service.requestedLanguage tenantId req, answer))

/-- A request from its arrival to its end. -/
def serve [Driver] (service : SpellService) (call : SpellCall) : SpellService × SpellOutcome :=
  match RouteGroup.spellcheck.serve hashKey call.ambient service.app call.request with
  | .respond app response => ({ service with app }, .refused response)
  | .panicked app panic => ({ service with app }, .gatePanicked panic)
  | .next app handled =>
      let admitted := { service with app }
      match handled.keyRecord.bind KeyRecord.tenantId with
      | none =>
          (admitted, .gatePanicked
            (.expect "record_usage runs only on tenant-scoped routes, after require_active_key"))
      | some tenantId =>
          match admitted.handle parse tenantId call with
          | (after, none) => (after, .handlerPanicked tenantId)
          | (after, some result) =>
              ({ after with
                  usage := after.usage.record
                    (result.response.usageRecord call.recordedAt tenantId call.elapsed) },
                .answered tenantId result)

end

end SpellService

end SpellServer
