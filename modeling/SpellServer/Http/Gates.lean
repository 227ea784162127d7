import SpellServer.Http.Message
import SpellServer.Http.RateLimiter
import SpellServer.Store.Sequential

/-!
# The gates

The middleware of `auth.rs` and `record_usage`, and the groups of routes it
guards.  A gate answers the request itself, panics, or passes it on to
`next.run`.
-/

namespace SpellServer

open Library

variable [Driver]

structure Config where
  dictionaryAdminCidrs : List Cidr
  trustedProxies : List Cidr

/-- `tasks` are the writes spawned by the requests so far. -/
structure AppState where
  store : Store
  tasks : List Task
  rateLimiter : RateLimiter
  config : Config

/-- What serving a request takes from outside: the clock readings of the rate
limiter, and an input for each action of the store's operations. -/
structure Ambient where
  checkedAt : ℕ
  failedAt : ℕ
  authLookup : Input
  authLoad : Input
  authStore : Input
  touchFind : Input
  touchMark : Input
  consumeQuota : Input

/-- `unwrap` of a poisoned lock, or an `expect` with its message. -/
inductive Panic where
  | poisoned
  | expect (message : String)
deriving DecidableEq, Repr

inductive Verdict where
  | respond (state : AppState) (response : ProblemResponse)
  | panicked (state : AppState) (panic : Panic)
  | next (state : AppState) (request : Request)

namespace Verdict

def andThen (verdict : Verdict) (later : AppState → Request → Verdict) : Verdict :=
  match verdict with
  | .respond state response => .respond state response
  | .panicked state panic => .panicked state panic
  | .next state request => later state request

def reject (state : AppState) (error : AppError) : Verdict :=
  .respond state error.intoResponse

def isPanic : Verdict → Bool
  | .panicked _ _ => true
  | _ => false

/-- The application state that is left behind. -/
def state : Verdict → AppState
  | .respond state _ => state
  | .panicked state _ => state
  | .next state _ => state

/-- The status of an answer the gates give themselves. -/
def status : Verdict → Option ℕ
  | .respond _ response => some response.status
  | _ => none

@[simp] theorem andThen_next (state : AppState) (request : Request)
    (later : AppState → Request → Verdict) :
    (next state request).andThen later = later state request := rfl
@[simp] theorem andThen_reject (state : AppState) (error : AppError)
    (later : AppState → Request → Verdict) :
    (reject state error).andThen later = reject state error := rfl
@[simp] theorem andThen_panicked (state : AppState) (panic : Panic)
    (later : AppState → Request → Verdict) :
    (panicked state panic).andThen later = panicked state panic := rfl
@[simp] theorem isPanic_reject (state : AppState) (error : AppError) :
    (reject state error).isPanic = false := rfl
@[simp] theorem isPanic_next (state : AppState) (request : Request) :
    (next state request).isPanic = false := rfl
@[simp] theorem isPanic_panicked (state : AppState) (panic : Panic) :
    (panicked state panic).isPanic = true := rfl
@[simp] theorem status_reject (state : AppState) (error : AppError) :
    (reject state error).status = some error.statusCode := rfl
@[simp] theorem status_panicked (state : AppState) (panic : Panic) :
    (panicked state panic).status = none := rfl

theorem andThen_eq_next {verdict : Verdict} {later : AppState → Request → Verdict}
    {state : AppState} {request : Request} (passed : verdict.andThen later = .next state request) :
    ∃ middle between, verdict = .next middle between ∧
      later middle between = .next state request := by
  cases verdict with
  | respond => cases passed
  | panicked => cases passed
  | next middle between => exact ⟨middle, between, rfl, passed⟩

end Verdict

/-! ## The store's operations, each carried to its end -/

namespace Store

/-- `none` is a panic. -/
def authenticate (hashKey : String → String) (ambient : Ambient) (store : Store)
    (rawKey : String) : Option (Store × Option KeyRecord) :=
  match store.runAlone hashKey [ambient.authLookup, ambient.authLoad, ambient.authStore]
      (Op.authenticate rawKey).entry with
  | some (after, .authenticated record) => some (after, record)
  | _ => none

/-- `none` is a panic. -/
def touchLastUsed (hashKey : String → String) (ambient : Ambient) (store : Store)
    (id : String) : Option (Store × List Task) :=
  let found := (Op.touchLastUsed id).entry.exec hashKey ambient.touchFind store
  match found.next with
  | .returned .touched => some (found.store, found.spawned)
  | .returned _ => none
  | .running later =>
      let marked := later.exec hashKey ambient.touchMark found.store
      match marked.next with
      | .returned .touched => some (marked.store, found.spawned ++ marked.spawned)
      | _ => none

/-- The answer, with what the one action leaves behind. -/
def tryConsumeQuota (hashKey : String → String) (ambient : Ambient) (store : Store)
    (tenantId : String) : Bool × Store × List Task :=
  let outcome := (Op.tryConsumeQuota tenantId).entry.exec hashKey ambient.consumeQuota store
  (decide (outcome.next = .returned (.quotaConsumed true)), outcome.store, outcome.spawned)

end Store

/-! ## The caller's address -/

/-- The fallback is `Ipv4Addr::UNSPECIFIED`. -/
def clientIp (connectInfo : Option IpAddr) : IpAddr :=
  connectInfo.getD (.v4 0)

/-- `str::trim`, on the text of a header value. -/
def trim (text : List Char) : List Char :=
  (text.dropWhile Char.isWhitespace).reverse.dropWhile Char.isWhitespace |>.reverse

def forwardedChain (xff : String) : List IpAddr :=
  (xff.toList.splitOn ',').filterMap fun entry =>
    if trim entry = [] then none else (IpAddr.parse (trim entry)).map IpAddr.canonicalIp

/-- The chain is popped from its right end. -/
def resolvedClientIp (peer : IpAddr) (trustedProxies : List Cidr) (xForwardedFor : Option String) :
    IpAddr :=
  let trusted := fun ip => trustedProxies.any fun cidr => cidr.contains ip
  if trustedProxies.isEmpty || !trusted peer then peer
  else
    match xForwardedFor with
    | none => peer
    | some xff => ((forwardedChain xff).reverse.find? fun ip => !trusted ip).getD peer

/-- The address a dictionary administrator is seen under. -/
def Request.resolvedIp (request : Request) (config : Config) : IpAddr :=
  resolvedClientIp (clientIp request.connectInfo) config.trustedProxies
    ((request.headers.get "x-forwarded-for").bind HeaderValue.toStr)

/-! ## Key gates -/

def Request.rawKey (request : Request) : Option String :=
  (request.headers.get "x-api-key").bind HeaderValue.toStr

section

variable (hashKey : String → String) (ambient : Ambient)

/-- What the three key gates share: the limiter, the header, the lookup. -/
def resolveKey (ip : IpAddr) (state : AppState) (request : Request)
    (accept : AppState → KeyRecord → Verdict) : Verdict :=
  match state.rateLimiter.check ambient.checkedAt ip with
  | .error remaining => .reject state (.rateLimited (max (asSecs remaining) 1))
  | .ok () =>
      let failed := state.rateLimiter.recordFailure ambient.failedAt ip
      match request.rawKey with
      | none => .reject { state with rateLimiter := failed } .unauthorized
      | some rawKey =>
          match state.store.authenticate hashKey ambient rawKey with
          | none => .panicked state .poisoned
          | some (store, none) =>
              .reject { state with store, rateLimiter := failed } .unauthorized
          | some (store, some record) => accept { state with store } record

/-- `touch_last_used`, and the record into the extensions. -/
def admitKey (request : Request) (state : AppState) (record : KeyRecord) : Verdict :=
  match state.store.touchLastUsed hashKey ambient record.id with
  | none => .panicked state .poisoned
  | some (store, spawned) =>
      .next { state with store, tasks := state.tasks ++ spawned }
        { request with keyRecord := some record }

def requireActiveKey (state : AppState) (request : Request) : Verdict :=
  resolveKey hashKey ambient (clientIp request.connectInfo) state request
    (admitKey hashKey ambient request)

def requirePlatformKey (state : AppState) (request : Request) : Verdict :=
  if request.headers.containsKey "origin" then .reject state .forbidden
  else
    resolveKey hashKey ambient (clientIp request.connectInfo) state request
      fun resolved record =>
        if record.role ≠ .platform then .reject resolved .forbidden
        else admitKey hashKey ambient request resolved record

def requireDictionaryAdmin (state : AppState) (request : Request) : Verdict :=
  if request.headers.containsKey "origin" then .reject state .forbidden
  else
    let ip := request.resolvedIp state.config
    resolveKey hashKey ambient ip state request
      fun resolved record =>
        let cidrs := resolved.config.dictionaryAdminCidrs
        if record.role ≠ .platform then .reject resolved .forbidden
        else if !cidrs.isEmpty && !cidrs.any (fun cidr => cidr.contains ip) then
          .reject resolved .forbidden
        else admitKey hashKey ambient request resolved record

end

/-! ## Gates behind a key -/

def requireAdmin (state : AppState) (request : Request) : Verdict :=
  match request.keyRecord with
  | none => .panicked state (.expect "require_admin must be layered after require_active_key")
  | some record =>
      if record.role ≠ .admin then .reject state .forbidden else .next state request

/-- Read the caller's tenant out of the extensions. -/
def withTenant (state : AppState) (request : Request) (noRecord noTenant : String)
    (body : String → Verdict) : Verdict :=
  match request.keyRecord with
  | none => .panicked state (.expect noRecord)
  | some record =>
      match record.tenantId with
      | none => .panicked state (.expect noTenant)
      | some tenantId => body tenantId

def requireOriginBinding (state : AppState) (request : Request) : Verdict :=
  match request.headers.get "origin" with
  | none => .next state request
  | some origin =>
      match origin.toStr with
      | none => .reject state .forbidden
      | some originStr =>
          withTenant state request "require_origin_binding must be layered after require_active_key"
            "require_origin_binding runs only on tenant-scoped routes" fun tenantId =>
              if !state.store.tenantOwnsOrigin tenantId originStr then .reject state .forbidden
              else .next state request

/-- A tenant the cache does not know is not suspended. -/
def Store.tenantSuspended (store : Store) (tenantId : String) : Bool :=
  ((store.getTenant tenantId).map fun info => info.suspendedAt.isSome).getD false

def requireActiveTenant (state : AppState) (request : Request) : Verdict :=
  withTenant state request "require_active_tenant must be layered after require_active_key"
    "require_active_tenant runs only on tenant-scoped routes" fun tenantId =>
      if state.store.tenantSuspended tenantId then .reject state .forbidden
      else .next state request

/-- The origin check of the `admin` arm. -/
def usageOriginBound (store : Store) (request : Request) (tenantId : String) : Bool :=
  match request.headers.get "origin" with
  | none => true
  | some origin =>
      match origin.toStr with
      | none => false
      | some originStr => store.tenantOwnsOrigin tenantId originStr

def requireUsageScope (state : AppState) (request : Request) : Verdict :=
  match request.keyRecord with
  | none =>
      .panicked state (.expect "require_usage_scope must be layered after require_active_key")
  | some record =>
      match record.role with
      | .standard => .reject state .forbidden
      | .platform =>
          if request.headers.containsKey "origin" then .reject state .forbidden
          else .next state { request with usageScope := some .platform }
      | .admin =>
          match record.tenantId with
          | none => .reject state .forbidden
          | some tenantId =>
              match state.store.getTenant tenantId with
              | none => .reject state .forbidden
              | some tenant =>
                  if tenant.suspendedAt.isSome then .reject state .forbidden
                  else if !usageOriginBound state.store request tenantId then
                    .reject state .forbidden
                  else .next state { request with usageScope := some (.tenant tenantId) }

def requireQuota (hashKey : String → String) (ambient : Ambient) (state : AppState)
    (request : Request) : Verdict :=
  withTenant state request "require_quota must be layered after require_active_key"
    "require_quota runs only on tenant-scoped routes" fun tenantId =>
      let (admitted, store, spawned) := state.store.tryConsumeQuota hashKey ambient tenantId
      if !admitted then .reject state .quotaExceeded
      else .next { state with store, tasks := state.tasks ++ spawned } request

/-- What this layer does with the response comes after the handler. -/
def recordUsage (state : AppState) (request : Request) : Verdict :=
  withTenant state request
    "record_usage runs only on tenant-scoped routes, after require_active_key"
    "record_usage runs only on tenant-scoped routes, after require_active_key" fun _ =>
      .next state request

/-! ## Route groups -/

inductive Layer where
  | recordUsage
  | requireQuota
  | requireOriginBinding
  | requireActiveTenant
  | requireActiveKey
  | requireAdmin
  | requireUsageScope
  | requirePlatformKey
  | requireDictionaryAdmin
deriving DecidableEq, Repr

/-- The protected groups of `build_app`. -/
inductive RouteGroup where
  | spellcheck
  | apiKeys
  | tenant
  | tenantOrigins
  | usage
  | tenants
  | dictionaries
deriving DecidableEq, Repr

/-- The `route_layer` calls in the order they are made. -/
def RouteGroup.routeLayers : RouteGroup → List Layer
  | .spellcheck =>
      [.recordUsage, .requireQuota, .requireOriginBinding, .requireActiveTenant,
        .requireActiveKey]
  | .apiKeys => [.requireAdmin, .requireOriginBinding, .requireActiveTenant, .requireActiveKey]
  | .tenant => [.requireOriginBinding, .requireActiveTenant, .requireActiveKey]
  | .tenantOrigins =>
      [.requireAdmin, .requireOriginBinding, .requireActiveTenant, .requireActiveKey]
  | .usage => [.requireUsageScope, .requireActiveKey]
  | .tenants => [.requirePlatformKey]
  | .dictionaries => [.requireDictionaryAdmin]

section

variable (hashKey : String → String) (ambient : Ambient)

def Layer.run : Layer → AppState → Request → Verdict
  | .recordUsage => SpellServer.recordUsage
  | .requireQuota => SpellServer.requireQuota hashKey ambient
  | .requireOriginBinding => SpellServer.requireOriginBinding
  | .requireActiveTenant => SpellServer.requireActiveTenant
  | .requireActiveKey => SpellServer.requireActiveKey hashKey ambient
  | .requireAdmin => SpellServer.requireAdmin
  | .requireUsageScope => SpellServer.requireUsageScope
  | .requirePlatformKey => SpellServer.requirePlatformKey hashKey ambient
  | .requireDictionaryAdmin => SpellServer.requireDictionaryAdmin hashKey ambient

/-- The layer added last is the outermost and runs first. -/
def runLayers : List Layer → AppState → Request → Verdict
  | [], state, request => .next state request
  | layer :: addedLater, state, request =>
      (runLayers addedLater state request).andThen (layer.run hashKey ambient)

/-- The verdict `next` is the execution of the group's handler. -/
def RouteGroup.serve (group : RouteGroup) (state : AppState) (request : Request) : Verdict :=
  runLayers hashKey ambient group.routeLayers state request

end

end SpellServer
