import SpellServer.Http.Bodies
import SpellServer.Http.LanguageCodes
import SpellServer.Http.OriginRegistration
import SpellServer.Store.TenantScope

/-!
# The management handlers

The handlers behind the gates that manage keys, tenants and origins.  A handler
answers at once, or makes one call of the store and answers with what it returned.
-/

namespace SpellServer

open Library

/-- A response of a handler; `json` has the status 200 and `noContent` 204. -/
inductive ApiResponse where
  | json (body : Json)
  | noContent
  | problem (response : ProblemResponse)

def ApiResponse.status : ApiResponse → ℕ
  | .json _ => 200
  | .noContent => 204
  | .problem response => response.status

def ApiResponse.reject (error : AppError) : ApiResponse := .problem error.intoResponse

/-- A body is `none` where the JSON extractor has turned it down. -/
inductive ApiRoute where
  | createApiKey (body : Option Json)
  | listApiKeys
  | revokeApiKey (id : String)
  | rotateApiKey (id : String)
  | getOwnTenant
  | listOwnOrigins
  | registerOrigin (body : Option Json)
  | revokeOrigin (id : String)
  | createTenant (body : Option Json)
  | listTenants
  | getTenant (id : String)
  | updateTenant (id : String) (body : Option Json)
  | suspendTenant (id : String)
  | reactivateTenant (id : String)

/-- What a handler comes to before it waits. -/
inductive Handling where
  | respond (response : ApiResponse)
  | call (op : Op)
  | panicked (panic : Panic)

namespace Handling

def reject (error : AppError) : Handling := .respond (.reject error)

/-- A valid body, or an error response. -/
def ofBody (accepted : Except AppError Op) : Handling :=
  match accepted with
  | .error error => .reject error
  | .ok op => .call op

/-- `caller.tenant_id.as_deref().expect(…)`. -/
def forTenant (caller : KeyRecord) (message : String) (later : String → Handling) : Handling :=
  match caller.tenantId with
  | none => .panicked (.expect message)
  | some tenantId => later tenantId

end Handling

/-- The map has no order of its own. -/
def Store.listTenants (store : Store) : List TenantInfo := store.tenants.values

/-! ## The handlers -/

section

variable (parseUri : String → Option OriginUri) (store : Store) (caller : KeyRecord)

def createApiKey (body : Option Json) : Handling :=
  match validBody CreateApiKeyRequest.validate (body.bind CreateApiKeyRequest.ofJson) with
  | .error error => .reject error
  | .ok req =>
      .forTenant caller "require_admin guarantees a tenant-scoped key" fun tenantId =>
        .call (.createKey tenantId req.label req.role req.expiresAt)

def listApiKeys : Handling :=
  .forTenant caller "require_admin guarantees a tenant-scoped key" fun tenantId =>
    match store.listKeys tenantId with
    | none => .panicked .poisoned
    | some records =>
        .respond (.json (listResponse "keys"
          (records.map fun record => (ApiKeyMetadata.ofRecord record).toJson)))

def revokeApiKey (id : String) : Handling :=
  .forTenant caller "require_admin guarantees a tenant-scoped key" fun tenantId =>
    .call (.revokeKey tenantId id)

def rotateApiKey (id : String) : Handling :=
  .forTenant caller "require_admin guarantees a tenant-scoped key" fun tenantId =>
    .call (.rotateKey tenantId id)

def getOwnTenant : Handling :=
  .forTenant caller "require_active_tenant guarantees a tenant-scoped key" fun tenantId =>
    match store.getTenant tenantId with
    | none => .reject .notFound
    | some tenant => .respond (.json (TenantMetadata.ofInfo tenant).toJson)

def listOwnOrigins : Handling :=
  .forTenant caller "require_admin guarantees a tenant-scoped key" fun tenantId =>
    .respond (.json (listResponse "origins"
      ((store.listOrigins tenantId).map fun info => (OriginMetadata.ofInfo info).toJson)))

def registerOrigin (body : Option Json) : Handling :=
  match validBody (RegisterOriginRequest.validate parseUri)
      (body.bind RegisterOriginRequest.ofJson) with
  | .error error => .reject error
  | .ok req =>
      .forTenant caller "require_admin guarantees a tenant-scoped key" fun tenantId =>
        .call (.registerOrigin tenantId req.origin)

def revokeOrigin (id : String) : Handling :=
  .forTenant caller "require_admin guarantees a tenant-scoped key" fun tenantId =>
    .call (.revokeOrigin tenantId id)

def listTenants : Handling :=
  .respond (.json (listResponse "tenants"
    (store.listTenants.map fun info => (TenantMetadata.ofInfo info).toJson)))

def getTenant (id : String) : Handling :=
  match store.getTenant id with
  | none => .reject .notFound
  | some tenant => .respond (.json (TenantMetadata.ofInfo tenant).toJson)

/-- The handler of each route, up to its call of the store. -/
def ApiRoute.start : ApiRoute → Handling
  | .createApiKey body => SpellServer.createApiKey caller body
  | .listApiKeys => SpellServer.listApiKeys store caller
  | .revokeApiKey id => SpellServer.revokeApiKey caller id
  | .rotateApiKey id => SpellServer.rotateApiKey caller id
  | .getOwnTenant => SpellServer.getOwnTenant store caller
  | .listOwnOrigins => SpellServer.listOwnOrigins store caller
  | .registerOrigin body => SpellServer.registerOrigin parseUri caller body
  | .revokeOrigin id => SpellServer.revokeOrigin caller id
  | .createTenant body =>
      .ofBody (SpellServer.createTenant (body.bind CreateTenantRequest.ofJson))
  | .listTenants => SpellServer.listTenants store
  | .getTenant id => SpellServer.getTenant store id
  | .updateTenant id body =>
      .ofBody (SpellServer.updateTenant id (body.bind UpdateTenantRequest.ofJson))
  | .suspendTenant id => .call (.setSuspended id true)
  | .reactivateTenant id => .call (.setSuspended id false)

end

/-- What the handlers make of the value a call has returned; `none` is a panic, or
a value no handler waits for. -/
def Result.answer (reason : String) : Result → Option ApiResponse
  | .err => some (.reject (.internal reason))
  | .createdKey created => some (.json (CreatedApiKeyResponse.ofCreated created).toJson)
  | .revokedKey found | .revokedOrigin found | .setSuspended found =>
      some (if found then .noContent else .reject .notFound)
  | .rotatedKey none | .updatedTenant none => some (.reject .notFound)
  | .rotatedKey (some created) => some (.json (CreatedApiKeyResponse.ofCreated created).toJson)
  | .registeredOrigin info => some (.json (OriginMetadata.ofInfo info).toJson)
  | .createdTenant info adminKey =>
      some (.json
        (CreatedTenant.toJson { tenant := .ofInfo info, adminKey := .ofCreated adminKey }))
  | .updatedTenant (some tenant) => some (.json (TenantMetadata.ofInfo tenant).toJson)
  | .panicked | .resetKey _ | .authenticated _ | .touched | .quotaConsumed _
  | .registeredDictionary _ => none

/-- What carries a handler to its end with nothing in between: the inputs of its
call's actions and the text of the driver's error. -/
structure HandlerInputs [Driver] where
  actions : List Input
  sqlError : String

/-- Run a handler; `none` is a panic. -/
def ApiRoute.handle [Driver] (hashKey : String → String) (parseUri : String → Option OriginUri)
    (store : Store) (caller : KeyRecord) (inputs : HandlerInputs) (route : ApiRoute) :
    Option (Store × ApiResponse) :=
  match route.start parseUri store caller with
  | .respond response => some (store, response)
  | .panicked _ => none
  | .call op =>
      (store.runAlone hashKey inputs.actions op.entry).bind fun (after, result) =>
        (result.answer inputs.sqlError).map fun response => (after, response)

theorem ApiRoute.handle_call [Driver] {hashKey : String → String}
    {parseUri : String → Option OriginUri}
    {store after : Store} {caller : KeyRecord} {inputs : HandlerInputs} {route : ApiRoute}
    {op : Op} {response : ApiResponse} (calls : route.start parseUri store caller = .call op)
    (handled : route.handle hashKey parseUri store caller inputs = some (after, response)) :
    ∃ result, store.runAlone hashKey inputs.actions op.entry = some (after, result) ∧
      result.answer inputs.sqlError = some response := by
  rw [handle, calls] at handled
  obtain ⟨⟨left, result⟩, ran, answered⟩ := Option.bind_eq_some_iff.mp handled
  obtain ⟨given, made, same⟩ := Option.map_eq_some_iff.mp answered
  cases same
  exact ⟨result, ran, made⟩

end SpellServer
