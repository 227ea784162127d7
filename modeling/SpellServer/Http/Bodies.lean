import SpellServer.Http.Models
import SpellServer.Library.Json

/-!
# Bodies as JSON

The `Deserialize` and `Serialize` implementations derived in `models.rs`, for the
routes that manage keys, tenants and origins.  An extra key of a body is ignored.
-/

namespace SpellServer

open Library

/-! ## Requests -/

def Role.name : Role → String
  | .platform => "platform"
  | .admin => "admin"
  | .standard => "standard"

def Role.ofName : String → Option Role
  | "platform" => some .platform
  | "admin" => some .admin
  | "standard" => some .standard
  | _ => none

def Role.ofJson (json : Json) : Option Role := json.unitVariant.bind Role.ofName

/-- The body of `POST /api-keys`. -/
structure CreateApiKeyRequest where
  label : String
  role : Role
  expiresAt : Option UInt64
deriving DecidableEq, Repr

namespace CreateApiKeyRequest

def ofJson (json : Json) : Option CreateApiKeyRequest := do
  let field ← json.fields ["label", "role", "expires_at"]
  let label ← (field "label").required Json.text
  let role ← (field "role").required Role.ofJson
  let expiresAt ← (field "expires_at").optional Json.u64
  some { label, role, expiresAt }

def validateCreateApiKeyRequest (req : CreateApiKeyRequest) : List ValidationError :=
  if req.role = .platform then
    [schemaError "invalid_role" "role must be 'admin' or 'standard'"]
  else []

/-- That `expires_at` lies in the future is not checked. -/
def validate (req : CreateApiKeyRequest) : List ValidationError :=
  match lengthBetween "label" (some req.label.length) 1 100 with
  | [] => req.validateCreateApiKeyRequest
  | errors => errors

end CreateApiKeyRequest

def CreateTenantRequest.ofJson (json : Json) : Option CreateTenantRequest := do
  let field ← json.fields ["name", "language", "quota_limit", "period_start", "period_end"]
  let name ← (field "name").required Json.text
  let language ← (field "language").optional Json.text
  let quotaLimit ← (field "quota_limit").optional Json.u64
  let periodStart ← (field "period_start").optional Json.u64
  let periodEnd ← (field "period_end").optional Json.u64
  some { name, language, quotaLimit, periodStart, periodEnd }

/-- A present value goes through the null handling of the inner type. -/
def deserializePresentAsSome {α : Type} (read : Json → Option α) (json : Json) :
    Option (Option α) :=
  (read json).map some

def UpdateTenantRequest.ofJson (json : Json) : Option UpdateTenantRequest := do
  let field ← json.fields
    ["name", "language", "quota_limit", "request_count", "period_start", "period_end"]
  let name ← (field "name").optional Json.text
  let language ← (field "language").optional Json.text
  let quotaLimit ← (field "quota_limit").optional Json.u64
  let requestCount ← (field "request_count").optional Json.u64
  let periodStart ←
    (field "period_start").withDefault none (deserializePresentAsSome (Json.nullable Json.u64))
  let periodEnd ←
    (field "period_end").withDefault none (deserializePresentAsSome (Json.nullable Json.u64))
  some { name, language, quotaLimit, requestCount, periodStart, periodEnd }

def RegisterOriginRequest.ofJson (json : Json) : Option RegisterOriginRequest := do
  let field ← json.fields ["origin"]
  let origin ← (field "origin").required Json.text
  some { origin }

/-! ## Responses -/

structure ApiKeyMetadata where
  id : String
  label : String
  role : Role
  createdAt : UInt64
  expiresAt : Option UInt64
  lastUsedAt : Option UInt64
  revokedAt : Option UInt64
deriving DecidableEq, Repr

namespace ApiKeyMetadata

def ofRecord (record : KeyRecord) : ApiKeyMetadata :=
  { id := record.id
    label := record.label
    role := record.role
    createdAt := record.createdAt
    expiresAt := record.expiresAt
    lastUsedAt := record.lastUsedAt
    revokedAt := record.revokedAt }

/-- The entries of its object, which the responses with a raw key flatten. -/
def entries (metadata : ApiKeyMetadata) : List (String × Json) :=
  [("id", .string metadata.id), ("label", .string metadata.label),
    ("role", .string metadata.role.name), ("created_at", .unsigned metadata.createdAt),
    ("expires_at", .ofNullable metadata.expiresAt),
    ("last_used_at", .ofNullable metadata.lastUsedAt),
    ("revoked_at", .ofNullable metadata.revokedAt)]

def toJson (metadata : ApiKeyMetadata) : Json := .object metadata.entries

end ApiKeyMetadata

structure CreatedApiKeyResponse where
  metadata : ApiKeyMetadata
  key : String
deriving DecidableEq, Repr

namespace CreatedApiKeyResponse

def ofCreated (created : CreatedApiKey) : CreatedApiKeyResponse :=
  { metadata := .ofRecord created.record, key := created.rawKey }

def toJson (response : CreatedApiKeyResponse) : Json :=
  .object (response.metadata.entries ++ [("key", .string response.key)])

end CreatedApiKeyResponse

structure TenantMetadata where
  id : String
  name : String
  language : String
  quotaLimit : UInt64
  requestCount : UInt64
  periodStart : Option UInt64
  periodEnd : Option UInt64
  suspendedAt : Option UInt64
  createdAt : UInt64
deriving DecidableEq, Repr

namespace TenantMetadata

def ofInfo (info : TenantInfo) : TenantMetadata :=
  { id := info.id
    name := info.name
    language := info.language
    quotaLimit := info.quotaLimit
    requestCount := info.requestCount
    periodStart := info.periodStart
    periodEnd := info.periodEnd
    suspendedAt := info.suspendedAt
    createdAt := info.createdAt }

def entries (metadata : TenantMetadata) : List (String × Json) :=
  [("id", .string metadata.id), ("name", .string metadata.name),
    ("language", .string metadata.language), ("quota_limit", .unsigned metadata.quotaLimit),
    ("request_count", .unsigned metadata.requestCount),
    ("period_start", .ofNullable metadata.periodStart),
    ("period_end", .ofNullable metadata.periodEnd),
    ("suspended_at", .ofNullable metadata.suspendedAt),
    ("created_at", .unsigned metadata.createdAt)]

def toJson (metadata : TenantMetadata) : Json := .object metadata.entries

end TenantMetadata

/-- The body of `POST /tenants`: the tenant, flattened, and its first admin key. -/
structure CreatedTenant where
  tenant : TenantMetadata
  adminKey : CreatedApiKeyResponse
deriving DecidableEq, Repr

def CreatedTenant.toJson (response : CreatedTenant) : Json :=
  .object (response.tenant.entries ++ [("admin_key", response.adminKey.toJson)])

def OriginMetadata.toJson (metadata : OriginMetadata) : Json :=
  .object
    [("id", .string metadata.id), ("origin", .string metadata.origin),
      ("created_at", .unsigned metadata.createdAt)]

/-- `ApiKeyListResponse`, `TenantListResponse` and `OriginListResponse`. -/
def listResponse (name : String) (items : List Json) : Json := .object [(name, .array items)]

end SpellServer
