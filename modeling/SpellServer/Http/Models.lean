import SpellServer.Store.Records

/-!
# Request bodies and their validation

The bodies of the spell-check routes, of the tenant routes, of `POST /dictionaries`
and of `POST /tenant/origins`, as `models.rs` has them.  A body is valid when
`validate` lists no error; the schema function runs only where no field has one.
-/

namespace SpellServer

/-- `message` is absent where a built-in rule fails. -/
structure ValidationError where
  field : String
  code : String
  message : Option String
deriving DecidableEq, Repr

/-- `Either 'text' or 'words' …` and its like belong to the whole body. -/
def schemaError (code message : String) : ValidationError :=
  { field := "__all__", code, message := some message }

/-- `#[validate(length(min = 0, max = …))]` on an optional field. -/
def maxLength (field : String) (length : Option ℕ) (max : ℕ) : List ValidationError :=
  if length.any (fun given => max < given) then [{ field, code := "length", message := none }]
  else []

def isValidLanguageCode (language : String) : Bool :=
  !language.isEmpty && decide (language.utf8ByteSize ≤ 20) &&
    language.toList.all fun c => c.isAlphanum || c = '_' || c = '-'

/-! ## `POST /spellcheck` and `POST /spellcheck/positions` -/

structure SpellCheckRequest where
  text : Option String
  words : Option (List String)
  language : Option String
deriving DecidableEq, Repr

namespace SpellCheckRequest

def hasInputValidation (req : SpellCheckRequest) : List ValidationError :=
  if req.text.isNone && req.words.isNone then
    [schemaError "missing_input" "Either 'text' or 'words' must be provided"]
  else if req.language.any fun language => !isValidLanguageCode language then
    [schemaError "invalid_language"
      "language must be 1-20 characters of letters, digits, underscore, or hyphen"]
  else []

def validate (req : SpellCheckRequest) : List ValidationError :=
  match maxLength "text" (req.text.map String.length) 10000 ++
      maxLength "words" (req.words.map List.length) 1000 with
  | [] => req.hasInputValidation
  | errors => errors

end SpellCheckRequest

structure TokenResult where
  token : String
  valid : Bool
  suggestions : List String
deriving DecidableEq, Repr

structure PositionResult where
  token : String
  positions : List ℕ
  suggestions : List String
deriving DecidableEq, Repr

/-! ## `POST /tenants` and `PATCH /tenants/{id}` -/

/-- `#[validate(length(min = …, max = …))]`. -/
def lengthBetween (field : String) (length : Option ℕ) (min max : ℕ) : List ValidationError :=
  if length.any (fun given => given < min || max < given) then
    [{ field, code := "length", message := none }]
  else []

/-- The schema function of both bodies. -/
def validateLanguage (language : Option String) : List ValidationError :=
  if language.any fun language => !isValidLanguageCode language then
    [schemaError "invalid_language"
      "language must be 1-20 characters of letters, digits, underscore, or hyphen"]
  else []

structure CreateTenantRequest where
  name : String
  language : Option String
  quotaLimit : Option UInt64
  periodStart : Option UInt64
  periodEnd : Option UInt64
deriving DecidableEq, Repr

namespace CreateTenantRequest

def validateCreateTenantRequest (req : CreateTenantRequest) : List ValidationError :=
  validateLanguage req.language

def validate (req : CreateTenantRequest) : List ValidationError :=
  match lengthBetween "name" (some req.name.length) 1 200 with
  | [] => req.validateCreateTenantRequest
  | errors => errors

end CreateTenantRequest

/-- A period that is absent is left alone, and one that is `null` is cleared. -/
structure UpdateTenantRequest where
  name : Option String
  language : Option String
  quotaLimit : Option UInt64
  requestCount : Option UInt64
  periodStart : Option (Option UInt64)
  periodEnd : Option (Option UInt64)
deriving DecidableEq, Repr

namespace UpdateTenantRequest

def validateUpdateTenantRequest (req : UpdateTenantRequest) : List ValidationError :=
  validateLanguage req.language

def validate (req : UpdateTenantRequest) : List ValidationError :=
  match lengthBetween "name" (req.name.map String.length) 1 200 with
  | [] => req.validateUpdateTenantRequest
  | errors => errors

end UpdateTenantRequest

/-! ## `POST /dictionaries` -/

structure AddDictionaryRequest where
  code : String
  sourceUrl : String
deriving DecidableEq, Repr

/-- The parts of an `http::Uri` that are asked for. -/
structure Uri where
  scheme : Option String
  authority : Option String
deriving DecidableEq, Repr

/-- `parseUri` is the parser of the `http` crate. -/
def AddDictionaryRequest.validate (parseUri : String → Option Uri) (req : AddDictionaryRequest) :
    List ValidationError :=
  if !isValidLanguageCode req.code then
    [schemaError "invalid_code"
      "code must be 1-20 characters of letters, digits, underscore, or hyphen"]
  else if !(parseUri req.sourceUrl).any fun uri =>
      (uri.scheme = some "http" || uri.scheme = some "https") && uri.authority.isSome then
    [schemaError "invalid_source_url" "source_url must be a valid http(s) URL"]
  else []

structure DictionaryMetadata where
  code : String
  sourceUrl : String
  createdAt : UInt64
deriving DecidableEq, Repr

def DictionaryMetadata.ofInfo (info : DictionaryInfo) : DictionaryMetadata :=
  { code := info.code, sourceUrl := info.sourceUrl, createdAt := info.createdAt }

/-! ## `POST /tenant/origins` -/

structure RegisterOriginRequest where
  origin : String
deriving DecidableEq, Repr

/-- The path is asked for as well. -/
structure OriginUri extends Uri where
  path : String
deriving DecidableEq, Repr

namespace RegisterOriginRequest

def validateRegisterOriginRequest (parseUri : String → Option OriginUri)
    (req : RegisterOriginRequest) : List ValidationError :=
  if !(parseUri req.origin).any fun uri =>
      (uri.scheme = some "http" || uri.scheme = some "https") && uri.authority.isSome &&
        (uri.path = "" || uri.path = "/") then
    [schemaError "invalid_origin"
      "origin must be a valid http(s) origin with no path, e.g. https://app.example.com"]
  else []

def validate (parseUri : String → Option OriginUri) (req : RegisterOriginRequest) :
    List ValidationError :=
  req.validateRegisterOriginRequest parseUri

end RegisterOriginRequest

structure OriginMetadata where
  id : String
  origin : String
  createdAt : UInt64
deriving DecidableEq, Repr

def OriginMetadata.ofInfo (info : OriginInfo) : OriginMetadata :=
  { id := info.id, origin := info.origin, createdAt := info.createdAt }

end SpellServer
