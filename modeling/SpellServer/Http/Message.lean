import SpellServer.Net.Cidr
import SpellServer.Store.Records

/-!
# Requests and error responses

What the gates read of a request, and the responses of `error.rs`.
-/

namespace SpellServer

/-! ## Headers -/

structure HeaderValue where
  bytes : List UInt8
  valid : ∀ byte ∈ bytes, byte = 9 ∨ (32 ≤ byte ∧ byte ≠ 127)
deriving DecidableEq, Repr

namespace HeaderValue

def isVisibleAscii (byte : UInt8) : Bool :=
  (decide (byte ≥ 32) && decide (byte < 127)) || byte = 9

def toStr (value : HeaderValue) : Option String :=
  if value.bytes.all isVisibleAscii then
    some (String.ofList (value.bytes.map fun byte => Char.ofNat byte.toNat))
  else none

/-- The value that holds a printable text. -/
def ofText (text : String)
    (printable : text.toList.all (fun char => 32 ≤ char.toNat && char.toNat < 127) = true) :
    HeaderValue :=
  { bytes := text.toList.map fun char => UInt8.ofNat char.toNat
    valid := by
      intro byte member
      obtain ⟨char, inText, rfl⟩ := List.mem_map.mp member
      have bounds := List.all_eq_true.mp printable char inText
      simp only [Bool.and_eq_true, decide_eq_true_eq] at bounds
      right
      rw [UInt8.le_iff_toNat_le, ne_eq, ← UInt8.toNat_inj, UInt8.toNat_ofNat']
      simp only [UInt8.toNat_ofNat]
      omega }

theorem toStr_ofText (text : String)
    (printable : text.toList.all (fun char => 32 ≤ char.toNat && char.toNat < 127) = true) :
    (ofText text printable).toStr = some text := by
  have bounds : ∀ char ∈ text.toList, 32 ≤ char.toNat ∧ char.toNat < 127 := by
    simpa using printable
  have visible : (ofText text printable).bytes.all isVisibleAscii = true := by
    simp only [ofText, List.all_map, List.all_eq_true, Function.comp_apply]
    intro char inText
    have between := bounds char inText
    simp only [isVisibleAscii, Bool.or_eq_true, Bool.and_eq_true, decide_eq_true_eq]
    left
    rw [ge_iff_le, UInt8.le_iff_toNat_le, UInt8.lt_iff_toNat_lt, UInt8.toNat_ofNat']
    simp only [UInt8.toNat_ofNat]
    omega
  have back : text.toList.map
      ((fun byte : UInt8 => Char.ofNat byte.toNat) ∘ fun char => UInt8.ofNat char.toNat) =
        text.toList := by
    conv => rhs; rw [← List.map_id text.toList]
    apply List.map_congr_left
    intro char inText
    have between := bounds char inText
    have small : char.toNat < 2 ^ 8 := by omega
    simp only [Function.comp_apply, UInt8.toNat_ofNat', id_eq]
    rw [Nat.mod_eq_of_lt small, Char.ofNat_toNat]
  simp only [toStr, visible, if_true]
  simp only [ofText, List.map_map, back, String.ofList_toList]

end HeaderValue

/-- Names in lower case, as `HeaderName` holds them; a name can occur more
than once. -/
abbrev HeaderMap := List (String × HeaderValue)

namespace HeaderMap

/-- `HeaderMap::get`: the first value of the name. -/
def get (headers : HeaderMap) (name : String) : Option HeaderValue :=
  (headers.find? fun header => header.1 = name).map Prod.snd

def containsKey (headers : HeaderMap) (name : String) : Bool :=
  headers.any fun header => header.1 = name

end HeaderMap

/-! ## Requests -/

inductive UsageScope where
  | platform
  | tenant (id : String)
deriving DecidableEq, Repr

/-- `connectInfo` is the address of the direct peer, absent where the server
runs without connection information. -/
structure Request where
  headers : HeaderMap
  connectInfo : Option IpAddr
  keyRecord : Option KeyRecord
  usageScope : Option UsageScope
deriving DecidableEq, Repr

/-- A request as it arrives: no gate has added an extension. -/
def Request.arriving (headers : HeaderMap) (connectInfo : Option IpAddr) : Request :=
  { headers, connectInfo, keyRecord := none, usageScope := none }

/-! ## Errors -/

/-- The payloads of `Validation` and `JsonRejection` never reach the response. -/
inductive AppError where
  | validation
  | jsonRejection
  | dictionaryDownload (reason : String)
  | dictionaryParse (reason : String)
  | internal (reason : String)
  | unauthorized
  | forbidden
  | rateLimited (retryAfterSecs : ℕ)
  | notFound
  | quotaExceeded
  | unsupportedLanguage (language : String)
  | invalidDateRange (reason : String)
deriving DecidableEq, Repr

structure ProblemDetails where
  type : String
  title : String
  status : ℕ
  detail : String
deriving DecidableEq, Repr

/-- `problemSlug` is the extension the usage recorder reads. -/
structure ProblemResponse where
  status : ℕ
  contentType : String
  retryAfter : Option String
  problemSlug : String
  body : ProblemDetails
deriving DecidableEq, Repr

namespace AppError

def statusCode : AppError → ℕ
  | .validation | .jsonRejection => 400
  | .dictionaryDownload _ | .dictionaryParse _ => 503
  | .internal _ => 500
  | .unauthorized => 401
  | .forbidden => 403
  | .rateLimited _ => 429
  | .notFound => 404
  | .quotaExceeded => 429
  | .unsupportedLanguage _ => 400
  | .invalidDateRange _ => 400

def problemSlug : AppError → String
  | .validation => "validation-error"
  | .jsonRejection => "invalid-json"
  | .dictionaryDownload _ => "dictionary-download-error"
  | .dictionaryParse _ => "dictionary-parse-error"
  | .internal _ => "internal-error"
  | .unauthorized => "unauthorized"
  | .forbidden => "forbidden"
  | .rateLimited _ => "rate-limited"
  | .notFound => "not-found"
  | .quotaExceeded => "quota-exceeded"
  | .unsupportedLanguage _ => "unsupported-language"
  | .invalidDateRange _ => "invalid-date-range"

def problemType (error : AppError) : String :=
  "https://github.com/btafoya/rustspell-server/blob/main/docs/errors/" ++ error.problemSlug ++ ".md"

def title : AppError → String
  | .validation => "Validation error"
  | .jsonRejection => "Invalid JSON"
  | .dictionaryDownload _ => "Dictionary download error"
  | .dictionaryParse _ => "Dictionary parse error"
  | .internal _ => "Internal server error"
  | .unauthorized => "Unauthorized"
  | .forbidden => "Forbidden"
  | .rateLimited _ => "Too many requests"
  | .notFound => "Not found"
  | .quotaExceeded => "Quota exceeded"
  | .unsupportedLanguage _ => "Unsupported language"
  | .invalidDateRange _ => "Invalid date range"

/-- The `Display` text. -/
def detail : AppError → String
  | .validation => "validation error"
  | .jsonRejection => "invalid request body"
  | .dictionaryDownload reason => "dictionary download failed: " ++ reason
  | .dictionaryParse reason => "dictionary parse failed: " ++ reason
  | .internal reason => "internal error: " ++ reason
  | .unauthorized => "missing or invalid API key"
  | .forbidden => "insufficient permissions for this key"
  | .rateLimited _ => "too many failed authentication attempts"
  | .notFound => "resource not found"
  | .quotaExceeded => "tenant request quota exceeded"
  | .unsupportedLanguage language => "unsupported language: " ++ language
  | .invalidDateRange reason => "invalid date range: " ++ reason

def intoResponse (error : AppError) : ProblemResponse :=
  { status := error.statusCode
    contentType := "application/problem+json"
    retryAfter :=
      match error with
      | .rateLimited retryAfterSecs => some (toString retryAfterSecs)
      | _ => none
    problemSlug := error.problemSlug
    body :=
      { type := error.problemType
        title := error.title
        status := error.statusCode
        detail := error.detail } }

@[simp] theorem intoResponse_status (error : AppError) :
    error.intoResponse.status = error.statusCode := rfl

end AppError

end SpellServer
