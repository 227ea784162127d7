import SpellServer.Http.Gates
import SpellServer.Library.Fields
import SpellServer.Library.Paths
import SpellServer.Library.Results
import SpellServer.Net.Membership
import SpellServer.Spell.Tokenize

/-!
# The configuration

`load` of `config.rs` reads fourteen variables of the environment.  It accepts an
environment only as a whole, and then says what the environment says.  An error
names variables that have to be changed.
-/

namespace SpellServer

open Library

/-! ## The environment -/

inductive OsString where
  | unicode (text : String)
  | other (bytes : List UInt8)
deriving DecidableEq, Repr

/-- The variables of the process that are set. -/
abbrev Environment := String → Option OsString

/-- `VarError`. -/
inductive VarError where
  | notPresent
  | notUnicode (bytes : List UInt8)
deriving DecidableEq, Repr

/-- `std::env::var`. -/
def Environment.var (env : Environment) (name : String) : Except VarError String :=
  match env name with
  | none => .error .notPresent
  | some (.unicode text) => .ok text
  | some (.other bytes) => .error (.notUnicode bytes)

/-! ## Numbers -/

inductive IntErrorKind where
  | empty
  | invalidDigit
  | posOverflow
deriving DecidableEq, Repr

def IntErrorKind.message : IntErrorKind → String
  | .empty => "cannot parse integer from empty string"
  | .invalidDigit => "invalid digit found in string"
  | .posOverflow => "number too large to fit in target type"

/-- The digits after those that make up the value. -/
def readDigits (bound : ℕ) : ℕ → List Char → Except IntErrorKind ℕ
  | value, [] => .ok value
  | value, char :: rest =>
      match toDigit 10 char with
      | none => .error .invalidDigit
      | some digit =>
          if value * 10 + digit < bound then readDigits bound (value * 10 + digit) rest
          else .error .posOverflow

/-- `from_str` of an unsigned integer type with so many values. -/
def parseUnsigned (bound : ℕ) (text : List Char) : Except IntErrorKind ℕ :=
  match text with
  | [] => .error .empty
  | ['+'] | ['-'] => .error .invalidDigit
  | '+' :: rest => readDigits bound 0 rest
  | _ => readDigits bound 0 text

def parseU16 (text : String) : Except IntErrorKind UInt16 :=
  (parseUnsigned (2 ^ 16) text.toList).map UInt16.ofNat

def parseU32 (text : String) : Except IntErrorKind UInt32 :=
  (parseUnsigned (2 ^ 32) text.toList).map UInt32.ofNat

def parseU64 (text : String) : Except IntErrorKind UInt64 :=
  (parseUnsigned (2 ^ 64) text.toList).map UInt64.ofNat

/-! ## Errors -/

inductive ConfigError where
  | unreadable (name : String) (bytes : List UInt8)
  | invalidNumber (name : String) (kind : IntErrorKind)
  | invalidCidr (name : String) (error : CidrError)
  | samePorts (port : UInt16)
  | notPostgres
deriving DecidableEq, Repr

section

/-! How a text and the bytes of a value are shown is left open. -/

variable (debug : String → String) (debugBytes : List UInt8 → String)

def CidrError.message : CidrError → String
  | .invalidAddress spec => "invalid IP address in CIDR " ++ debug spec
  | .invalidPrefix spec => "invalid prefix length in CIDR " ++ debug spec
  | .prefixTooLong prefixLength maxPrefix spec =>
      "prefix /" ++ toString prefixLength ++ " exceeds /" ++ toString maxPrefix ++ " in CIDR " ++
        debug spec

def ConfigError.message : ConfigError → String
  | .unreadable name bytes =>
      "failed to read " ++ name ++ ": environment variable was not valid unicode: " ++
        debugBytes bytes
  | .invalidNumber name kind => "invalid " ++ name ++ ": " ++ kind.message
  | .invalidCidr name error => "invalid " ++ name ++ ": " ++ error.message debug
  | .samePorts port =>
      "RUSTSPELL_PORT (" ++ toString port ++ ") and RUSTSPELL_METRICS_PORT (" ++ toString port ++
        ") must be different"
  | .notPostgres => "RUSTSPELL_DB_URL must be a postgres:// connection string"

end

/-- The variables that the message names. -/
def ConfigError.names : ConfigError → List String
  | .unreadable name _ | .invalidNumber name _ | .invalidCidr name _ => [name]
  | .samePorts _ => ["RUSTSPELL_PORT", "RUSTSPELL_METRICS_PORT"]
  | .notPostgres => ["RUSTSPELL_DB_URL"]

/-! ## Loading -/

section

variable {α : Type}

def parseEnvOr (parse : String → Except IntErrorKind α) (env : Environment) (name : String)
    (default : α) : Except ConfigError α :=
  match env.var name with
  | .ok value => (parse value).mapError (.invalidNumber name)
  | .error .notPresent => .ok default
  | .error (.notUnicode bytes) => .error (.unreadable name bytes)

end

def parseCidrList (env : Environment) (name : String) : Except ConfigError (List Cidr) :=
  match env.var name with
  | .ok value =>
      (Fields.fields isWhiteSpace ',' value.toList).mapM fun entry =>
        (Cidr.parse (.ofList entry)).mapError (.invalidCidr name)
  | .error .notPresent => .ok []
  | .error (.notUnicode bytes) => .error (.unreadable name bytes)

/-- An unreadable value counts as none. -/
def Environment.varOr (env : Environment) (name default : String) : String :=
  match env.var name with
  | .ok value => value
  | .error _ => default

/-- `PathBuf::join`. -/
def OsString.join (path : OsString) (name : String) : OsString :=
  match path with
  | .unicode text => .unicode (joinPath text name)
  | .other bytes =>
      if bytes.getLast? = some 47 then .other (bytes ++ name.toUTF8.toList)
      else .other (bytes ++ 47 :: name.toUTF8.toList)

/-- `dataDir` is the data directory of the `directories` crate, if it finds a home. -/
def defaultDictionaryDir (dataDir : Option OsString) : OsString :=
  dataDir.getD (.unicode "./data")

def defaultDbPath (dataDir : Option OsString) : OsString :=
  match dataDir with
  | some path => path.join "rustspell.db"
  | none => .unicode "./data/rustspell.db"

/-- `Config`, with the fields that no gate reads. -/
structure LoadedConfig extends Config where
  port : UInt16
  metricsPort : UInt16
  logLevel : String
  language : String
  dictionaryUrl : String
  dictionaryDir : OsString
  refreshIntervalHours : UInt64
  dbPath : OsString
  dbUrl : Option String
  authRateLimitMax : UInt32
  authRateLimitWindowSeconds : UInt64
  authRateLimitCooldownSeconds : UInt64

def isPostgresUrl (url : String) : Bool :=
  "postgres://".toList.isPrefixOf url.toList || "postgresql://".toList.isPrefixOf url.toList

def loadPorts (env : Environment) : Except ConfigError (UInt16 × UInt16) := do
  let port ← parseEnvOr parseU16 env "RUSTSPELL_PORT" 3000
  let metricsPort ← parseEnvOr parseU16 env "RUSTSPELL_METRICS_PORT" 9090
  if port = metricsPort then .error (.samePorts port) else .ok (port, metricsPort)

/-- An empty or unreadable URL counts as none. -/
def loadDbUrl (env : Environment) : Except ConfigError (Option String) :=
  match env.var "RUSTSPELL_DB_URL" with
  | .ok url =>
      if url = "" then .ok none
      else if isPostgresUrl url then .ok (some url)
      else .error .notPostgres
  | .error _ => .ok none

def load (dataDir : Option OsString) (env : Environment) : Except ConfigError LoadedConfig := do
  let (port, metricsPort) ← loadPorts env
  let dictionaryDir := (env "RUSTSPELL_DICTIONARY_DIR").getD (defaultDictionaryDir dataDir)
  let dbPath := (env "RUSTSPELL_DB_PATH").getD (defaultDbPath dataDir)
  let dbUrl ← loadDbUrl env
  let logLevel := env.varOr "RUSTSPELL_LOG_LEVEL" "info"
  let language := env.varOr "RUSTSPELL_LANGUAGE" "en_US"
  let dictionaryUrl := env.varOr "RUSTSPELL_DICTIONARY_URL"
    "https://raw.githubusercontent.com/LibreOffice/dictionaries/master/en"
  let refreshIntervalHours ← parseEnvOr parseU64 env "RUSTSPELL_REFRESH_INTERVAL_HOURS" 24
  let authRateLimitMax ← parseEnvOr parseU32 env "RUSTSPELL_AUTH_RATE_LIMIT_MAX" 10
  let authRateLimitWindowSeconds ←
    parseEnvOr parseU64 env "RUSTSPELL_AUTH_RATE_LIMIT_WINDOW_SECONDS" 60
  let authRateLimitCooldownSeconds ←
    parseEnvOr parseU64 env "RUSTSPELL_AUTH_RATE_LIMIT_COOLDOWN_SECONDS" 60
  let dictionaryAdminCidrs ← parseCidrList env "RUSTSPELL_DICTIONARY_ADMIN_CIDRS"
  let trustedProxies ← parseCidrList env "RUSTSPELL_TRUSTED_PROXIES"
  return {
    dictionaryAdminCidrs, trustedProxies, port, metricsPort, logLevel, language, dictionaryUrl
    dictionaryDir, refreshIntervalHours, dbPath, dbUrl, authRateLimitMax
    authRateLimitWindowSeconds, authRateLimitCooldownSeconds }

/-! ## Numbers that are accepted -/

theorem toDigit_isSome_iff (char : Char) : (toDigit 10 char).isSome = true ↔ char.isDigit = true := by
  unfold toDigit
  cases digit : char.isDigit with
  | true =>
      have bounds : 48 ≤ char.toNat ∧ char.toNat ≤ 57 := by
        have ranges : 48 ≤ char.val ∧ char.val ≤ 57 := by simpa [Char.isDigit] using digit
        exact ranges
      have zero : '0'.toNat = 48 := rfl
      have small : char.toNat - '0'.toNat < 10 := by omega
      simp only [if_true, small, Option.isSome_some]
  | false =>
      by_cases lower : char.isLower = true
      · simp [lower]
      · by_cases upper : char.isUpper = true <;> simp [lower, upper]

/-- Digits are read as long as the value fits; it only grows. -/
theorem readDigits_eq_ok_iff {bound value number : ℕ} (fits : value < bound) (text : List Char) :
    readDigits bound value text = .ok number ↔
      text.all Char.isDigit = true ∧ number < bound ∧
        text.foldl (fun value char => value * 10 + (toDigit 10 char).getD 0) value = number := by
  induction text generalizing value with
  | nil =>
      simp only [readDigits, List.all_nil, List.foldl_nil, Except.ok.injEq, true_and]
      constructor
      · intro same
        exact ⟨same ▸ fits, same⟩
      · intro same
        exact same.2
  | cons char rest induction =>
      have grows : ∀ (text : List Char) (value : ℕ),
          value ≤ text.foldl (fun value char => value * 10 + (toDigit 10 char).getD 0) value := by
        intro text
        induction text with
        | nil => exact fun value => le_refl value
        | cons char rest induction =>
            intro value
            exact le_trans (by omega) (induction (value * 10 + (toDigit 10 char).getD 0))
      rw [readDigits, List.all_cons, List.foldl_cons, Bool.and_eq_true, ← toDigit_isSome_iff]
      cases read : toDigit 10 char with
      | none => simp
      | some digit =>
          simp only [Option.isSome_some, true_and, Option.getD_some]
          by_cases small : value * 10 + digit < bound
          · rw [if_pos small]
            exact induction small
          · rw [if_neg small]
            constructor
            · intro never
              cases never
            · intro accepted
              have least := grows rest (value * 10 + digit)
              omega

theorem withoutPlus_unsigned {text : List Char} (unsigned : ∀ rest, text ≠ '+' :: rest) :
    withoutPlus text = text := by
  unfold withoutPlus
  split
  · exact absurd rfl (unsigned _)
  · rfl

theorem parseUnsigned_eq_ok_iff_body {bound number : ℕ} (text : List Char) :
    parseUnsigned bound text = .ok number ↔
      withoutPlus text ≠ [] ∧ readDigits bound 0 (withoutPlus text) = .ok number := by
  unfold parseUnsigned
  split
  · simp [withoutPlus]
  · simp [withoutPlus]
  · simp [withoutPlus, readDigits, toDigit]
  · rename_i rest notAlone
    have some_left : rest ≠ [] := fun empty => notAlone (by rw [empty])
    simp [withoutPlus, some_left]
  · rename_i notEmpty _ _ notPlus
    rw [withoutPlus_unsigned notPlus]
    exact ⟨fun read => ⟨notEmpty, read⟩, And.right⟩

theorem decimalText_iff {text : List Char} {number : ℕ} :
    DecimalText text number ↔ withoutPlus text ≠ [] ∧
      (withoutPlus text).all Char.isDigit = true ∧ digitsValue 10 (withoutPlus text) = number := by
  constructor
  · intro written
    obtain ⟨digits, form, nonempty, all, value⟩ := written
    have stripped : withoutPlus text = digits := by
      rcases form with rfl | rfl
      · exact withoutPlus_digits all
      · rfl
    rw [stripped]
    exact ⟨nonempty, all, value⟩
  · intro read
    refine ⟨withoutPlus text, ?_, read⟩
    unfold withoutPlus
    split
    · exact Or.inr rfl
    · exact Or.inl rfl

theorem parseUnsigned_eq_ok_iff {bound number : ℕ} (positive : 0 < bound) (text : List Char) :
    parseUnsigned bound text = .ok number ↔ DecimalText text number ∧ number < bound := by
  rw [parseUnsigned_eq_ok_iff_body, decimalText_iff, readDigits_eq_ok_iff positive, digitsValue]
  tauto

/-- The values of a type are the numbers below the bound. -/
theorem parseUnsigned_map_eq_ok_iff {α : Type} {bound : ℕ} {ofNat : ℕ → α} {toNat : α → ℕ}
    (small : ∀ value, toNat value < bound) (reads : ∀ number < bound, toNat (ofNat number) = number)
    (writes : ∀ value, ofNat (toNat value) = value) {text : List Char} {value : α} :
    (parseUnsigned bound text).map ofNat = .ok value ↔ DecimalText text (toNat value) := by
  have positive : 0 < bound := Nat.zero_lt_of_lt (small value)
  rw [Results.map_eq_ok_iff]
  constructor
  · intro parsed
    obtain ⟨number, read, rfl⟩ := parsed
    obtain ⟨written, fits⟩ := (parseUnsigned_eq_ok_iff positive text).mp read
    rw [reads number fits]
    exact written
  · intro written
    refine ⟨toNat value, ?_, writes value⟩
    exact (parseUnsigned_eq_ok_iff positive text).mpr ⟨written, small value⟩

theorem parseU16_eq_ok_iff {text : String} {value : UInt16} :
    parseU16 text = .ok value ↔ DecimalText text.toList value.toNat :=
  parseUnsigned_map_eq_ok_iff UInt16.toNat_lt
    (fun _ fits => UInt16.toNat_ofNat_of_lt' fits) fun _ => UInt16.ofNat_toNat

theorem parseU32_eq_ok_iff {text : String} {value : UInt32} :
    parseU32 text = .ok value ↔ DecimalText text.toList value.toNat :=
  parseUnsigned_map_eq_ok_iff UInt32.toNat_lt
    (fun _ fits => UInt32.toNat_ofNat_of_lt' fits) fun _ => UInt32.ofNat_toNat

theorem parseU64_eq_ok_iff {text : String} {value : UInt64} :
    parseU64 text = .ok value ↔ DecimalText text.toList value.toNat :=
  parseUnsigned_map_eq_ok_iff UInt64.toNat_lt
    (fun _ fits => UInt64.toNat_ofNat_of_lt' fits) fun _ => UInt64.ofNat_toNat

/-! ## What an environment says -/

/-- The value a variable gives, which is the default if it is not set. -/
def Environment.Gives {α : Type} (env : Environment) (name : String) (default : α)
    (means : String → α → Prop) (value : α) : Prop :=
  match env name with
  | none => value = default
  | some (.unicode text) => means text value
  | some (.other _) => False

/-- The fields of the text are these networks, in this order. -/
def NetworksText (text : String) (cidrs : List Cidr) : Prop :=
  List.Forall₂ (fun field cidr => Cidr.parse (.ofList field) = .ok cidr)
    (Fields.fields isWhiteSpace ',' text.toList) cidrs

/-- The configuration holds what the environment says. -/
structure Faithful (dataDir : Option OsString) (env : Environment) (config : LoadedConfig) :
    Prop where
  port : env.Gives "RUSTSPELL_PORT" 3000
    (fun text port => DecimalText text.toList port.toNat) config.port
  metricsPort : env.Gives "RUSTSPELL_METRICS_PORT" 9090
    (fun text port => DecimalText text.toList port.toNat) config.metricsPort
  portsDiffer : config.port ≠ config.metricsPort
  refreshInterval : env.Gives "RUSTSPELL_REFRESH_INTERVAL_HOURS" 24
    (fun text hours => DecimalText text.toList hours.toNat) config.refreshIntervalHours
  rateLimitMax : env.Gives "RUSTSPELL_AUTH_RATE_LIMIT_MAX" 10
    (fun text max => DecimalText text.toList max.toNat) config.authRateLimitMax
  rateLimitWindow : env.Gives "RUSTSPELL_AUTH_RATE_LIMIT_WINDOW_SECONDS" 60
    (fun text seconds => DecimalText text.toList seconds.toNat) config.authRateLimitWindowSeconds
  rateLimitCooldown : env.Gives "RUSTSPELL_AUTH_RATE_LIMIT_COOLDOWN_SECONDS" 60
    (fun text seconds => DecimalText text.toList seconds.toNat)
    config.authRateLimitCooldownSeconds
  dictionaryAdmins : env.Gives "RUSTSPELL_DICTIONARY_ADMIN_CIDRS" [] NetworksText
    config.dictionaryAdminCidrs
  trustedProxies : env.Gives "RUSTSPELL_TRUSTED_PROXIES" [] NetworksText config.trustedProxies
  /-- An unreadable URL is not noticed. -/
  dbUrl : ∀ url, config.dbUrl = some url ↔
    env "RUSTSPELL_DB_URL" = some (.unicode url) ∧ url ≠ ""
  dbUrlPostgres : ∀ url, config.dbUrl = some url → isPostgresUrl url = true
  logLevel : config.logLevel = env.varOr "RUSTSPELL_LOG_LEVEL" "info"
  language : config.language = env.varOr "RUSTSPELL_LANGUAGE" "en_US"
  dictionaryUrl : config.dictionaryUrl = env.varOr "RUSTSPELL_DICTIONARY_URL"
    "https://raw.githubusercontent.com/LibreOffice/dictionaries/master/en"
  dictionaryDir : config.dictionaryDir =
    (env "RUSTSPELL_DICTIONARY_DIR").getD (defaultDictionaryDir dataDir)
  dbPath : config.dbPath = (env "RUSTSPELL_DB_PATH").getD (defaultDbPath dataDir)

section

variable {dataDir : Option OsString} {env : Environment}

theorem parseEnvOr_eq_ok_iff {α : Type} {parse : String → Except IntErrorKind α}
    {means : String → α → Prop} (parses : ∀ {text value}, parse text = .ok value ↔ means text value)
    {name : String} {default value : α} :
    parseEnvOr parse env name default = .ok value ↔ env.Gives name default means value := by
  unfold parseEnvOr Environment.var Environment.Gives
  cases env name with
  | none => simp [eq_comm]
  | some given =>
      cases given with
      | unicode text => exact Results.mapError_eq_ok_iff.trans parses
      | other bytes => simp

theorem parseCidrList_eq_ok_iff {name : String} {cidrs : List Cidr} :
    parseCidrList env name = .ok cidrs ↔ env.Gives name [] NetworksText cidrs := by
  unfold parseCidrList Environment.var Environment.Gives
  cases env name with
  | none => simp [eq_comm]
  | some given =>
      cases given with
      | unicode text =>
          refine Results.mapM_eq_ok_iff.trans ?_
          simp only [Results.mapError_eq_ok_iff]
          exact Iff.rfl
      | other bytes => simp

theorem loadPorts_eq_ok_iff {port metricsPort : UInt16} :
    loadPorts env = .ok (port, metricsPort) ↔
      parseEnvOr parseU16 env "RUSTSPELL_PORT" 3000 = .ok port ∧
        parseEnvOr parseU16 env "RUSTSPELL_METRICS_PORT" 9090 = .ok metricsPort ∧
        port ≠ metricsPort := by
  simp only [loadPorts, Results.bind_eq_ok_iff]
  constructor
  · intro loaded
    obtain ⟨first, here, second, there, result⟩ := loaded
    split at result
    · cases result
    · rename_i differ
      cases result
      exact ⟨here, there, differ⟩
  · intro loaded
    obtain ⟨here, there, differ⟩ := loaded
    exact ⟨port, here, metricsPort, there, if_neg differ⟩

theorem loadDbUrl_eq_ok_iff {dbUrl : Option String} :
    loadDbUrl env = .ok dbUrl ↔
      (∀ url, dbUrl = some url ↔ env "RUSTSPELL_DB_URL" = some (.unicode url) ∧ url ≠ "") ∧
        ∀ url, dbUrl = some url → isPostgresUrl url = true := by
  by_cases set : ∃ url, env "RUSTSPELL_DB_URL" = some (.unicode url) ∧ url ≠ ""
  · obtain ⟨url, given, nonempty⟩ := set
    have loads : loadDbUrl env =
        if isPostgresUrl url then .ok (some url) else .error .notPostgres := by
      simp only [loadDbUrl, Environment.var, given, nonempty, if_false]
    rw [loads, given]
    constructor
    · intro loaded
      split at loaded
      · rename_i postgres
        cases loaded
        refine ⟨fun other => ?_, fun other same => ?_⟩
        · constructor
          · intro same
            cases same
            exact ⟨rfl, nonempty⟩
          · intro same
            cases same.1
            rfl
        · cases same
          exact postgres
      · cases loaded
    · intro holds
      have same : dbUrl = some url := (holds.1 url).mpr ⟨rfl, nonempty⟩
      rw [if_pos (holds.2 url same), same]
  · have loads : loadDbUrl env = .ok none := by
      unfold loadDbUrl Environment.var
      split
      · rename_i url given
        split at given
        · cases given
        · rename_i text here
          cases given
          have empty : url = "" := by
            by_contra nonempty
            exact set ⟨url, here, nonempty⟩
          rw [if_pos empty]
        · cases given
      · rfl
    rw [loads]
    constructor
    · intro loaded
      cases loaded
      refine ⟨fun url => ?_, fun url same => by cases same⟩
      constructor
      · intro same
        cases same
      · intro given
        exact absurd ⟨url, given⟩ set
    · intro holds
      cases dbUrl with
      | none => rfl
      | some url => exact absurd ⟨url, (holds.1 url).mp rfl⟩ set

theorem load_eq_ok_iff {config : LoadedConfig} :
    load dataDir env = .ok config ↔ Faithful dataDir env config := by
  simp only [load, Results.bind_eq_ok_iff]
  constructor
  · intro loaded
    obtain ⟨⟨port, metricsPort⟩, ports, dbUrl, url, refresh, hours, limit, max, window, seconds,
      cooldown, wait, admins, networks, proxies, trusted, result⟩ := loaded
    obtain ⟨port, metricsPort, differ⟩ := loadPorts_eq_ok_iff.mp ports
    obtain ⟨given, postgres⟩ := loadDbUrl_eq_ok_iff.mp url
    cases result
    exact
      { port := (parseEnvOr_eq_ok_iff parseU16_eq_ok_iff).mp port
        metricsPort := (parseEnvOr_eq_ok_iff parseU16_eq_ok_iff).mp metricsPort
        portsDiffer := differ
        refreshInterval := (parseEnvOr_eq_ok_iff parseU64_eq_ok_iff).mp hours
        rateLimitMax := (parseEnvOr_eq_ok_iff parseU32_eq_ok_iff).mp max
        rateLimitWindow := (parseEnvOr_eq_ok_iff parseU64_eq_ok_iff).mp seconds
        rateLimitCooldown := (parseEnvOr_eq_ok_iff parseU64_eq_ok_iff).mp wait
        dictionaryAdmins := parseCidrList_eq_ok_iff.mp networks
        trustedProxies := parseCidrList_eq_ok_iff.mp trusted
        dbUrl := given
        dbUrlPostgres := postgres
        logLevel := rfl
        language := rfl
        dictionaryUrl := rfl
        dictionaryDir := rfl
        dbPath := rfl }
  · intro faithful
    have ports := loadPorts_eq_ok_iff.mpr
      ⟨(parseEnvOr_eq_ok_iff parseU16_eq_ok_iff).mpr faithful.port,
        (parseEnvOr_eq_ok_iff parseU16_eq_ok_iff).mpr faithful.metricsPort, faithful.portsDiffer⟩
    refine ⟨_, ports, _, loadDbUrl_eq_ok_iff.mpr ⟨faithful.dbUrl, faithful.dbUrlPostgres⟩,
      _, (parseEnvOr_eq_ok_iff parseU64_eq_ok_iff).mpr faithful.refreshInterval,
      _, (parseEnvOr_eq_ok_iff parseU32_eq_ok_iff).mpr faithful.rateLimitMax,
      _, (parseEnvOr_eq_ok_iff parseU64_eq_ok_iff).mpr faithful.rateLimitWindow,
      _, (parseEnvOr_eq_ok_iff parseU64_eq_ok_iff).mpr faithful.rateLimitCooldown,
      _, parseCidrList_eq_ok_iff.mpr faithful.dictionaryAdmins,
      _, parseCidrList_eq_ok_iff.mpr faithful.trustedProxies, ?_⟩
    rw [← faithful.logLevel, ← faithful.language, ← faithful.dictionaryUrl, ← faithful.dictionaryDir,
      ← faithful.dbPath]
    rfl

/-! ## Who is to blame -/

/-- What `load` checks, in this order. -/
inductive ConfigPart where
  | ports
  | dbUrl
  | refreshInterval
  | rateLimitMax
  | rateLimitWindow
  | rateLimitCooldown
  | dictionaryAdmins
  | trustedProxies

def ConfigPart.Fails (part : ConfigPart) (env : Environment) (error : ConfigError) : Prop :=
  match part with
  | .ports => loadPorts env = .error error
  | .dbUrl => loadDbUrl env = .error error
  | .refreshInterval =>
      parseEnvOr parseU64 env "RUSTSPELL_REFRESH_INTERVAL_HOURS" 24 = .error error
  | .rateLimitMax => parseEnvOr parseU32 env "RUSTSPELL_AUTH_RATE_LIMIT_MAX" 10 = .error error
  | .rateLimitWindow =>
      parseEnvOr parseU64 env "RUSTSPELL_AUTH_RATE_LIMIT_WINDOW_SECONDS" 60 = .error error
  | .rateLimitCooldown =>
      parseEnvOr parseU64 env "RUSTSPELL_AUTH_RATE_LIMIT_COOLDOWN_SECONDS" 60 = .error error
  | .dictionaryAdmins => parseCidrList env "RUSTSPELL_DICTIONARY_ADMIN_CIDRS" = .error error
  | .trustedProxies => parseCidrList env "RUSTSPELL_TRUSTED_PROXIES" = .error error

variable {other : Environment} {config : LoadedConfig} {error : ConfigError}

/-- An error is that of a part. -/
theorem load_fails (failed : load dataDir env = .error error) :
    ∃ part : ConfigPart, part.Fails env error := by
  simp only [load, Results.bind_eq_error_iff] at failed
  rcases failed with ports | ⟨_, _, url | ⟨_, _, hours | ⟨_, _, max | ⟨_, _, window | ⟨_, _,
    cooldown | ⟨_, _, admins | ⟨_, _, proxies | ⟨_, _, result⟩⟩⟩⟩⟩⟩⟩⟩
  · exact ⟨.ports, ports⟩
  · exact ⟨.dbUrl, url⟩
  · exact ⟨.refreshInterval, hours⟩
  · exact ⟨.rateLimitMax, max⟩
  · exact ⟨.rateLimitWindow, window⟩
  · exact ⟨.rateLimitCooldown, cooldown⟩
  · exact ⟨.dictionaryAdmins, admins⟩
  · exact ⟨.trustedProxies, proxies⟩
  · cases result

/-- No part of an accepted environment fails. -/
theorem ConfigPart.not_fails_of_load (loaded : load dataDir env = .ok config)
    (part : ConfigPart) : ¬part.Fails env error := by
  simp only [load, Results.bind_eq_ok_iff] at loaded
  obtain ⟨_, ports, _, url, _, hours, _, max, _, window, _, cooldown, _, admins, _, proxies, _⟩ :=
    loaded
  intro fails
  cases part with
  | ports => cases ports.symm.trans fails
  | dbUrl => cases url.symm.trans fails
  | refreshInterval => cases hours.symm.trans fails
  | rateLimitMax => cases max.symm.trans fails
  | rateLimitWindow => cases window.symm.trans fails
  | rateLimitCooldown => cases cooldown.symm.trans fails
  | dictionaryAdmins => cases admins.symm.trans fails
  | trustedProxies => cases proxies.symm.trans fails

/-- Whatever the other parts are, an environment with a failing part is refused. -/
theorem ConfigPart.Fails.refused {part : ConfigPart} (fails : part.Fails env error)
    (dataDir : Option OsString) : ∃ first, load dataDir env = .error first := by
  cases loaded : load dataDir env with
  | error first => exact ⟨first, rfl⟩
  | ok config => exact absurd fails (part.not_fails_of_load loaded)

theorem Environment.var_congr {name : String} (same : other name = env name) :
    other.var name = env.var name := by
  rw [var, same, var]

theorem parseEnvOr_congr {α : Type} {parse : String → Except IntErrorKind α} {name : String}
    {default : α} (same : other name = env name) :
    parseEnvOr parse other name default = parseEnvOr parse env name default := by
  rw [parseEnvOr, Environment.var_congr same, parseEnvOr]

theorem parseEnvOr_error {α : Type} {parse : String → Except IntErrorKind α} {name : String}
    {default : α} (failed : parseEnvOr parse env name default = .error error) :
    error.names = [name] := by
  unfold parseEnvOr at failed
  split at failed
  · obtain ⟨kind, _, rfl⟩ := Results.mapError_eq_error_iff.mp failed
    rfl
  · cases failed
  · cases failed
    rfl

theorem parseCidrList_congr {name : String} (same : other name = env name) :
    parseCidrList other name = parseCidrList env name := by
  rw [parseCidrList, Environment.var_congr same, parseCidrList]

theorem parseCidrList_error {name : String} (failed : parseCidrList env name = .error error) :
    error.names = [name] := by
  unfold parseCidrList at failed
  split at failed
  · obtain ⟨field, _, wrong⟩ := Results.mapM_eq_error failed
    obtain ⟨cause, _, rfl⟩ := Results.mapError_eq_error_iff.mp wrong
    rfl
  · cases failed
  · cases failed
    rfl

theorem loadDbUrl_error (failed : loadDbUrl env = .error error) :
    error.names = ["RUSTSPELL_DB_URL"] := by
  unfold loadDbUrl at failed
  split at failed
  · split at failed
    · cases failed
    · split at failed
      · cases failed
      · cases failed
        rfl
  · cases failed

/-- A port is wrong, or the ports are the same. -/
theorem loadPorts_error (failed : loadPorts env = .error error) :
    parseEnvOr parseU16 env "RUSTSPELL_PORT" 3000 = .error error ∨
      parseEnvOr parseU16 env "RUSTSPELL_METRICS_PORT" 9090 = .error error ∨
        ∃ port, error = .samePorts port := by
  simp only [loadPorts, Results.bind_eq_error_iff] at failed
  rcases failed with first | ⟨port, _, second | ⟨metricsPort, _, result⟩⟩
  · exact Or.inl first
  · exact Or.inr (Or.inl second)
  · split at result
    · cases result
      exact Or.inr (Or.inr ⟨port, rfl⟩)
    · cases result

/-- Without a port there are no ports. -/
theorem loadPorts_refuses
    (wrong : parseEnvOr parseU16 env "RUSTSPELL_PORT" 3000 = .error error ∨
      parseEnvOr parseU16 env "RUSTSPELL_METRICS_PORT" 9090 = .error error) :
    ∃ first, loadPorts env = .error first := by
  cases loaded : loadPorts env with
  | error first => exact ⟨first, rfl⟩
  | ok ports =>
      obtain ⟨port, metricsPort, _⟩ := loadPorts_eq_ok_iff.mp loaded
      rcases wrong with wrong | wrong
      · cases port.symm.trans wrong
      · cases metricsPort.symm.trans wrong

/-- With the values of the variables that its error names a part fails, whatever the
others are. -/
theorem ConfigPart.Fails.blames {part : ConfigPart} (fails : part.Fails env error) :
    error.names ≠ [] ∧ ∀ other : Environment, (∀ name ∈ error.names, other name = env name) →
      ∃ first, part.Fails other first := by
  have single : ∀ {name : String}, error.names = [name] →
      (∀ other : Environment, other name = env name → part.Fails other error) →
      error.names ≠ [] ∧ ∀ other : Environment, (∀ name ∈ error.names, other name = env name) →
        ∃ first, part.Fails other first := by
    intro name named again
    rw [named]
    refine ⟨List.cons_ne_nil _ _, fun other same => ?_⟩
    exact ⟨error, again other (same name (List.mem_singleton.mpr rfl))⟩
  cases part with
  | ports =>
      rcases loadPorts_error fails with wrong | wrong | ⟨port, rfl⟩
      · rw [parseEnvOr_error wrong]
        refine ⟨List.cons_ne_nil _ _, fun other same => ?_⟩
        have here := same _ (List.mem_singleton.mpr rfl)
        exact loadPorts_refuses (Or.inl ((parseEnvOr_congr here).trans wrong))
      · rw [parseEnvOr_error wrong]
        refine ⟨List.cons_ne_nil _ _, fun other same => ?_⟩
        have here := same _ (List.mem_singleton.mpr rfl)
        exact loadPorts_refuses (Or.inr ((parseEnvOr_congr here).trans wrong))
      · refine ⟨List.cons_ne_nil _ _, fun other same => ⟨.samePorts port, ?_⟩⟩
        have port_same := same "RUSTSPELL_PORT" (by simp [ConfigError.names])
        have metrics_same := same "RUSTSPELL_METRICS_PORT" (by simp [ConfigError.names])
        show loadPorts other = _
        rw [loadPorts, parseEnvOr_congr port_same, parseEnvOr_congr metrics_same]
        exact fails
  | dbUrl =>
      apply single (loadDbUrl_error fails)
      intro other same
      show loadDbUrl other = _
      rw [loadDbUrl, Environment.var_congr same]
      exact fails
  | refreshInterval | rateLimitMax | rateLimitWindow | rateLimitCooldown =>
      apply single (parseEnvOr_error fails)
      intro other same
      exact (parseEnvOr_congr same).trans fails
  | dictionaryAdmins | trustedProxies =>
      apply single (parseCidrList_error fails)
      intro other same
      exact (parseCidrList_congr same).trans fails

/-- The message does name them. -/
theorem ConfigError.names_in_message (debug : String → String)
    (debugBytes : List UInt8 → String) (error : ConfigError) :
    ∀ name ∈ error.names, ∃ before after,
      error.message debug debugBytes = before ++ name ++ after := by
  intro name member
  cases error with
  | unreadable variableName bytes =>
      rw [List.mem_singleton.mp member]
      refine ⟨"failed to read ",
        ": environment variable was not valid unicode: " ++ debugBytes bytes, ?_⟩
      exact String.append_assoc
  | invalidNumber variableName kind =>
      rw [List.mem_singleton.mp member]
      refine ⟨"invalid ", ": " ++ kind.message, ?_⟩
      exact String.append_assoc
  | invalidCidr variableName cause =>
      rw [List.mem_singleton.mp member]
      refine ⟨"invalid ", ": " ++ cause.message debug, ?_⟩
      exact String.append_assoc
  | samePorts port =>
      have message_eq : (samePorts port).message debug debugBytes =
          "RUSTSPELL_PORT (" ++ toString port ++ ") and RUSTSPELL_METRICS_PORT (" ++
            toString port ++ ") must be different" := rfl
      have opening : "RUSTSPELL_PORT (" = "RUSTSPELL_PORT" ++ " (" := by decide
      have middle : ") and RUSTSPELL_METRICS_PORT (" =
          ") and " ++ ("RUSTSPELL_METRICS_PORT" ++ " (") := by decide
      rw [message_eq]
      rcases List.mem_pair.mp member with rfl | rfl
      · refine ⟨"", " (" ++ toString port ++ ") and RUSTSPELL_METRICS_PORT (" ++ toString port ++
          ") must be different", ?_⟩
        simp only [opening, String.append_assoc, String.empty_append]
      · refine ⟨"RUSTSPELL_PORT (" ++ toString port ++ ") and ", " (" ++ toString port ++
          ") must be different", ?_⟩
        simp only [middle, String.append_assoc]
  | notPostgres =>
      rw [List.mem_singleton.mp member]
      refine ⟨"", " must be a postgres:// connection string", ?_⟩
      have whole : "RUSTSPELL_DB_URL must be a postgres:// connection string" =
          "" ++ "RUSTSPELL_DB_URL" ++ " must be a postgres:// connection string" := by decide
      exact whole

end

/-- The server starts exactly on the environments that make sense, with what they say.
Where it does not start, the message names variables that are enough to stop it. -/
theorem load_faithful (dataDir : Option OsString) (env : Environment) :
    (∀ config, load dataDir env = .ok config ↔ Faithful dataDir env config) ∧
      ∀ error, load dataDir env = .error error →
        error.names ≠ [] ∧
        (∀ debug debugBytes, ∀ name ∈ error.names, ∃ before after,
          error.message debug debugBytes = before ++ name ++ after) ∧
        ∀ (otherDir : Option OsString) (other : Environment),
          (∀ name ∈ error.names, other name = env name) →
            ∃ first, load otherDir other = .error first := by
  refine ⟨fun config => load_eq_ok_iff, fun error failed => ?_⟩
  obtain ⟨part, fails⟩ := load_fails failed
  obtain ⟨named, blamed⟩ := fails.blames
  refine ⟨named, fun debug debugBytes => error.names_in_message debug debugBytes, ?_⟩
  intro otherDir other same
  obtain ⟨first, still⟩ := blamed other same
  exact still.refused otherDir

end SpellServer
