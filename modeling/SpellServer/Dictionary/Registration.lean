import SpellServer.Dictionary.Serving
import SpellServer.Http.Message
import SpellServer.Http.Models
import SpellServer.Store.Sequential

/-!
# What a rejected registration leaves behind

`POST /dictionaries` writes the row before it knows that the dictionary can be
loaded, and takes nothing back.  The row counts at the next start, which warms
every registered dictionary before the server binds its port.
-/

namespace SpellServer

open Library

/-- The part of the application state the handler works on. -/
structure RegistrationState (ε : Type) where
  store : Store
  engines : EngineState ε

/-- An input for each action of `register_dictionary`, the text of the driver's
error if it has one, and what the load takes. -/
structure AddDictionaryInputs [Driver] where
  upsert : Input
  select : Input
  cache : Input
  sqlError : String
  load : LoadInputs

/-- `result` is `none` as long as the handler has not returned. -/
structure AddDictionaryOutcome (ε : Type) where
  state : RegistrationState ε
  result : Option (Except AppError DictionaryMetadata)

namespace RegistrationState

section

variable {ε : Type} (parse : String → String → Option ε) (parseUri : String → Option Uri)
  (hashKey : String → String)

/-- What follows `register_dictionary` in the handler. -/
def loadRegistered [Driver] (state : RegistrationState ε) (req : AddDictionaryRequest)
    (inputs : AddDictionaryInputs) (info : DictionaryInfo) : AddDictionaryOutcome ε :=
  let loaded := state.engines.load parse req.code (some req.sourceUrl) inputs.load
  { state := { state with engines := loaded.state }
    result := loaded.result.map fun result =>
      match result with
      | .error error => .error (.unsupportedLanguage error.display)
      | .ok _ => .ok (.ofInfo info) }

/-- A body that is not JSON of the right shape is `none`. -/
def addDictionary [Driver] (state : RegistrationState ε) (body : Option AddDictionaryRequest)
    (inputs : AddDictionaryInputs) : AddDictionaryOutcome ε :=
  match body with
  | none => { state, result := some (.error .jsonRejection) }
  | some req =>
      if req.validate parseUri ≠ [] then { state, result := some (.error .validation) }
      else
        match state.store.runAlone hashKey [inputs.upsert, inputs.select, inputs.cache]
            (Op.registerDictionary req.code req.sourceUrl).entry with
        | some (store, .registeredDictionary info) =>
            { state with store }.loadRegistered parse req inputs info
        | some (store, _) =>
            { state := { state with store }
              result := some (.error (.internal inputs.sqlError)) }
        | none => { state, result := none }

end

/-- The dictionaries table, its cache and the engines are as before. -/
structure Traceless {ε : Type} (before after : RegistrationState ε) : Prop where
  table : after.store.pool.dictionaries = before.store.pool.dictionaries
  cache : ∀ code, after.store.dictionaries.lookup code = before.store.dictionaries.lookup code
  engines : ∀ language, after.engines.registry.engines.lookup language =
    before.engines.registry.engines.lookup language

/-- The row cannot be written or is there already; in the second case the cache
has it as well, or is not reached. -/
def ChangesNothing [Driver] {ε : Type} (state : RegistrationState ε) (req : AddDictionaryRequest)
    (inputs : AddDictionaryInputs) : Prop :=
  inputs.upsert.sql = false ∨
    ∃ row ∈ state.store.pool.dictionaries, row.code = req.code ∧ row.sourceUrl = req.sourceUrl ∧
      (inputs.select.sql = false ∨
        state.store.dictionaries.lookup req.code = some (dictionaryInfoFromRow row))

end RegistrationState

/-! ## The statements of `register_dictionary` -/

namespace Database

/-- The upsert keeps the table exactly when it finds the row it would write. -/
theorem upsertDictionary_dictionaries_eq_iff (database : Database) (row : DictionaryRow) :
    (database.upsertDictionary row).dictionaries = database.dictionaries ↔
      ∃ old ∈ database.dictionaries, old.code = row.code ∧ old.sourceUrl = row.sourceUrl := by
  unfold upsertDictionary
  by_cases known : row.code ∈ database.dictionaries.map DictionaryRow.code
  · rw [dif_pos known]
    obtain ⟨old, member, sameCode⟩ := List.mem_map.mp known
    constructor
    · intro same
      refine ⟨old, member, sameCode, ?_⟩
      have fixed := List.map_eq_map_iff.mp (same.trans (List.map_id _).symm) old member
      rw [if_pos sameCode] at fixed
      have kept : { old with sourceUrl := row.sourceUrl } = old := fixed
      exact (congrArg DictionaryRow.sourceUrl kept).symm
    · intro present
      obtain ⟨found, foundMember, foundCode, foundUrl⟩ := present
      refine (List.map_congr_left ?_).trans (List.map_id _)
      intro other otherMember
      by_cases selected : other.code = row.code
      · rw [if_pos selected, ← foundUrl, List.inj_on_of_nodup_map database.dictionaries_code_unique
          otherMember foundMember (selected.trans foundCode.symm)]
        rfl
      · exact if_neg selected
  · rw [dif_neg known]
    constructor
    · intro same
      simp at same
    · intro present
      obtain ⟨old, member, sameCode, _⟩ := present
      exact absurd (List.mem_map.mpr ⟨old, member, sameCode⟩) known

/-- The row is found right after it was written. -/
theorem selectDictionary_upsertDictionary (database : Database) (row : DictionaryRow) :
    ∃ stored, (database.upsertDictionary row).selectDictionary row.code = some stored := by
  have present : row.code ∈ (database.upsertDictionary row).dictionaries.map DictionaryRow.code := by
    unfold upsertDictionary
    by_cases known : row.code ∈ database.dictionaries.map DictionaryRow.code
    · rw [dif_pos known]
      rw [map_key_map]
      · exact known
      · intro old
        by_cases selected : old.code = row.code <;> simp [selected]
    · rw [dif_neg known]
      simp
  cases selected : (database.upsertDictionary row).selectDictionary row.code with
  | none => exact absurd present (findBy_eq_none_iff.mp selected)
  | some stored => exact ⟨stored, rfl⟩

end Database

namespace RegistrationState

section

variable [Driver] {ε : Type} {parse : String → String → Option ε} {parseUri : String → Option Uri}
  {hashKey : String → String} {state : RegistrationState ε} {req : AddDictionaryRequest}
  {inputs : AddDictionaryInputs}

/-- The row `register_dictionary` binds to its upsert. -/
def newDictionaryRow (req : AddDictionaryRequest) (inputs : AddDictionaryInputs) : DictionaryRow :=
  { code := req.code
    sourceUrl := req.sourceUrl
    createdAt := inputs.upsert.now.seconds.toInt64 }

/-- The store after the upsert. -/
def upserted (store : Store) (req : AddDictionaryRequest) (inputs : AddDictionaryInputs) : Store :=
  { store with pool := store.pool.upsertDictionary (newDictionaryRow req inputs) }

/-- A valid request fails at the upsert, fails at the read-back, or gets to the load. -/
theorem addDictionary_cases (parse : String → String → Option ε) (hashKey : String → String)
    (state : RegistrationState ε) (inputs : AddDictionaryInputs)
    (valid : req.validate parseUri = []) :
    (inputs.upsert.sql = false ∧
      (state.addDictionary parse parseUri hashKey (some req) inputs).state = state) ∨
    (inputs.upsert.sql = true ∧ inputs.select.sql = false ∧
      (state.addDictionary parse parseUri hashKey (some req) inputs).state =
        { state with store := upserted state.store req inputs }) ∨
    (inputs.upsert.sql = true ∧ inputs.select.sql = true ∧
      ∃ stored, (upserted state.store req inputs).pool.selectDictionary req.code = some stored ∧
        state.addDictionary parse parseUri hashKey (some req) inputs =
          loadRegistered parse
            { state with
              store :=
                { upserted state.store req inputs with
                  dictionaries :=
                    state.store.dictionaries.insert req.code (dictionaryInfoFromRow stored) } }
            req inputs (dictionaryInfoFromRow stored)) := by
  have handled : req.validate parseUri ≠ [] ↔ False := by simp [valid]
  simp only [addDictionary, handled, if_false, Op.entry]
  cases upsert : inputs.upsert.sql with
  | false =>
      left
      simp [Store.runAlone, Frame.exec, DictionaryFrame.exec, Input.execute, upsert]
  | true =>
      right
      cases select : inputs.select.sql with
      | false =>
          left
          simp [Store.runAlone, Frame.exec, DictionaryFrame.exec, Input.execute, upsert, select,
            upserted, newDictionaryRow]
      | true =>
          right
          obtain ⟨stored, found⟩ :=
            state.store.pool.selectDictionary_upsertDictionary (newDictionaryRow req inputs)
          refine ⟨rfl, rfl, stored, found, ?_⟩
          have read : (state.store.pool.upsertDictionary
              { code := req.code
                sourceUrl := req.sourceUrl
                createdAt := inputs.upsert.now.seconds.toInt64 }).selectDictionary req.code =
                  some stored := found
          simp [Store.runAlone, Frame.exec, DictionaryFrame.exec, Input.execute, upsert, select,
            upserted, newDictionaryRow, read]

/-- A load that fails leaves the engines. -/
theorem loadRegistered_error {info : DictionaryInfo} {error : AppError}
    (rejected : (state.loadRegistered parse req inputs info).result = some (.error error)) :
    (state.loadRegistered parse req inputs info).state.engines.registry = state.engines.registry := by
  obtain ⟨result, returned⟩ :=
    EngineState.load_returns parse state.engines req.code (some req.sourceUrl) inputs.load
  simp only [loadRegistered, returned, Option.map_some, Option.some.injEq] at rejected ⊢
  cases result with
  | error failure => exact EngineState.loadEnsured_error returned
  | ok engine => cases rejected

theorem traceless_upserted_iff :
    state.Traceless { state with store := upserted state.store req inputs } ↔
      ∃ row ∈ state.store.pool.dictionaries, row.code = req.code ∧ row.sourceUrl = req.sourceUrl := by
  refine Iff.trans ?_ (state.store.pool.upsertDictionary_dictionaries_eq_iff
    (newDictionaryRow req inputs))
  exact ⟨fun traceless => traceless.table, fun table => ⟨table, fun _ => rfl, fun _ => rfl⟩⟩

/-- A registration that has reached the load. -/
theorem traceless_cached_iff {stored : DictionaryRow} {engines : EngineState ε}
    (found : (upserted state.store req inputs).pool.selectDictionary req.code = some stored)
    (same : engines.registry = state.engines.registry) :
    state.Traceless
        { store :=
            { upserted state.store req inputs with
              dictionaries :=
                state.store.dictionaries.insert req.code (dictionaryInfoFromRow stored) }
          engines } ↔
      ∃ row ∈ state.store.pool.dictionaries, row.code = req.code ∧ row.sourceUrl = req.sourceUrl ∧
        state.store.dictionaries.lookup req.code = some (dictionaryInfoFromRow row) := by
  have table := state.store.pool.upsertDictionary_dictionaries_eq_iff (newDictionaryRow req inputs)
  -- With an unchanged table the read-back returns the row that was there.
  have reads : ∀ row ∈ state.store.pool.dictionaries, row.code = req.code →
      (upserted state.store req inputs).pool.dictionaries = state.store.pool.dictionaries →
      stored = row := by
    intro row member sameCode kept
    have selected := (findBy_eq_some_iff state.store.pool.dictionaries_code_unique).mpr
      ⟨member, sameCode⟩
    rw [Database.selectDictionary, kept, selected] at found
    exact (Option.some.inj found).symm
  constructor
  · intro traceless
    obtain ⟨row, member, sameCode, sameUrl⟩ := table.mp traceless.table
    refine ⟨row, member, sameCode, sameUrl, ?_⟩
    have cached := traceless.cache req.code
    rw [Dict.lookup_insert_ite, if_pos rfl, reads row member sameCode traceless.table] at cached
    exact cached.symm
  · intro present
    obtain ⟨row, member, sameCode, sameUrl, cached⟩ := present
    have kept := table.mpr ⟨row, member, sameCode, sameUrl⟩
    refine ⟨kept, ?_, fun language => by rw [same]⟩
    intro code
    rw [Dict.lookup_insert_ite]
    by_cases asked : code = req.code
    · rw [if_pos asked, asked, cached, reads row member sameCode kept]
    · rw [if_neg asked]

/-- A rejected request leaves no trace exactly when there was nothing to change. -/
theorem traceless_iff {error : AppError} (valid : req.validate parseUri = [])
    (rejected : (state.addDictionary parse parseUri hashKey (some req) inputs).result =
      some (.error error)) :
    state.Traceless (state.addDictionary parse parseUri hashKey (some req) inputs).state ↔
      state.ChangesNothing req inputs := by
  unfold ChangesNothing
  rcases addDictionary_cases parse hashKey state inputs valid with
    ⟨upsert, after⟩ | ⟨upsert, select, after⟩ | ⟨upsert, select, stored, found, outcome⟩
  · rw [after]
    exact ⟨fun _ => Or.inl upsert, fun _ => ⟨rfl, fun _ => rfl, fun _ => rfl⟩⟩
  · rw [after, traceless_upserted_iff]
    simp [upsert, select]
  · rw [outcome] at rejected ⊢
    have same := loadRegistered_error rejected
    refine (traceless_cached_iff found same).trans ?_
    simp [upsert, select]

end

/-! ## What the next start has to warm -/

/-- `list_dictionaries`, as the sources `main` loads from before it binds the port. -/
def startupSources [Driver] (pool : Database) : List (String × String) :=
  (Store.reload pool).dictionaries.values.map fun info => (info.code, info.sourceUrl)

/-- They are those of the store that `Store::open` returns. -/
theorem startupSources_of_open [Driver] {hashKey : String → String} {now : Clock} {input : Input}
    {pool : Database} {opened : Opened} (opens : Store.open hashKey now input pool = some opened) :
    opened.store.dictionaries.values.map (fun info => (info.code, info.sourceUrl)) =
      startupSources pool := by
  unfold Store.open at opens
  by_cases active : (Store.reload pool).hasActivePlatformKey now.seconds = true
  · simp only [active, if_true, Option.some.injEq] at opens
    subst opened
    rfl
  · simp only [active, Bool.false_eq_true, if_false, Option.map_eq_some_iff] at opens
    obtain ⟨_, _, rfl⟩ := opens
    rfl

section

variable {ε : Type} (parse : String → String → Option ε) (parseUri : String → Option Uri)
  (hashKey : String → String)

/-- A request that is answered with an error. -/
def reject [Driver] (state : RegistrationState ε)
    (request : Option AddDictionaryRequest × AddDictionaryInputs) : Option (RegistrationState ε) :=
  let outcome := state.addDictionary parse parseUri hashKey request.1 request.2
  match outcome.result with
  | some (.error _) => some outcome.state
  | _ => none

/-- The condition on one request of a sequence. -/
def Harmless [Driver] (state : RegistrationState ε)
    (request : Option AddDictionaryRequest × AddDictionaryInputs) : Prop :=
  ∀ req, request.1 = some req → req.validate parseUri = [] → state.ChangesNothing req request.2

variable {parse parseUri hashKey} {state next : RegistrationState ε}

theorem reject_table [Driver] {request : Option AddDictionaryRequest × AddDictionaryInputs}
    (harmless : Harmless parseUri state request)
    (rejected : state.reject parse parseUri hashKey request = some next) :
    next.store.pool.dictionaries = state.store.pool.dictionaries := by
  obtain ⟨body, inputs⟩ := request
  unfold reject at rejected
  cases result : (state.addDictionary parse parseUri hashKey body inputs).result with
  | none => simp only [result] at rejected; cases rejected
  | some answer =>
      cases answer with
      | ok metadata => simp only [result] at rejected; cases rejected
      | error error =>
          simp only [result, Option.some.injEq] at rejected
          subst next
          cases body with
          | none => rfl
          | some req =>
              by_cases valid : req.validate parseUri = []
              · exact ((traceless_iff valid result).mpr (harmless req rfl valid)).table
              · simp [addDictionary, valid]

end

/-- A rejected request leaves no trace exactly when there was nothing to change,
and a sequence of such requests leaves the next start what it has to warm. -/
theorem rejected_registration_traceless_iff [Driver] {ε : Type} (parse : String → String → Option ε)
    (parseUri : String → Option Uri) (hashKey : String → String) :
    (∀ (state : RegistrationState ε) (req : AddDictionaryRequest) (inputs : AddDictionaryInputs)
      (error : AppError), req.validate parseUri = [] →
      (state.addDictionary parse parseUri hashKey (some req) inputs).result =
        some (.error error) →
      (state.Traceless (state.addDictionary parse parseUri hashKey (some req) inputs).state ↔
        state.ChangesNothing req inputs)) ∧
    ∀ (start finish : RegistrationState ε)
      (requests : List (Option AddDictionaryRequest × AddDictionaryInputs)),
      Run (reject parse parseUri hashKey) (Harmless parseUri) start requests finish →
      startupSources finish.store.pool = startupSources start.store.pool := by
  refine ⟨fun state req inputs error valid rejected => traceless_iff valid rejected, ?_⟩
  intro start finish requests run
  have table : finish.store.pool.dictionaries = start.store.pool.dictionaries :=
    run.invariant (fun _ _ _ kept harmless rejected =>
      (reject_table harmless rejected).trans kept) rfl
  simp only [startupSources, Store.reload, table]

/-! ## A source that cannot be reached -/

open scoped DefaultBackend

/-- A server that has loaded its default language. -/
def startedEngines : EngineState (String × String) :=
  { registry :=
      { defaultLanguage := "en_US"
        dictionaryManager := EngineState.cachedState.registry.dictionaryManager
        engines := (∅ : Dict String (String × String)).insert "en_US" ("SET UTF-8\n", "1\nhello\n") }
    disk := ∅ }

def frenchRequest : AddDictionaryRequest :=
  { code := "fr_FR", sourceUrl := "https://example.org/french" }

/-- The parse of the one URL that occurs. -/
def sampleParseUri (text : String) : Option Uri :=
  if text = "https://example.org/french" then
    some { scheme := some "https", authority := some "example.org" }
  else none

/-- Every statement succeeds and every download is refused. -/
def unreachableInputs : AddDictionaryInputs :=
  let input : DiskInput :=
    { now := 0, failure := none, answers := fun _ => .failed "HTTP status client error" }
  { upsert := sampleInput 0 4
    select := sampleInput 0 4
    cache := sampleInput 0 4
    sqlError := ""
    load :=
      { ensure :=
          { isFresh := input, createDirAll := input, downloadAff := input, downloadDic := input
            writeAff := input, renameAff := input, writeDic := input, renameDic := input }
        readAff := none
        readDic := none } }

def pairParser (aff dic : String) : Option (String × String) := some (aff, dic)

/-- What `POST /dictionaries` does with the request when the source is unreachable. -/
def registerFrench (store : Store) : AddDictionaryOutcome (String × String) :=
  addDictionary pairParser sampleParseUri sampleHash { store, engines := startedEngines }
    (some frenchRequest) unreachableInputs

def rejectsFrench (store : Store) : Bool :=
  (registerFrench store).result.any fun result => result matches .error _

theorem rejectsFrench_error {store : Store} (rejects : rejectsFrench store = true) :
    ∃ error, (registerFrench store).result = some (.error error) := by
  unfold rejectsFrench at rejects
  cases result : (registerFrench store).result with
  | none =>
      rw [result] at rejects
      cases rejects
  | some answer =>
      cases answer with
      | ok metadata =>
          rw [result] at rejects
          cases rejects
      | error error => exact ⟨error, rfl⟩

def addsRow (store : Store) : Bool :=
  decide ((registerFrench store).state.store.pool.dictionaries ≠ store.pool.dictionaries)

theorem failed_registration_leaves_row :
    ¬∀ (world : World) (engines : EngineState (String × String)) (req : AddDictionaryRequest)
      (inputs : AddDictionaryInputs) (error : AppError), World.Reachable sampleHash world →
      req.validate sampleParseUri = [] →
      (addDictionary pairParser sampleParseUri sampleHash { store := world.store, engines }
        (some req) inputs).result = some (.error error) →
      Traceless { store := world.store, engines }
        (addDictionary pairParser sampleParseUri sampleHash { store := world.store, engines }
          (some req) inputs).state := by
  intro claim
  obtain ⟨world, run, outcome⟩ := World.exists_run sampleHash (fun _ _ => true)
    [.restart (sampleInput 0 0).now (sampleInput 0 0)]
    (fun world => rejectsFrench world.store && addsRow world.store) (by decide +kernel)
  obtain ⟨rejects, adds⟩ : rejectsFrench world.store = true ∧ addsRow world.store = true := by
    simpa only [Bool.and_eq_true] using outcome
  obtain ⟨error, result⟩ := rejectsFrench_error rejects
  have traceless := claim world startedEngines frenchRequest unreachableInputs error
    ⟨_, run.weaken fun _ _ _ => trivial⟩ (by decide +kernel) result
  exact of_decide_eq_true adds traceless.table

/-- The row of the request is in the table and in the cache. -/
def knowsFrench (store : Store) : Bool :=
  store.pool.dictionaries.any fun row =>
    decide (row.code = frenchRequest.code ∧ row.sourceUrl = frenchRequest.sourceUrl ∧
      store.dictionaries.lookup frenchRequest.code = some (dictionaryInfoFromRow row))

theorem rejected_registration_traceless_when_known :
    ∃ world, World.Reachable sampleHash world ∧
      Traceless { store := world.store, engines := startedEngines }
        (registerFrench world.store).state ∧
      startupSources (registerFrench world.store).state.store.pool =
        startupSources world.store.pool := by
  obtain ⟨world, run, outcome⟩ := World.exists_run sampleHash (fun _ _ => true)
    [.restart (sampleInput 0 0).now (sampleInput 0 0),
      .call 0 (.registerDictionary frenchRequest.code frenchRequest.sourceUrl),
      .act 0 (sampleInput 0 4), .act 0 (sampleInput 0 4), .act 0 (sampleInput 0 4)]
    (fun world => rejectsFrench world.store && knowsFrench world.store) (by decide +kernel)
  obtain ⟨rejects, knows⟩ : rejectsFrench world.store = true ∧ knowsFrench world.store = true := by
    simpa only [Bool.and_eq_true] using outcome
  obtain ⟨error, result⟩ := rejectsFrench_error rejects
  have known : ChangesNothing { store := world.store, engines := startedEngines } frenchRequest
      unreachableInputs := by
    obtain ⟨row, member, matching⟩ := List.any_eq_true.mp knows
    obtain ⟨sameCode, sameUrl, cached⟩ := of_decide_eq_true matching
    exact Or.inr ⟨row, member, sameCode, sameUrl, Or.inr cached⟩
  obtain ⟨single, sequence⟩ :=
    rejected_registration_traceless_iff pairParser sampleParseUri sampleHash
  refine ⟨world, ⟨_, run.weaken fun _ _ _ => trivial⟩,
    (single _ _ _ error (by decide +kernel) result).mpr known, ?_⟩
  refine sequence { store := world.store, engines := startedEngines } _
    [(some frenchRequest, unreachableInputs)] (.cons ?_ ?_ (.nil _))
  · intro req same _
    cases same
    exact known
  · have taken : (addDictionary pairParser sampleParseUri sampleHash
        { store := world.store, engines := startedEngines } (some frenchRequest)
        unreachableInputs).result = some (.error error) := result
    simp only [reject, taken]
    rfl

end RegistrationState

end SpellServer
