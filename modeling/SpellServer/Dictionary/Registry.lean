import SpellServer.Dictionary.Files

/-!
# The engine registry

`EngineRegistry` caches one engine for each language and loads missing ones
through the dictionary cache.  Loads take turns under `load_lock`, so one load is
one operation here.  The engine and its parser are those of `spellbook`, which
is not part of the repository: any type and any partial function will do.
-/

namespace SpellServer

open Library

inductive EngineError where
  | read (path source : String)
  | parse
  | dictionary (error : DictionaryError)
deriving DecidableEq

def EngineError.display : EngineError → String
  | .read path source => "failed to read dictionary file: " ++ path ++ ": " ++ source
  | .parse => "failed to parse dictionary"
  | .dictionary error => "dictionary unavailable: " ++ error.display

structure EngineRegistry (ε : Type) where
  defaultLanguage : String
  dictionaryManager : DictionaryManager
  engines : Dict String ε

/-- The registry of a process and the cache directories it works on. -/
structure EngineState (ε : Type) where
  registry : EngineRegistry ε
  disk : Dict String LanguageDir

/-- A language without a directory has no files. -/
def EngineState.dirOf {ε : Type} (state : EngineState ε) (language : String) : LanguageDir :=
  (state.disk.lookup language).getD { aff := none, dic := none }

/-- What a load takes from outside; the reads carry their error, if they fail. -/
structure LoadInputs where
  ensure : EnsureInputs
  readAff : Option String
  readDic : Option String

/-- `read_to_string`. -/
def readToString (path : String) (failure : Option String) (file : Option CachedFile) :
    Except EngineError String :=
  match failure, file with
  | some source, _ => .error (.read path source)
  | none, none => .error (.read path "No such file or directory (os error 2)")
  | none, some file =>
      match String.fromUTF8? file.data with
      | none => .error (.read path "stream did not contain valid UTF-8")
      | some text => .ok text

section

variable {ε : Type} (parse : String → String → Option ε)

/-- `Engine::new`. -/
def newEngine (aff dic : String) : Except EngineError ε :=
  match parse aff dic with
  | none => .error .parse
  | some engine => .ok engine

/-- `Engine::load_from_paths`. -/
def loadFromPaths (affPath dicPath : String) (inputs : LoadInputs) (dir : LanguageDir) :
    Except EngineError ε := do
  let aff ← readToString affPath inputs.readAff dir.aff
  let dic ← readToString dicPath inputs.readDic dir.dic
  newEngine parse aff dic

/-- `result` is `none` as long as the call has not returned. -/
structure LoadOutcome (ε : Type) where
  state : EngineState ε
  result : Option (Except EngineError ε)
  downloaded : List (String × ByteArray)

namespace EngineState

def insertEngine (state : EngineState ε) (language : String) (engine : ε) : EngineState ε :=
  { state with
    registry := { state.registry with engines := state.registry.engines.insert language engine } }

/-- What follows `ensure_dictionary` in a load. -/
def loadEnsured (state : EngineState ε) (language : String) (inputs : LoadInputs)
    (ensured : EnsureOutcome) : LoadOutcome ε :=
  let ensuredState := { state with disk := state.disk.insert language ensured.dir }
  match ensured.next with
  | .running _ => { state := ensuredState, result := none, downloaded := ensured.downloaded }
  | .returned (.error error) =>
      { state := ensuredState
        result := some (.error (.dictionary error))
        downloaded := ensured.downloaded }
  | .returned (.ok (affPath, dicPath)) =>
      match loadFromPaths parse affPath dicPath inputs ensured.dir with
      | .error error =>
          { state := ensuredState, result := some (.error error), downloaded := ensured.downloaded }
      | .ok engine =>
          { state := ensuredState.insertEngine language engine
            result := some (.ok engine)
            downloaded := ensured.downloaded }

def load (state : EngineState ε) (language : String) (sourceUrl : Option String)
    (inputs : LoadInputs) : LoadOutcome ε :=
  state.loadEnsured parse language inputs
    (ensureDictionary state.registry.dictionaryManager language sourceUrl inputs.ensure
      (state.dirOf language))

/-- Without a source URL a cached engine is served.  The check is made again
under the lock; no other load comes in between here. -/
def getOrLoad (state : EngineState ε) (language : String) (sourceUrl : Option String)
    (inputs : LoadInputs) : LoadOutcome ε :=
  match sourceUrl, state.registry.engines.lookup language with
  | none, some engine => { state, result := some (.ok engine), downloaded := [] }
  | _, _ => state.load parse language sourceUrl inputs

def replace (state : EngineState ε) (language : String) (engine : ε) : EngineState ε :=
  state.insertEngine language engine

/-! ## What a load does -/

variable {parse} {state : EngineState ε} {language : String} {sourceUrl : Option String}
  {inputs : LoadInputs} {ensured : EnsureOutcome} {engine : ε}

theorem lookup_insertEngine (state : EngineState ε) (language other : String) (engine : ε) :
    (state.insertEngine language engine).registry.engines.lookup other =
      if other = language then some engine else state.registry.engines.lookup other :=
  Dict.lookup_insert_ite ..

/-- A load that returns an engine has parsed and installed it. -/
theorem loadEnsured_ok
    (loaded : (state.loadEnsured parse language inputs ensured).result = some (.ok engine)) :
    (∃ affPath dicPath, ensured.next = .returned (.ok (affPath, dicPath)) ∧
      loadFromPaths parse affPath dicPath inputs ensured.dir = .ok engine) ∧
    (state.loadEnsured parse language inputs ensured).state.registry =
      (state.insertEngine language engine).registry ∧
    (state.loadEnsured parse language inputs ensured).downloaded = ensured.downloaded := by
  unfold loadEnsured at loaded ⊢
  cases moved : ensured.next with
  | running frame =>
      rw [moved] at loaded
      cases loaded
  | returned ended =>
      rw [moved] at loaded
      cases ended with
      | error error => cases loaded
      | ok paths =>
          obtain ⟨affPath, dicPath⟩ := paths
          cases parsed : loadFromPaths parse affPath dicPath inputs ensured.dir with
          | error error =>
              simp only [parsed] at loaded
              cases loaded
          | ok other =>
              simp only [parsed, Option.some.injEq, Except.ok.injEq] at loaded ⊢
              subst loaded
              exact ⟨⟨affPath, dicPath, rfl, parsed⟩, rfl, trivial⟩

/-- A load that fails leaves the registry alone. -/
theorem loadEnsured_error {error : EngineError}
    (failed : (state.loadEnsured parse language inputs ensured).result = some (.error error)) :
    (state.loadEnsured parse language inputs ensured).state.registry = state.registry := by
  unfold loadEnsured at failed ⊢
  cases moved : ensured.next with
  | running frame => rfl
  | returned ended =>
      rw [moved] at failed
      cases ended with
      | error error => rfl
      | ok paths =>
          cases parsed : loadFromPaths parse paths.1 paths.2 inputs ensured.dir with
          | error error => simp only [parsed]
          | ok other =>
              simp only [parsed] at failed
              cases failed

theorem loadEnsured_parsed {affPath dicPath : String}
    (moved : ensured.next = .returned (.ok (affPath, dicPath)))
    (parsed : loadFromPaths parse affPath dicPath inputs ensured.dir = .ok engine) :
    (state.loadEnsured parse language inputs ensured).result = some (.ok engine) := by
  unfold loadEnsured
  simp only [moved, parsed]

theorem load_returns (parse : String → String → Option ε) (state : EngineState ε)
    (language : String) (sourceUrl : Option String) (inputs : LoadInputs) :
    ∃ result, (state.load parse language sourceUrl inputs).result = some result := by
  unfold load loadEnsured
  rcases ensureDictionary_cases state.registry.dictionaryManager language sourceUrl inputs.ensure
      (state.dirOf language) with
    ⟨_, ends⟩ | ⟨_, error, ends⟩ | ⟨_, affData, dicData, ends⟩
  · simp only [ends, EnsureOutcome.finish_next]
    split <;> exact ⟨_, rfl⟩
  · simp only [ends]
    exact ⟨_, rfl⟩
  · simp only [ends]
    split <;> exact ⟨_, rfl⟩

theorem getOrLoad_returns (parse : String → String → Option ε) (state : EngineState ε)
    (language : String) (sourceUrl : Option String) (inputs : LoadInputs) :
    ∃ result, (state.getOrLoad parse language sourceUrl inputs).result = some result := by
  unfold getOrLoad
  split
  · exact ⟨_, rfl⟩
  · exact load_returns parse state language _ inputs

/-- What the texts of two readable files parse to. -/
theorem loadFromPaths_ok {affPath dicPath : String} {aff dic : CachedFile}
    (parsed : loadFromPaths parse affPath dicPath inputs { aff := some aff, dic := some dic } =
      .ok engine) :
    ∃ affText dicText, String.fromUTF8? aff.data = some affText ∧
      String.fromUTF8? dic.data = some dicText ∧ parse affText dicText = some engine := by
  have readsText : ∀ {path failure file text}, readToString path failure (some file) = .ok text →
      String.fromUTF8? file.data = some text := by
    intro path failure file text reads
    unfold readToString at reads
    cases failure with
    | some source => cases reads
    | none =>
        cases decoded : String.fromUTF8? file.data with
        | none => simp only [decoded] at reads; cases reads
        | some found =>
            simp only [decoded] at reads
            cases reads
            rfl
  unfold loadFromPaths at parsed
  cases affRead : readToString affPath inputs.readAff (some aff) with
  | error error =>
      rw [affRead] at parsed
      cases parsed
  | ok affText =>
      cases dicRead : readToString dicPath inputs.readDic (some dic) with
      | error error =>
          rw [affRead, dicRead] at parsed
          cases parsed
      | ok dicText =>
          rw [affRead, dicRead] at parsed
          have engineParsed : newEngine parse affText dicText = .ok engine := parsed
          unfold newEngine at engineParsed
          cases result : parse affText dicText with
          | none =>
              rw [result] at engineParsed
              cases engineParsed
          | some found =>
              rw [result] at engineParsed
              cases engineParsed
              exact ⟨affText, dicText, readsText affRead, readsText dicRead, result⟩

end EngineState

end

end SpellServer
