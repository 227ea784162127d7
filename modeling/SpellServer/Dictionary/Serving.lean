import SpellServer.Dictionary.Registry

/-!
# Which source a registered language is served from

`load` promises the pair of files under the source it is given.  The cache of
files below it goes by the language alone, so a fresh pair from another source
is served in its place.
-/

namespace SpellServer

open Library

/-- The calls that may change the engine of a language.  `replace` takes the
engine as it is. -/
inductive RegistryOp (ε : Type) where
  | load (language : String) (sourceUrl : Option String) (inputs : LoadInputs)
  | getOrLoad (language : String) (sourceUrl : Option String) (inputs : LoadInputs)
  | replace (language : String) (engine : ε)

/-- The operation loads or replaces the engine of `language` in any case. -/
def RegistryOp.resets {ε : Type} (language : String) : RegistryOp ε → Bool
  | .load other _ _ => other = language
  | .getOrLoad other sourceUrl _ => other = language && sourceUrl.isSome
  | .replace other _ => other = language

namespace EngineState

variable {ε : Type} (parse : String → String → Option ε)

def apply (state : EngineState ε) : RegistryOp ε → EngineState ε
  | .load language sourceUrl inputs => (state.load parse language sourceUrl inputs).state
  | .getOrLoad language sourceUrl inputs => (state.getOrLoad parse language sourceUrl inputs).state
  | .replace language engine => state.replace language engine

/-- The engine is what the two downloaded files parse to. -/
def ParsedFrom (downloaded : List (String × ByteArray)) (source language : String) (engine : ε) :
    Prop :=
  ∃ affData dicData affText dicText,
    (affUrl source language, affData) ∈ downloaded ∧
    (dicUrl source language, dicData) ∈ downloaded ∧
    String.fromUTF8? affData = some affText ∧ String.fromUTF8? dicData = some dicText ∧
    parse affText dicText = some engine

/-- What a load from a given source promises. -/
def ServesSource (state : EngineState ε) (language source : String) (inputs : LoadInputs) : Prop :=
  ∀ engine, (state.load parse language (some source) inputs).result = some (.ok engine) →
    ParsedFrom parse (state.load parse language (some source) inputs).downloaded source language
      engine ∧
    ∀ (later : List (RegistryOp ε)) (call : LoadInputs),
      (∀ op ∈ later, op.resets language = false) →
      ((later.foldl (apply parse) (state.load parse language (some source) inputs).state).getOrLoad
        parse language none call).result = some (.ok engine)

variable {parse} {state : EngineState ε} {language source : String} {inputs : LoadInputs}
  {engine : ε}

theorem getOrLoad_cached (cached : state.registry.engines.lookup language = some engine)
    (call : LoadInputs) :
    state.getOrLoad parse language none call =
      { state, result := some (.ok engine), downloaded := [] } := by
  unfold getOrLoad
  rw [cached]

/-- Loading one language leaves the engines of the others. -/
theorem lookup_load_of_ne {other : String} (differs : language ≠ other)
    (sourceUrl : Option String) (inputs : LoadInputs) :
    (state.load parse other sourceUrl inputs).state.registry.engines.lookup language =
      state.registry.engines.lookup language := by
  obtain ⟨result, returned⟩ := load_returns parse state other sourceUrl inputs
  cases result with
  | error error =>
      unfold load at returned ⊢
      rw [loadEnsured_error returned]
  | ok loaded =>
      unfold load at returned ⊢
      rw [(loadEnsured_ok returned).2.1, lookup_insertEngine, if_neg differs]

theorem lookup_apply (cached : state.registry.engines.lookup language = some engine)
    {op : RegistryOp ε} (keeps : op.resets language = false) :
    (state.apply parse op).registry.engines.lookup language = some engine := by
  cases op with
  | load other sourceUrl inputs =>
      have differs : language ≠ other := by
        intro same
        simp [RegistryOp.resets, same] at keeps
      exact (lookup_load_of_ne differs sourceUrl inputs).trans cached
  | getOrLoad other sourceUrl inputs =>
      by_cases same : other = language
      · subst other
        have noSource : sourceUrl = none := by simpa [RegistryOp.resets] using keeps
        subst sourceUrl
        simp only [apply]
        rw [getOrLoad_cached cached]
        exact cached
      · simp only [apply, getOrLoad]
        split
        · exact cached
        · exact (lookup_load_of_ne (fun eq => same eq.symm) _ inputs).trans cached
  | replace other replacement =>
      have differs : language ≠ other := by
        intro same
        simp [RegistryOp.resets, same] at keeps
      exact (lookup_insertEngine state other language replacement).trans
        ((if_neg differs).trans cached)

theorem lookup_foldl_apply (later : List (RegistryOp ε))
    (keeps : ∀ op ∈ later, op.resets language = false)
    (cached : state.registry.engines.lookup language = some engine) :
    (later.foldl (apply parse) state).registry.engines.lookup language = some engine := by
  induction later generalizing state with
  | nil => exact cached
  | cons op rest induction =>
      apply induction
      · intro next member
        exact keeps next (List.mem_cons_of_mem _ member)
      · exact lookup_apply cached (keeps op List.mem_cons_self)

/-- An engine that a load returns stays until the language is loaded or replaced. -/
theorem load_stays {sourceUrl : Option String}
    (loaded : (state.load parse language sourceUrl inputs).result = some (.ok engine))
    {later : List (RegistryOp ε)} (keeps : ∀ op ∈ later, op.resets language = false)
    (call : LoadInputs) :
    ((later.foldl (apply parse) (state.load parse language sourceUrl inputs).state).getOrLoad
      parse language none call).result = some (.ok engine) := by
  rw [getOrLoad_cached (lookup_foldl_apply later keeps ?_)]
  unfold load at loaded ⊢
  rw [(loadEnsured_ok loaded).2.1, lookup_insertEngine, if_pos rfl]

/-! ## The fresh pair of another source -/

/-- A load of a language that has a fresh pair of files serves that pair. -/
theorem load_of_isFresh (sourceUrl : Option String)
    (fresh : state.registry.dictionaryManager.isFresh inputs.ensure.isFresh
      (state.dirOf language) = true)
    (parsed : loadFromPaths parse (state.registry.dictionaryManager.affPath language)
      (state.registry.dictionaryManager.dicPath language) inputs (state.dirOf language) =
        .ok engine) :
    (state.load parse language sourceUrl inputs).result = some (.ok engine) ∧
      (state.load parse language sourceUrl inputs).downloaded = [] := by
  have ends : ensureDictionary state.registry.dictionaryManager language sourceUrl inputs.ensure
      (state.dirOf language) = .finish (state.dirOf language)
        (.ok (state.registry.dictionaryManager.affPath language,
          state.registry.dictionaryManager.dicPath language)) := by
    rcases ensureDictionary_cases state.registry.dictionaryManager language sourceUrl
        inputs.ensure (state.dirOf language) with
      ⟨_, ends⟩ | ⟨stale, _⟩ | ⟨stale, _⟩
    · exact ends
    · rw [fresh] at stale
      cases stale
    · rw [fresh] at stale
      cases stale
  have loaded : (state.load parse language sourceUrl inputs).result = some (.ok engine) := by
    unfold load
    rw [ends]
    exact loadEnsured_parsed rfl parsed
  refine ⟨loaded, ?_⟩
  unfold load at loaded ⊢
  rw [(loadEnsured_ok loaded).2.2, ends]
  rfl

/-- An engine is either what a fresh pair parses to or comes from the source. -/
theorem load_ok_cases
    (loaded : (state.load parse language (some source) inputs).result = some (.ok engine)) :
    (state.registry.dictionaryManager.isFresh inputs.ensure.isFresh (state.dirOf language) = true ∧
      loadFromPaths parse (state.registry.dictionaryManager.affPath language)
        (state.registry.dictionaryManager.dicPath language) inputs (state.dirOf language) =
          .ok engine) ∨
    ParsedFrom parse (state.load parse language (some source) inputs).downloaded source language
      engine := by
  unfold load at loaded ⊢
  obtain ⟨⟨affPath, dicPath, moved, parsed⟩, _, downloaded⟩ := loadEnsured_ok loaded
  rw [downloaded]
  rcases ensureDictionary_cases state.registry.dictionaryManager language (some source)
      inputs.ensure (state.dirOf language) with
    ⟨fresh, ends⟩ | ⟨_, error, failed⟩ | ⟨_, affData, dicData, ends⟩
  · left
    rw [ends] at moved parsed
    cases moved
    exact ⟨fresh, parsed⟩
  · rw [failed] at moved
    cases moved
  · right
    rw [ends] at parsed ⊢
    obtain ⟨affText, dicText, affDecoded, dicDecoded, result⟩ := loadFromPaths_ok parsed
    exact ⟨affData, dicData, affText, dicText, List.mem_cons_self,
      List.mem_cons_of_mem _ List.mem_cons_self, affDecoded, dicDecoded, result⟩

/-- A load serves its source exactly when there is no fresh pair of files that
can be read and parsed. -/
theorem servesSource_iff (parse : String → String → Option ε) (state : EngineState ε)
    (language source : String) (inputs : LoadInputs) :
    state.ServesSource parse language source inputs ↔
      ¬(state.registry.dictionaryManager.isFresh inputs.ensure.isFresh (state.dirOf language) =
            true ∧
          ∃ engine, loadFromPaths parse (state.registry.dictionaryManager.affPath language)
            (state.registry.dictionaryManager.dicPath language) inputs (state.dirOf language) =
              .ok engine) := by
  constructor
  · intro serves cached
    obtain ⟨fresh, engine, parsed⟩ := cached
    obtain ⟨loaded, downloaded⟩ := load_of_isFresh (some source) fresh parsed
    obtain ⟨⟨_, _, _, _, received, _⟩, _⟩ := serves engine loaded
    rw [downloaded] at received
    cases received
  · intro uncached engine loaded
    refine ⟨?_, fun later call keeps => load_stays loaded keeps call⟩
    rcases load_ok_cases loaded with cached | parsed
    · exact absurd ⟨cached.1, engine, cached.2⟩ uncached
    · exact parsed

/-! ## A pair of the default source -/

/-- A request has loaded the language from the default source a minute ago. -/
def cachedState : EngineState (String × String) :=
  { registry :=
      { defaultLanguage := "en_US"
        dictionaryManager :=
          { baseUrl := "https://example.com/dict"
            dictionaryDir := "/data/dictionaries"
            refreshInterval := 86400 * 1000000000 }
        engines := ∅ }
    disk := (∅ : Dict String LanguageDir).insert "fr_FR"
      { aff := some { data := "SET UTF-8\n".toUTF8, modified := 0 }
        dic := some { data := "1\nbonjour\n".toUTF8, modified := 0 } } }

/-- Nothing fails, and the network has another pair. -/
def laterInputs : LoadInputs :=
  let input : DiskInput :=
    { now := 60 * 1000000000
      failure := none
      answers := fun _ => .received "1\nsalut\n".toUTF8 }
  { ensure :=
      { isFresh := input, createDirAll := input, downloadAff := input, downloadDic := input
        writeAff := input, renameAff := input, writeDic := input, renameDic := input }
    readAff := none
    readDic := none }

theorem cached_pair_served_for_other_source :
    ¬∀ (parse : String → String → Option (String × String)) (state : EngineState (String × String))
      (language source : String) (inputs : LoadInputs),
      state.ServesSource parse language source inputs := by
  intro claim
  have serves := claim (fun aff dic => some (aff, dic)) cachedState "fr_FR"
    "https://example.org/french" laterInputs
  refine (servesSource_iff _ _ _ _ _).mp serves ⟨by decide +kernel, ("SET UTF-8\n", "1\nbonjour\n"), ?_⟩
  rfl

end EngineState

end SpellServer
