import Mathlib
import SpellServer.Http.Models
import SpellServer.Library.Accumulate
import SpellServer.Spell.Tokenize

/-!
# The two spell-check endpoints

`spellcheck` lists a result for every token of the text and every word;
`spellcheck_positions` collects the invalid ones in a map.  The dictionary is
that of `spellbook`, which is not part of the repository: `check` and `suggest`
are any functions of the word.
-/

namespace SpellServer

open Library

structure Engine where
  check : String → Bool
  suggest : String → List String

/-- The tokens of the text, none without a text. -/
def SpellCheckRequest.tokens (req : SpellCheckRequest) : Option (List Token) :=
  match req.text with
  | none => some []
  | some text => tokenize text

def SpellCheckRequest.wordList (req : SpellCheckRequest) : List String := req.words.getD []

structure PositionAccumulator where
  positions : List ℕ
  suggestions : List String
deriving DecidableEq, Repr

/-- `PositionAccumulator::default`. -/
def PositionAccumulator.default : PositionAccumulator := { positions := [], suggestions := [] }

namespace Engine

variable (engine : Engine)

def tokenResult (token : String) : TokenResult :=
  let valid := engine.check token
  { token, valid, suggestions := if valid then [] else engine.suggest token }

/-- The results of `POST /spellcheck`. -/
def results (req : SpellCheckRequest) : Option (List TokenResult) := do
  let tokens ← req.tokens
  some ((tokens.map fun token => engine.tokenResult token.token) ++
    req.wordList.map engine.tokenResult)

/-- Suggestions are asked for as long as there are none. -/
def fillSuggestions (token : String) (entry : PositionAccumulator) : PositionAccumulator :=
  if entry.suggestions.isEmpty then { entry with suggestions := engine.suggest token } else entry

def addToken (token : Token) (entry : PositionAccumulator) : PositionAccumulator :=
  engine.fillSuggestions token.token
    { entry with positions := entry.positions ++ [token.startChar] }

/-- The loop over the tokens, then the one over the words. -/
def byToken (tokens : List Token) (words : List String) : Dict String PositionAccumulator :=
  let ofTokens := tokens.foldl
    (fun byToken token =>
      if engine.check token.token then byToken
      else byToken.alter token.token .default (engine.addToken token)) ∅
  words.foldl
    (fun byToken word =>
      if engine.check word then byToken
      else byToken.alter word .default (engine.fillSuggestions word)) ofTokens

def positionsByToken (req : SpellCheckRequest) : Option (Dict String PositionAccumulator) := do
  let tokens ← req.tokens
  some (engine.byToken tokens req.wordList)

end Engine

/-- A listing of the map; a hash map is iterated over in any order. -/
def ListsEntries (byToken : Dict String PositionAccumulator) (listed : List PositionResult) : Prop :=
  listed.Perm (byToken.entries.map fun entry =>
    { token := entry.1, positions := entry.2.positions, suggestions := entry.2.suggestions })

/-! ## What the map holds -/

/-- A token or a word on its way into the map. -/
structure Occurrence where
  token : String
  position : Option ℕ

namespace Engine

variable (engine : Engine)

def feed (entry : PositionAccumulator) (occurrence : Occurrence) : PositionAccumulator :=
  engine.fillSuggestions occurrence.token
    { entry with positions := entry.positions ++ occurrence.position.toList }

/-- The invalid tokens and words in the order of the two loops. -/
def occurrences (tokens : List Token) (words : List String) : List Occurrence :=
  ((tokens.filter fun token => !engine.check token.token).map fun token =>
      { token := token.token, position := some token.startChar }) ++
    (words.filter fun word => !engine.check word).map fun word =>
      { token := word, position := none }

/-- The two loops are one accumulation over the occurrences. -/
theorem byToken_eq_accumulate (tokens : List Token) (words : List String) :
    engine.byToken tokens words =
      (∅ : Dict String PositionAccumulator).accumulate Occurrence.token .default engine.feed
        (engine.occurrences tokens words) := by
  unfold byToken occurrences
  rw [Dict.accumulate_append]
  simp only [Dict.accumulate, List.foldl_map, List.foldl_filter]
  congr 1
  · funext byToken word
    cases engine.check word <;> simp [feed]
  · congr 1
    funext byToken token
    cases engine.check token.token with
    | true => simp
    | false =>
        simp only [Bool.false_eq_true, if_false, Bool.not_false, if_true]
        rfl

variable {engine}

theorem positions_foldl_feed (engine : Engine) (own : List Occurrence) (entry : PositionAccumulator) :
    (own.foldl engine.feed entry).positions =
      entry.positions ++ own.filterMap Occurrence.position := by
  induction own generalizing entry with
  | nil => simp
  | cons occurrence own induction =>
      have fed : (engine.feed entry occurrence).positions =
          entry.positions ++ occurrence.position.toList := by
        unfold feed fillSuggestions
        split <;> rfl
      rw [List.foldl_cons, induction, fed, List.append_assoc]
      cases place : occurrence.position <;> simp [place]

/-- One occurrence is enough for the suggestions; an empty list is asked for again
and stays what it is. -/
theorem suggestions_foldl_feed {token : String} {own : List Occurrence}
    {entry : PositionAccumulator} (same : ∀ occurrence ∈ own, occurrence.token = token)
    (start : entry.suggestions = engine.suggest token ∨ entry.suggestions = [] ∧ own ≠ []) :
    (own.foldl engine.feed entry).suggestions = engine.suggest token := by
  induction own generalizing entry with
  | nil =>
      rcases start with asked | missing
      · exact asked
      · exact absurd rfl missing.2
  | cons occurrence own induction =>
      have here : occurrence.token = token := same occurrence List.mem_cons_self
      have filled : (engine.feed entry occurrence).suggestions = engine.suggest token := by
        unfold feed fillSuggestions
        split
        · exact congrArg engine.suggest here
        · rename_i present
          rcases start with asked | missing
          · exact asked
          · exact absurd (List.isEmpty_iff.mpr missing.1) present
      exact induction (fun other member => same other (List.mem_cons_of_mem _ member))
        (Or.inl filled)

theorem mem_occurrences {tokens : List Token} {words : List String} {token : String} :
    (∃ occurrence ∈ engine.occurrences tokens words, occurrence.token = token) ↔
      engine.check token = false ∧ (token ∈ tokens.map Token.token ∨ token ∈ words) := by
  constructor
  · intro present
    obtain ⟨occurrence, member, rfl⟩ := present
    rcases List.mem_append.mp member with ofText | ofWords
    · obtain ⟨found, kept, rfl⟩ := List.mem_map.mp ofText
      obtain ⟨inTokens, invalid⟩ := List.mem_filter.mp kept
      exact ⟨by simpa using invalid, Or.inl (List.mem_map.mpr ⟨found, inTokens, rfl⟩)⟩
    · obtain ⟨found, kept, rfl⟩ := List.mem_map.mp ofWords
      obtain ⟨inWords, invalid⟩ := List.mem_filter.mp kept
      exact ⟨by simpa using invalid, Or.inr inWords⟩
  · intro present
    obtain ⟨invalid, ofText | ofWords⟩ := present
    · obtain ⟨found, inTokens, rfl⟩ := List.mem_map.mp ofText
      have kept : found ∈ tokens.filter fun token => !engine.check token.token :=
        List.mem_filter.mpr ⟨inTokens, by simpa using invalid⟩
      exact ⟨_, List.mem_append_left _ (List.mem_map.mpr ⟨found, kept, rfl⟩), rfl⟩
    · have kept : token ∈ words.filter fun word => !engine.check word :=
        List.mem_filter.mpr ⟨ofWords, by simpa using invalid⟩
      exact ⟨_, List.mem_append_right _ (List.mem_map.mpr ⟨token, kept, rfl⟩), rfl⟩

/-- The positions among the occurrences of an invalid token are those of the text. -/
theorem positions_of_occurrences {token : String} (invalid : engine.check token = false)
    (tokens : List Token) (words : List String) :
    ((engine.occurrences tokens words).filter fun occurrence =>
        occurrence.token = token).filterMap Occurrence.position =
      (tokens.filter fun found => found.token = token).map Token.startChar := by
  have ofWords : (((words.filter fun word => !engine.check word).map fun word =>
      ({ token := word, position := none } : Occurrence)).filter fun occurrence =>
        occurrence.token = token).filterMap Occurrence.position = [] := by
    rw [List.filterMap_eq_nil_iff]
    intro occurrence member
    obtain ⟨_, _, rfl⟩ := List.mem_map.mp (List.mem_of_mem_filter member)
    rfl
  rw [occurrences, List.filter_append, List.filterMap_append, ofWords, List.append_nil,
    List.filter_map, List.filterMap_map, List.filter_filter]
  have same : (fun found : Token => decide (found.token = token) && !engine.check found.token) =
      fun found => decide (found.token = token) := by
    funext found
    by_cases this : found.token = token <;> simp [this, invalid]
  simp only [Function.comp_def, same]
  rw [List.filterMap_eq_map']

/-- What is found under a token. -/
theorem lookup_byToken {tokens : List Token} {words : List String} {token : String}
    {entry : PositionAccumulator} (found : (engine.byToken tokens words).lookup token = some entry) :
    engine.check token = false ∧ (token ∈ tokens.map Token.token ∨ token ∈ words) ∧
      entry.positions = (tokens.filter fun found => found.token = token).map Token.startChar ∧
      entry.suggestions = engine.suggest token := by
  rw [byToken_eq_accumulate] at found
  have present := (Dict.isSome_lookup_accumulate _ _ _ _ _ _).mp (by rw [found]; rfl)
  have occurs := present.resolve_left (by simp)
  obtain ⟨invalid, source⟩ := mem_occurrences.mp occurs
  have value := Dict.getD_lookup_accumulate Occurrence.token .default engine.feed ∅
    (engine.occurrences tokens words) token
  rw [found, AList.lookup_empty, Option.getD_some, Option.getD_none] at value
  refine ⟨invalid, source, ?_, ?_⟩
  · rw [value, positions_foldl_feed, positions_of_occurrences invalid]
    rfl
  · rw [value]
    apply suggestions_foldl_feed
    · intro occurrence member
      simpa using (List.mem_filter.mp member).2
    · obtain ⟨occurrence, member, same⟩ := occurs
      exact Or.inr ⟨rfl, List.ne_nil_of_mem (List.mem_filter.mpr ⟨member, by simpa using same⟩)⟩

theorem isSome_lookup_byToken {tokens : List Token} {words : List String} {token : String} :
    ((engine.byToken tokens words).lookup token).isSome = true ↔
      engine.check token = false ∧ (token ∈ tokens.map Token.token ∨ token ∈ words) := by
  rw [byToken_eq_accumulate, Dict.isSome_lookup_accumulate, mem_occurrences]
  simp

/-- All positions together are those of the invalid tokens of the text. -/
theorem total_positions_byToken (tokens : List Token) (words : List String) :
    (engine.byToken tokens words).total (fun _ entry => entry.positions.length) =
      (tokens.filter fun token => !engine.check token.token).length := by
  have adds : ∀ (entry : PositionAccumulator) (occurrence : Occurrence),
      (engine.feed entry occurrence).positions.length =
        entry.positions.length + occurrence.position.toList.length := by
    intro entry occurrence
    have fed := positions_foldl_feed engine [occurrence] entry
    rw [List.foldl_cons, List.foldl_nil] at fed
    rw [fed, List.length_append]
    cases place : occurrence.position <;> simp [place]
  have summed : ((∅ : Dict String PositionAccumulator).accumulate Occurrence.token .default
        engine.feed (engine.occurrences tokens words)).total
          (fun _ entry => entry.positions.length) =
      0 + ((engine.occurrences tokens words).map fun occurrence =>
        occurrence.position.toList.length).sum :=
    Dict.total_accumulate (by intro _; rfl) adds ∅ _
  rw [byToken_eq_accumulate, summed, zero_add]
  simp [occurrences, Function.comp_def]

end Engine

/-! ## Agreement -/

structure EndpointsAgree (engine : Engine) (tokens : List Token) (words : List String)
    (results : List TokenResult) (listed : List PositionResult) : Prop where
  in_order : results.map TokenResult.token = tokens.map Token.token ++ words
  judged : ∀ result ∈ results, result.valid = engine.check result.token ∧
    result.suggestions = if result.valid then [] else engine.suggest result.token
  distinct : (listed.map PositionResult.token).Nodup
  invalid : ∀ token, token ∈ listed.map PositionResult.token ↔
    ∃ result ∈ results, result.token = token ∧ result.valid = false
  suggestions : ∀ entry ∈ listed, ∀ result ∈ results, result.token = entry.token →
    entry.suggestions = result.suggestions
  increasing : ∀ entry ∈ listed, entry.positions.Pairwise (· < ·)
  positions : ∀ entry ∈ listed, entry.positions =
    (tokens.filter fun token => token.token = entry.token).map Token.startChar
  total : (listed.map fun entry => entry.positions.length).sum =
    (tokens.filter fun token => !engine.check token.token).length

/-- An entry of the listing is an entry of the map. -/
theorem ListsEntries.mem_entry_iff {byToken : Dict String PositionAccumulator}
    {listed : List PositionResult} (lists : ListsEntries byToken listed) {entry : PositionResult} :
    entry ∈ listed ↔ byToken.lookup entry.token =
      some { positions := entry.positions, suggestions := entry.suggestions } := by
  rw [List.Perm.mem_iff lists, List.mem_map]
  constructor
  · intro member
    obtain ⟨stored, inMap, rfl⟩ := member
    exact Dict.mem_entries_iff.mp inMap
  · intro found
    exact ⟨⟨entry.token, _⟩, Dict.mem_entries_iff.mpr found, rfl⟩

theorem ListsEntries.mem_tokens_iff {byToken : Dict String PositionAccumulator}
    {listed : List PositionResult} (lists : ListsEntries byToken listed) {token : String} :
    token ∈ listed.map PositionResult.token ↔ (byToken.lookup token).isSome = true := by
  rw [List.mem_map, Option.isSome_iff_exists]
  constructor
  · intro member
    obtain ⟨entry, inList, rfl⟩ := member
    exact ⟨_, lists.mem_entry_iff.mp inList⟩
  · intro found
    obtain ⟨stored, found⟩ := found
    exact ⟨{ token, positions := stored.positions, suggestions := stored.suggestions },
      lists.mem_entry_iff.mpr found, rfl⟩

namespace Engine

variable {engine : Engine}

theorem mem_results {tokens : List Token} {words : List String} {result : TokenResult} :
    result ∈ (tokens.map fun token => engine.tokenResult token.token) ++
        words.map engine.tokenResult ↔
      (result.token ∈ tokens.map Token.token ∨ result.token ∈ words) ∧
        result = engine.tokenResult result.token := by
  rw [List.mem_append, List.mem_map, List.mem_map]
  constructor
  · intro member
    rcases member with ⟨token, inTokens, rfl⟩ | ⟨word, inWords, rfl⟩
    · exact ⟨Or.inl (List.mem_map.mpr ⟨token, inTokens, rfl⟩), rfl⟩
    · exact ⟨Or.inr inWords, rfl⟩
  · intro listed
    obtain ⟨source, same⟩ := listed
    rcases source with ofText | ofWords
    · obtain ⟨token, inTokens, named⟩ := List.mem_map.mp ofText
      exact Or.inl ⟨token, inTokens, by rw [named, ← same]⟩
    · exact Or.inr ⟨_, ofWords, same.symm⟩

end Engine

/-- Wherever tokenization returns, both endpoints answer and agree. -/
theorem spellcheck_endpoints_agree (engine : Engine) (req : SpellCheckRequest)
    {tokens : List Token} (tokenized : req.tokens = some tokens) :
    ∃ results byToken, engine.results req = some results ∧
      engine.positionsByToken req = some byToken ∧
      ∀ listed, ListsEntries byToken listed →
        EndpointsAgree engine tokens req.wordList results listed := by
  refine ⟨(tokens.map fun token => engine.tokenResult token.token) ++
      req.wordList.map engine.tokenResult, engine.byToken tokens req.wordList, ?_, ?_, ?_⟩
  · rw [Engine.results, tokenized]
    rfl
  · rw [Engine.positionsByToken, tokenized]
    rfl
  · intro listed lists
    constructor
    · simp [Engine.tokenResult, Function.comp_def]
    · intro result member
      obtain ⟨_, same⟩ := Engine.mem_results.mp member
      rw [same]
      exact ⟨rfl, rfl⟩
    · have tokensOfMap : (listed.map PositionResult.token).Perm
          (engine.byToken tokens req.wordList).keys := by
        have mapped := lists.map PositionResult.token
        rw [List.map_map] at mapped
        exact mapped
      exact tokensOfMap.nodup_iff.mpr (AList.keys_nodup _)
    · intro token
      rw [lists.mem_tokens_iff, Engine.isSome_lookup_byToken]
      constructor
      · intro present
        exact ⟨engine.tokenResult token, Engine.mem_results.mpr ⟨present.2, rfl⟩, rfl, present.1⟩
      · intro present
        obtain ⟨result, member, rfl, judged⟩ := present
        obtain ⟨source, same⟩ := Engine.mem_results.mp member
        rw [same] at judged
        exact ⟨judged, source⟩
    · intro entry member result inResults named
      obtain ⟨judged, _, _, suggested⟩ := Engine.lookup_byToken (lists.mem_entry_iff.mp member)
      obtain ⟨_, same⟩ := Engine.mem_results.mp inResults
      rw [same, named]
      simp only at suggested
      simp [Engine.tokenResult, judged, suggested]
    · intro entry member
      obtain ⟨_, _, positions, _⟩ := Engine.lookup_byToken (lists.mem_entry_iff.mp member)
      simp only at positions
      rw [positions]
      apply List.pairwise_map.mpr
      apply List.Pairwise.filter
      cases text : req.text with
      | none =>
          rw [SpellCheckRequest.tokens, text] at tokenized
          cases tokenized
          exact List.Pairwise.nil
      | some text' =>
          rw [SpellCheckRequest.tokens, text] at tokenized
          exact tokenize_startChar tokenized
    · intro entry member
      exact (Engine.lookup_byToken (lists.mem_entry_iff.mp member)).2.2.1
    · have mapped := (lists.map fun entry => entry.positions.length).sum_eq
      rw [List.map_map] at mapped
      exact mapped.trans (Engine.total_positions_byToken tokens req.wordList)

/-- One known word, and suggestions for one misspelling of another. -/
def sampleEngine : Engine :=
  { check := fun word => word = "hello"
    suggest := fun word => if word = "wrld" then ["world", "weld"] else [] }

def sampleTokens : List Token :=
  [⟨"hello", 0, 5, 0⟩, ⟨"wrld", 6, 11, 6⟩, ⟨"hello", 12, 17, 12⟩, ⟨"wrld", 18, 25, 18⟩]

def sampleCheckRequest : SpellCheckRequest :=
  { text := some "hello wrld, hello \"wrld\"!"
    words := some ["wrld", "qzx"]
    language := none }

theorem spellcheck_endpoints_agree_on_repeated_token :
    ∃ results byToken, sampleEngine.results sampleCheckRequest = some results ∧
      sampleEngine.positionsByToken sampleCheckRequest = some byToken ∧
      ∀ listed, ListsEntries byToken listed →
        EndpointsAgree sampleEngine sampleTokens ["wrld", "qzx"] results listed :=
  spellcheck_endpoints_agree sampleEngine sampleCheckRequest (by decide +kernel)

end SpellServer
