import SpellServer.Http.Gates
import SpellServer.Http.Models
import SpellServer.Library.WebOrigin
import SpellServer.Store.OriginRaces
import SpellServer.Store.RoundTrip

/-!
# Which registered origins take effect

`POST /tenant/origins` looks at a parsed view of the text it is given, and stores
the text.  Requests are compared with the stored text, byte for byte.  So a
registration takes effect for the browsers of its web origin exactly if the text
is already the one they send.
-/

namespace SpellServer

open Library

/-! ## The handler -/

/-- An input for each action of the store's operation, and the text of the driver's
error if it has one. -/
structure RegisterOriginInputs [Driver] where
  insert : Input
  any : Input
  byTenant : Input
  sqlError : String

/-- `caller` is the key the gates have admitted; `none` is a panic of `expect`. -/
def Store.registerOrigin [Driver] (hashKey : String → String) (parseUri : String → Option OriginUri)
    (store : Store) (caller : KeyRecord) (body : Option RegisterOriginRequest)
    (inputs : RegisterOriginInputs) : Option (Store × Except AppError OriginMetadata) :=
  match body with
  | none => some (store, .error .jsonRejection)
  | some req =>
      if req.validate parseUri ≠ [] then some (store, .error .validation)
      else
        match caller.tenantId with
        | none => none
        | some tenantId =>
            match store.runAlone hashKey [inputs.insert, inputs.any, inputs.byTenant]
                (Op.registerOrigin tenantId req.origin).entry with
            | some (after, .registeredOrigin info) => some (after, .ok (.ofInfo info))
            | some (after, _) => some (after, .error (.internal inputs.sqlError))
            | none => none

section

variable [Driver] {hashKey : String → String} {parseUri : String → Option OriginUri}
  {store after : Store}
  {caller : KeyRecord} {req : RegisterOriginRequest} {inputs : RegisterOriginInputs}
  {metadata : OriginMetadata} {tenantId : String}

theorem Store.runAlone_registerOrigin {draws : List Input} {origin : String} {info : OriginInfo}
    (ran : store.runAlone hashKey draws (Op.registerOrigin tenantId origin).entry =
      some (after, .registeredOrigin info)) :
    info.tenantId = tenantId ∧ info.origin = origin ∧
      after.originsAny = insert origin store.originsAny ∧
      after.originsByTenant = insertOriginInfo store.originsByTenant info := by
  obtain ⟨input, rest, rfl, ended | ⟨later, goes, ran⟩⟩ := runAlone_cases ran
  · simp only [Op.entry, Frame.exec, OriginFrame.exec] at ended
    split at ended
    · cases ended.1
    · cases ended.1
  · simp only [Op.entry, Frame.exec, OriginFrame.exec] at goes ran
    split at goes
    · cases goes
    · rename_i pool executed
      cases goes
      rw [executed] at ran
      obtain ⟨second, rest, rfl, ended | ⟨later, goes, ran⟩⟩ := runAlone_cases ran
      · cases ended.1
      · cases goes
        obtain ⟨third, rest, rfl, ended | ⟨later, goes, ran⟩⟩ := runAlone_cases ran
        · obtain ⟨same, rfl⟩ := ended
          cases same
          exact ⟨rfl, rfl, rfl, rfl⟩
        · cases goes

/-- A request that is answered with the new origin was valid, and the store's
operation went through. -/
theorem Store.registerOrigin_ok (owner : caller.tenantId = some tenantId)
    (posted : store.registerOrigin hashKey parseUri caller (some req) inputs =
      some (after, .ok metadata)) :
    req.validate parseUri = [] ∧ ∃ info,
      store.runAlone hashKey [inputs.insert, inputs.any, inputs.byTenant]
          (Op.registerOrigin tenantId req.origin).entry = some (after, .registeredOrigin info) ∧
        metadata = .ofInfo info := by
  simp only [Store.registerOrigin, owner] at posted
  split at posted
  · cases posted
  · rename_i valid
    refine ⟨not_not.mp valid, ?_⟩
    split at posted
    · rename_i info ran
      cases posted
      exact ⟨info, ran, rfl⟩
    · cases posted
    · cases posted

/-! ## The parser -/

/-- What the `http` crate reports of a text it accepts as a URI with a web scheme and
an authority: the scheme in lower case, the authority as it is written, and `/` for
an absent path. -/
structure ReadsUris (parseUri : String → Option OriginUri) : Prop where
  reports : ∀ {text uri scheme authority}, parseUri text = some uri →
    uri.scheme = some scheme → scheme = "http" ∨ scheme = "https" →
    uri.authority = some authority → ∃ parts, UriParts.read text.toList = some parts ∧
      String.ofList (parts.scheme.map Char.toLower) = scheme ∧
      String.ofList parts.authority = authority ∧
      uri.path = if parts.path = [] then "/" else String.ofList parts.path

omit [Driver] in
/-- What `validate_register_origin_request` knows of a text it accepts. -/
theorem ReadsUris.accepted (reads : ReadsUris parseUri) (valid : req.validate parseUri = []) :
    ∃ parts scheme, UriParts.read req.origin.toList = some parts ∧
      WebScheme.ofText (parts.scheme.map Char.toLower) = some scheme ∧
      (parts.path = [] ∨ parts.path = ['/']) := by
  unfold RegisterOriginRequest.validate RegisterOriginRequest.validateRegisterOriginRequest at valid
  split at valid
  · cases valid
  · rename_i qualifies
    simp only [Bool.not_eq_true', Bool.not_eq_false, Option.any_eq_true, Bool.and_eq_true,
      Bool.or_eq_true, decide_eq_true_eq] at qualifies
    obtain ⟨uri, parsed, ⟨web, named⟩, bare⟩ := qualifies
    obtain ⟨authority, written⟩ := Option.isSome_iff_exists.mp named
    obtain ⟨scheme, reported, known⟩ :
        ∃ scheme, uri.scheme = some scheme ∧ (scheme = "http" ∨ scheme = "https") := by
      rcases web with http | https
      · exact ⟨_, http, Or.inl rfl⟩
      · exact ⟨_, https, Or.inr rfl⟩
    obtain ⟨parts, split, lower, _, path⟩ := reads.reports parsed reported known written
    have lowered : parts.scheme.map Char.toLower = scheme.toList := by
      rw [← lower, String.toList_ofList]
    have pathless : parts.path = [] ∨ parts.path = ['/'] := by
      by_cases absent : parts.path = []
      · exact Or.inl absent
      · rw [if_neg absent] at path
        have same : parts.path = uri.path.toList := by rw [path, String.toList_ofList]
        rcases bare with empty | slash
        · exact Or.inl (by rw [same, empty]; rfl)
        · exact Or.inr (by rw [same, slash]; rfl)
    rcases known with rfl | rfl
    · exact ⟨parts, .http, split, by rw [lowered]; rfl, pathless⟩
    · exact ⟨parts, .https, split, by rw [lowered]; rfl, pathless⟩

/-! ## Taking effect -/

/-- A request with a key of the tenant, sent by a page of the origin. -/
structure Request.SentFrom (request : Request) (origin : WebOrigin) (tenantId : String) : Prop where
  header : ∃ value, request.headers.get "origin" = some value ∧
    value.toStr = some (String.ofList origin.text)
  key : ∃ record, request.keyRecord = some record ∧ record.tenantId = some tenantId

/-- The registered text is the one that browsers send for its web origin, and their
requests are admitted. -/
def OriginEffective (after : Store) (tenantId registered : String) : Prop :=
  ∃ origin, WebOrigin.read registered.toList = some origin ∧
    String.ofList origin.text = registered ∧
    after.isRegisteredOrigin (String.ofList origin.text) = true ∧
    ∀ state request, state.store = after → request.SentFrom origin tenantId →
      requireOriginBinding state request = .next state request

/-- The gate admits what the tenant owns. -/
theorem Request.SentFrom.admitted_iff {request : Request} {origin : WebOrigin} {state : AppState}
    (sent : request.SentFrom origin tenantId) :
    requireOriginBinding state request = .next state request ↔
      state.store.tenantOwnsOrigin tenantId (String.ofList origin.text) = true := by
  obtain ⟨⟨value, header, text⟩, record, key, owner⟩ := sent
  simp only [requireOriginBinding, header, text, withTenant, key, owner]
  cases owned : state.store.tenantOwnsOrigin tenantId (String.ofList origin.text) with
  | true => simp
  | false => simp [Verdict.reject]

/-- After a registration the caches have one text more. -/
theorem Store.registerOrigin_adds (owner : caller.tenantId = some tenantId)
    (posted : store.registerOrigin hashKey parseUri caller (some req) inputs =
      some (after, .ok metadata)) (text : String) :
    (after.isRegisteredOrigin text = true ↔
      text = req.origin ∨ store.isRegisteredOrigin text = true) ∧
    (after.tenantOwnsOrigin tenantId text = true ↔
      text = req.origin ∨ store.tenantOwnsOrigin tenantId text = true) := by
  obtain ⟨_, info, ran, _⟩ := Store.registerOrigin_ok owner posted
  obtain ⟨sameTenant, sameOrigin, originsAny, originsByTenant⟩ := Store.runAlone_registerOrigin ran
  constructor
  · simp [Store.isRegisteredOrigin, originsAny]
  · have added := tenantOwnsOrigin_insert store info tenantId text
    simp only [Store.tenantOwnsOrigin, ← originsByTenant, sameTenant, sameOrigin, true_and] at added
    exact added

/-- A page of any origin is admitted afterwards if its text is the registered one, or
was registered before. -/
theorem registration_admits_iff (owner : caller.tenantId = some tenantId)
    (posted : store.registerOrigin hashKey parseUri caller (some req) inputs =
      some (after, .ok metadata)) {state : AppState} {request : Request} {origin : WebOrigin}
    (current : state.store = after) (sent : request.SentFrom origin tenantId) :
    requireOriginBinding state request = .next state request ↔
      String.ofList origin.text = req.origin ∨
        store.tenantOwnsOrigin tenantId (String.ofList origin.text) = true := by
  rw [sent.admitted_iff, current]
  exact (Store.registerOrigin_adds owner posted _).2

/-- A registration is effective exactly if the text has nothing after its authority,
no upper case, no user information, and a host with a plain port. -/
theorem registration_effective_iff (reads : ReadsUris parseUri)
    (owner : caller.tenantId = some tenantId)
    (posted : store.registerOrigin hashKey parseUri caller (some req) inputs =
      some (after, .ok metadata)) :
    OriginEffective after tenantId req.origin ↔
      (UriParts.read req.origin.toList).any UriParts.isBare = true := by
  obtain ⟨valid, _⟩ := Store.registerOrigin_ok owner posted
  obtain ⟨parts, scheme, split, web, _⟩ := reads.accepted valid
  rw [split, Option.any_some, ← WebOrigin.text_read_iff split web]
  constructor
  · intro ⟨origin, read, same, _⟩
    refine ⟨origin, read, ?_⟩
    rw [← same, String.toList_ofList]
  · intro ⟨origin, read, same⟩
    have written : String.ofList origin.text = req.origin := by
      rw [same, String.ofList_toList]
    refine ⟨origin, read, written, ?_, ?_⟩
    · exact (Store.registerOrigin_adds owner posted _).1.mpr (Or.inl written)
    · intro state request current sent
      exact (registration_admits_iff owner posted current sent).mpr (Or.inl written)

end

open scoped DefaultBackend

/-- Slices a text where the syntax of URIs does, and looks at nothing else. -/
def sampleParseUri (text : String) : Option OriginUri :=
  (UriParts.read text.toList).map fun parts =>
    { scheme := some (String.ofList (parts.scheme.map Char.toLower))
      authority := some (String.ofList parts.authority)
      path := if parts.path = [] then "/" else String.ofList parts.path }

theorem sampleParseUri_readsUris : ReadsUris sampleParseUri := by
  constructor
  intro text uri scheme authority parsed reported _ written
  obtain ⟨parts, split, rfl⟩ := Option.map_eq_some_iff.mp parsed
  cases reported
  cases written
  exact ⟨parts, split, rfl, rfl, rfl⟩

/-- The admin key of `tenantSetup`. -/
def sampleAdminKey : KeyRecord :=
  (newApiKey sampleHash (sampleInput 2 1) (some (sampleId 1).text) "default" .admin none).record

def sampleOriginInputs : RegisterOriginInputs :=
  { insert := sampleInput 3 4
    any := sampleInput 0 4
    byTenant := sampleInput 0 4
    sqlError := "" }

/-- `https://app.example.com/` has the path `/` in the parsed view, like the text
without the slash.  It is stored with the slash, which no browser sends. -/
theorem trailing_slash_never_matches :
    ¬∀ (hashKey : String → String) (parseUri : String → Option OriginUri) (world : World)
      (after : Store) (caller : KeyRecord) (req : RegisterOriginRequest)
      (inputs : RegisterOriginInputs) (metadata : OriginMetadata) (tenantId : String),
      World.Reachable hashKey world → ReadsUris parseUri → caller.tenantId = some tenantId →
      world.store.registerOrigin hashKey parseUri caller (some req) inputs =
        some (after, .ok metadata) →
      OriginEffective after tenantId req.origin := by
  intro claim
  obtain ⟨world, run, outcome⟩ :=
    World.exists_run sampleHash (fun _ _ => true) tenantSetup
      (fun world => (world.store.registerOrigin sampleHash sampleParseUri sampleAdminKey
        (some { origin := "https://app.example.com/" }) sampleOriginInputs).any
          fun ended => ended.2.toOption.isSome &&
            !ended.1.isRegisteredOrigin "https://app.example.com")
      (by decide +kernel)
  obtain ⟨⟨after, answer⟩, posted, checked⟩ := (Option.any_eq_true _ _).mp outcome
  obtain ⟨succeeded, unregistered⟩ : answer.toOption.isSome = true ∧
      after.isRegisteredOrigin "https://app.example.com" = false := by
    simpa only [Bool.and_eq_true, Bool.not_eq_true'] using checked
  cases answer with
  | error error => cases succeeded
  | ok metadata =>
      obtain ⟨origin, read, _, registered, _⟩ := claim sampleHash sampleParseUri world after
        sampleAdminKey _ _ metadata _ (World.ReachableWhen.reachable ⟨_, run⟩)
        sampleParseUri_readsUris rfl posted
      have sends : (WebOrigin.read "https://app.example.com/".toList).map WebOrigin.text =
          some "https://app.example.com".toList := by
        decide +kernel
      rw [read, Option.map_some, Option.some.injEq] at sends
      rw [sends, String.ofList_toList, unregistered] at registered
      cases registered

theorem registration_effective_for_bare_origin :
    ∃ (world : World) (after : Store) (metadata : OriginMetadata),
      world.store.registerOrigin sampleHash sampleParseUri sampleAdminKey
          (some { origin := "https://app.example.com" }) sampleOriginInputs =
        some (after, .ok metadata) ∧
      OriginEffective after (sampleId 1).text "https://app.example.com" := by
  obtain ⟨world, _, outcome⟩ :=
    World.exists_run sampleHash (fun _ _ => true) tenantSetup
      (fun world => (world.store.registerOrigin sampleHash sampleParseUri sampleAdminKey
        (some { origin := "https://app.example.com" }) sampleOriginInputs).any
          fun ended => ended.2.toOption.isSome)
      (by decide +kernel)
  obtain ⟨⟨after, answer⟩, posted, succeeded⟩ := (Option.any_eq_true _ _).mp outcome
  cases answer with
  | error error => cases succeeded
  | ok metadata =>
      refine ⟨world, after, metadata, posted, ?_⟩
      exact (registration_effective_iff sampleParseUri_readsUris rfl posted).mpr (by decide +kernel)

end SpellServer
