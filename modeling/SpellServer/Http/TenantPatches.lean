import SpellServer.Http.Handlers
import SpellServer.Http.TenantUpdates
import SpellServer.Store.TenantProfiles

/-!
# `GET` and `PATCH` of a tenant

`PATCH /tenants/{id}` from the JSON that comes in to the JSON that goes out: what
the body names is set, what it leaves out stays, and a `null` clears a period.  The
metadata that `GET` answers with is itself a body, and patching with it changes
nothing.
-/

namespace SpellServer

open Library

/-! ## What an entry of the body asks for -/

/-- A text or a count: an absent entry and a `null` leave the field alone. -/
def FieldSet {α : Type} (read : Json → Option α) (slot : Json.Slot) (old new : α) : Prop :=
  match slot with
  | .present .null | .absent => new = old
  | .present value => read value = some new
  | .exhausted => False

/-- A period: only an absent entry leaves it alone, and a `null` clears it. -/
def PeriodSet (slot : Json.Slot) (old new : Option UInt64) : Prop :=
  match slot with
  | .absent => new = old
  | .present .null => new = none
  | .present value => ∃ stamp, value.u64 = some stamp ∧ new = some stamp
  | .exhausted => False

/-- The record after a patch with the entries of an object. -/
structure EntriesApplied (entries : List (String × Json)) (old new : TenantInfo) : Prop where
  name : FieldSet Json.text (Json.slot entries "name") old.name new.name
  language : FieldSet Json.text (Json.slot entries "language") old.language new.language
  quotaLimit : FieldSet Json.u64 (Json.slot entries "quota_limit") old.quotaLimit new.quotaLimit
  requestCount :
    FieldSet Json.u64 (Json.slot entries "request_count") old.requestCount new.requestCount
  periodStart : PeriodSet (Json.slot entries "period_start") old.periodStart new.periodStart
  periodEnd : PeriodSet (Json.slot entries "period_end") old.periodEnd new.periodEnd
  id : new.id = old.id
  suspendedAt : new.suspendedAt = old.suspendedAt
  createdAt : new.createdAt = old.createdAt

theorem fieldSet_of_optional {α : Type} {read : Json → Option α} {slot : Json.Slot} {old : α}
    {supplied : Option α} (reads : slot.optional read = some supplied) :
    FieldSet read slot old (supplied.getD old) := by
  cases slot with
  | absent =>
      cases reads
      rfl
  | exhausted => cases reads
  | present value =>
      cases value with
      | null =>
          cases reads
          rfl
      | _ =>
          obtain ⟨given, found, rfl⟩ := Option.map_eq_some_iff.mp reads
          exact found

theorem periodSet_of_default {slot : Json.Slot} {old : Option UInt64}
    {supplied : Option (Option UInt64)} (lacks : slot ≠ .exhausted)
    (reads : slot.withDefault none (deserializePresentAsSome (Json.nullable Json.u64)) =
      some supplied) : PeriodSet slot old (supplied.getD old) := by
  cases slot with
  | absent =>
      cases reads
      rfl
  | exhausted => exact absurd rfl lacks
  | present value =>
      obtain ⟨inner, found, rfl⟩ := Option.map_eq_some_iff.mp reads
      cases value with
      | null =>
          cases found
          rfl
      | unsigned stamp =>
          cases found
          exact ⟨stamp, rfl, rfl⟩
      | _ => cases found

theorem slot_ne_exhausted (entries : List (String × Json)) (name : String) :
    Json.slot entries name ≠ .exhausted := by
  unfold Json.slot
  split <;> simp

/-- The patch `update_tenant` is called with. -/
def UpdateTenantRequest.patch (req : UpdateTenantRequest) : TenantPatch :=
  { name := req.name
    language := req.language
    quotaLimit := req.quotaLimit
    requestCount := req.requestCount
    periodStart := req.periodStart
    periodEnd := req.periodEnd }

theorem entriesApplied_of_ofJson {entries : List (String × Json)} {req : UpdateTenantRequest}
    (reads : UpdateTenantRequest.ofJson (.object entries) = some req) (old : TenantInfo) :
    EntriesApplied entries old (req.patch.apply old) := by
  simp only [UpdateTenantRequest.ofJson, Option.bind_eq_bind, Option.bind_eq_some_iff] at reads
  obtain ⟨field, fields, name, nameReads, language, languageReads, quotaLimit, quotaReads,
    requestCount, countReads, periodStart, startReads, periodEnd, endReads, same⟩ := reads
  cases same
  have byName : field = Json.slot entries := by
    simp only [Json.fields] at fields
    split at fields <;> cases fields
    rfl
  subst byName
  exact
    { name := fieldSet_of_optional nameReads
      language := fieldSet_of_optional languageReads
      quotaLimit := fieldSet_of_optional quotaReads
      requestCount := fieldSet_of_optional countReads
      periodStart := periodSet_of_default (slot_ne_exhausted _ _) startReads
      periodEnd := periodSet_of_default (slot_ne_exhausted _ _) endReads
      id := rfl
      suspendedAt := rfl
      createdAt := rfl }

/-! ## The handler -/

section

variable [Driver] {hashKey : String → String} {parseUri : String → Option OriginUri}
  {store after : Store} {caller : KeyRecord} {inputs : HandlerInputs} {id : String}
  {body : Option Json} {response : ApiResponse}

omit [Driver] in
theorem start_updateTenant {json : Json} {req : UpdateTenantRequest}
    (decoded : UpdateTenantRequest.ofJson json = some req) (valid : req.validate = []) :
    (ApiRoute.updateTenant id (some json)).start parseUri store caller =
      .call (.updateTenant id req.patch) := by
  simp [ApiRoute.start, decoded, updateTenant, validBody, valid, Handling.ofBody, Except.map,
    UpdateTenantRequest.patch]

/-- A body that is turned down changes nothing; one that is accepted is run. -/
theorem handle_updateTenant_cases
    (handled : (ApiRoute.updateTenant id body).handle hashKey parseUri store caller inputs =
      some (after, response)) :
    (after = store ∧
      ∃ error, (error = .jsonRejection ∨ error = .validation) ∧ response = .reject error) ∨
    ∃ json req result, body = some json ∧ UpdateTenantRequest.ofJson json = some req ∧
      req.validate = [] ∧
      store.runAlone hashKey inputs.actions (Op.updateTenant id req.patch).entry =
        some (after, result) ∧
      result.answer inputs.sqlError = some response := by
  cases read : body.bind UpdateTenantRequest.ofJson with
  | none =>
      left
      have turned : (ApiRoute.updateTenant id body).start parseUri store caller =
          .reject .jsonRejection := by
        simp [ApiRoute.start, read, updateTenant, validBody, Handling.ofBody, Except.map]
      rw [ApiRoute.handle, turned] at handled
      cases handled
      exact ⟨rfl, .jsonRejection, Or.inl rfl, rfl⟩
  | some req =>
      obtain ⟨json, rfl, decoded⟩ := Option.bind_eq_some_iff.mp read
      by_cases valid : req.validate = []
      · right
        obtain ⟨result, ran, answered⟩ :=
          ApiRoute.handle_call (start_updateTenant decoded valid) handled
        exact ⟨json, req, result, rfl, decoded, valid, ran, answered⟩
      · left
        have turned : (ApiRoute.updateTenant id (some json)).start parseUri store caller =
            .reject .validation := by
          simp [ApiRoute.start, read, updateTenant, validBody, valid, Handling.ofBody, Except.map]
        rw [ApiRoute.handle, turned] at handled
        cases handled
        exact ⟨rfl, .validation, Or.inr rfl, rfl⟩

/-- What an accepted body does to the store, and the answer to it. -/
theorem handle_updateTenant_accepted
    (handled : (ApiRoute.updateTenant id body).handle hashKey parseUri store caller inputs =
      some (after, response)) :
    (after = store ∧ ∃ error, (error = .jsonRejection ∨ error = .validation ∨ error = .notFound) ∧
      response = .reject error) ∨
    ∃ json req old, body = some json ∧ UpdateTenantRequest.ofJson json = some req ∧
      store.getTenant id = some old ∧
      (∀ other, after.getTenant other =
        if other = id then some (req.patch.apply old) else store.getTenant other) ∧
      (response = .reject (.internal inputs.sqlError) ∧ after.pool = store.pool ∨
        response = .json (TenantMetadata.ofInfo (req.patch.apply old)).toJson ∧
          after.pool = store.pool.updateTenant id (req.patch.apply old)) := by
  rcases handle_updateTenant_cases handled with ⟨same, error, kind, rejected⟩ |
    ⟨json, req, result, given, decoded, valid, ran, answered⟩
  · left
    refine ⟨same, error, ?_, rejected⟩
    rcases kind with rfl | rfl
    · exact Or.inl rfl
    · exact Or.inr (Or.inl rfl)
  · rcases Store.runAlone_updateTenant_cases ran with ⟨unknown, rfl, rfl⟩ |
      ⟨old, _, _, _, _, found, _, ended⟩
    · left
      cases answered
      exact ⟨rfl, .notFound, Or.inr (Or.inr rfl), rfl⟩
    · right
      refine ⟨json, req, old, given, decoded, found, ?_, ?_⟩
      · intro other
        rcases ended with ⟨_, rfl, _⟩ | ⟨_, _, rfl⟩
        · exact getTenant_insert store (req.patch.apply old) id other
        · exact getTenant_insert store (req.patch.apply old) id other
      · rcases ended with ⟨_, rfl, rfl⟩ | ⟨_, rfl, rfl⟩
        · cases answered
          exact Or.inl ⟨rfl, rfl⟩
        · cases answered
          exact Or.inr ⟨rfl, rfl⟩

theorem handle_getTenant {info : TenantInfo} (found : store.getTenant id = some info) :
    (ApiRoute.getTenant id).handle hashKey parseUri store caller inputs =
      some (store, .json (TenantMetadata.ofInfo info).toJson) := by
  simp [ApiRoute.handle, ApiRoute.start, getTenant, found]

/-- A `PATCH` with an object sets what its entries ask for and nothing else, in the
record of this tenant and of no other; the answer to it is what `GET` answers from
then on. -/
theorem patch_sets_what_body_names {entries : List (String × Json)}
    (handled : (ApiRoute.updateTenant id (some (.object entries))).handle hashKey parseUri store
      caller inputs = some (after, response)) :
    (after = store ∧ ∃ error, (error = .jsonRejection ∨ error = .validation ∨ error = .notFound) ∧
      response = .reject error) ∨
    ∃ old new, store.getTenant id = some old ∧ EntriesApplied entries old new ∧
      (∀ other, after.getTenant other =
        if other = id then some new else store.getTenant other) ∧
      (∀ reader later, (ApiRoute.getTenant id).handle hashKey parseUri after reader later =
        some (after, .json (TenantMetadata.ofInfo new).toJson)) ∧
      (response = .reject (.internal inputs.sqlError) ∧ after.pool = store.pool ∨
        response = .json (TenantMetadata.ofInfo new).toJson ∧
          after.pool = store.pool.updateTenant id new) := by
  rcases handle_updateTenant_accepted handled with refused |
    ⟨json, req, old, given, decoded, found, cached, answered⟩
  · exact Or.inl refused
  · right
    cases given
    refine ⟨old, req.patch.apply old, found, entriesApplied_of_ofJson decoded old, cached, ?_,
      answered⟩
    intro reader later
    apply handle_getTenant
    rw [cached, if_pos rfl]

end

section

open scoped DefaultBackend

/-- A new limit, and no period any more; the last entry is none of the fields. -/
def limitEntries : List (String × Json) :=
  [("quota_limit", .unsigned 500), ("name", .null), ("period_start", .null),
    ("plan", .string "pro")]

def sampleUriParser (_ : String) : Option OriginUri := none

def patchInputs : HandlerInputs :=
  { actions := [sampleInput 0 4, sampleInput 0 4, sampleInput 0 4], sqlError := "" }

theorem patch_sets_limit :
    ∃ (world : World) (old new : TenantInfo), World.Reachable sampleHash world ∧
      world.store.getTenant (sampleId 1).text = some old ∧ old.quotaLimit = 0 ∧
      new.quotaLimit = 500 ∧ EntriesApplied limitEntries old new := by
  obtain ⟨world, run, outcome⟩ := World.exists_run sampleHash (fun _ _ => true) tenantSetup
    (fun world => decide ((world.store.getTenant (sampleId 1).text).map TenantInfo.quotaLimit =
        some 0) &&
      ((ApiRoute.updateTenant (sampleId 1).text (some (.object limitEntries))).handle sampleHash
        sampleUriParser world.store sampleAdminKey patchInputs).any
          fun (answer : Store × ApiResponse) => decide (answer.2.status = 200))
    (by decide +kernel)
  rw [Bool.and_eq_true, decide_eq_true_eq] at outcome
  obtain ⟨unlimited, answered⟩ := outcome
  obtain ⟨⟨after, response⟩, handled, accepted⟩ := (Option.any_eq_true _ _).mp answered
  have status : response.status = 200 := of_decide_eq_true accepted
  rcases patch_sets_what_body_names handled with ⟨_, error, kind, rejected⟩ |
    ⟨old, new, found, applied, _⟩
  · rw [rejected] at status
    rcases kind with rfl | rfl | rfl <;> cases status
  · rw [found] at unlimited
    have limit : new.quotaLimit = 500 := by
      have asked := applied.quotaLimit
      simp only [FieldSet, limitEntries, Json.slot] at asked
      simpa using asked.symm
    exact ⟨world, old, new, ⟨_, run.weaken fun _ _ _ => trivial⟩, found,
      by simpa using unlimited, limit, applied⟩

end

/-! ## Patching with the metadata -/

/-- Calls that create or update a tenant are made by the handlers. -/
def Op.FromHandlers : Op → Prop
  | .createTenant name language quotaLimit periodStart periodEnd =>
      ∃ body, SpellServer.createTenant body =
        .ok (.createTenant name language quotaLimit periodStart periodEnd)
  | .updateTenant id patch =>
      ∃ body, SpellServer.updateTenant id body = .ok (.updateTenant id patch)
  | _ => True

def tenantsFromHandlers [Driver] (_ : World) (event : Event) : Prop :=
  ∀ ticket op, event = .call ticket op → op.FromHandlers

def ValidName (name : String) : Prop := 1 ≤ name.length ∧ name.length ≤ 200

theorem lengthBetween_eq_nil_iff {field : String} {length : Option ℕ} {min max : ℕ} :
    lengthBetween field length min max = [] ↔ ∀ given ∈ length, min ≤ given ∧ given ≤ max := by
  cases length with
  | none => simp [lengthBetween]
  | some given => simp [lengthBetween]

theorem validateLanguage_eq_nil_iff {language : Option String} :
    validateLanguage language = [] ↔ ∀ code ∈ language, isValidLanguageCode code = true := by
  cases language with
  | none => simp [validateLanguage]
  | some code => simp [validateLanguage]

theorem CreateTenantRequest.validate_eq_nil_iff {req : CreateTenantRequest} :
    req.validate = [] ↔
      ValidName req.name ∧ ∀ code ∈ req.language, isValidLanguageCode code = true := by
  have name : lengthBetween "name" (some req.name.length) 1 200 = [] ↔ ValidName req.name := by
    rw [lengthBetween_eq_nil_iff]
    simp [ValidName]
  unfold validate
  split
  · rename_i none
    rw [validateCreateTenantRequest, validateLanguage_eq_nil_iff]
    exact ⟨fun valid => ⟨name.mp none, valid⟩, fun valid => valid.2⟩
  · rename_i errors
    exact ⟨fun valid => absurd valid errors, fun valid => absurd (name.mpr valid.1) errors⟩

theorem UpdateTenantRequest.validate_eq_nil_iff {req : UpdateTenantRequest} :
    req.validate = [] ↔
      (∀ name ∈ req.name, ValidName name) ∧
        ∀ code ∈ req.language, isValidLanguageCode code = true := by
  have name : lengthBetween "name" (req.name.map String.length) 1 200 = [] ↔
      ∀ name ∈ req.name, ValidName name := by
    rw [lengthBetween_eq_nil_iff]
    simp [ValidName]
  unfold validate
  split
  · rename_i none
    rw [validateUpdateTenantRequest, validateLanguage_eq_nil_iff]
    exact ⟨fun valid => ⟨name.mp none, valid⟩, fun valid => valid.2⟩
  · rename_i errors
    exact ⟨fun valid => absurd valid errors, fun valid => absurd (name.mpr valid.1) errors⟩

/-- The texts the handlers accept. -/
abbrev Op.ValidProfile (op : Op) : Prop :=
  op.ProfileFits ValidName fun code => isValidLanguageCode code = true

theorem Op.FromHandlers.validProfile {op : Op} (made : op.FromHandlers) : op.ValidProfile := by
  cases op with
  | createTenant name language quotaLimit periodStart periodEnd =>
      obtain ⟨body, accepted⟩ := made
      unfold SpellServer.createTenant at accepted
      cases valid : validBody CreateTenantRequest.validate body with
      | error error =>
          rw [valid] at accepted
          cases accepted
      | ok req =>
          rw [valid] at accepted
          cases accepted
          exact CreateTenantRequest.validate_eq_nil_iff.mp (validBody_ok valid)
  | updateTenant id patch =>
      obtain ⟨body, accepted⟩ := made
      unfold SpellServer.updateTenant at accepted
      cases valid : validBody UpdateTenantRequest.validate body with
      | error error =>
          rw [valid] at accepted
          cases accepted
      | ok req =>
          rw [valid] at accepted
          cases accepted
          obtain ⟨name, language⟩ := UpdateTenantRequest.validate_eq_nil_iff.mp (validBody_ok valid)
          exact ⟨name, language⟩
  | _ => trivial

/-- The metadata, read as the body of a `PATCH`. -/
def TenantMetadata.asPatch (metadata : TenantMetadata) : UpdateTenantRequest :=
  { name := some metadata.name
    language := some metadata.language
    quotaLimit := some metadata.quotaLimit
    requestCount := some metadata.requestCount
    periodStart := some metadata.periodStart
    periodEnd := some metadata.periodEnd }

theorem ofJson_toJson (metadata : TenantMetadata) :
    UpdateTenantRequest.ofJson metadata.toJson = some metadata.asPatch := by
  have read : ∀ period, (Json.Slot.present (Json.ofNullable period)).withDefault none
      (deserializePresentAsSome (Json.nullable Json.u64)) = some (some period) := by
    intro period
    simp [Json.Slot.withDefault, deserializePresentAsSome]
  simp [UpdateTenantRequest.ofJson, TenantMetadata.toJson, TenantMetadata.entries, Json.fields,
    Json.slot, Json.Slot.optional, read, TenantMetadata.asPatch]

theorem asPatch_apply (info : TenantInfo) :
    (TenantMetadata.ofInfo info).asPatch.patch.apply info = info := rfl

/-- The names and languages of all tenants are valid ones, so the metadata that
`GET` answers with is an acceptable body; patching a tenant with it changes no
tenant, and is answered with it. -/
theorem patch_with_own_metadata_changes_nothing [Driver] {hashKey : String → String}
    {parseUri : String → Option OriginUri} {world : World} {after seen : Store}
    {caller reader : KeyRecord} {inputs readInputs : HandlerInputs} {id : String} {body : Json}
    {response : ApiResponse}
    (reached : World.ReachableWhen hashKey tenantsFromHandlers world)
    (got : (ApiRoute.getTenant id).handle hashKey parseUri world.store reader readInputs =
      some (seen, .json body))
    (handled : (ApiRoute.updateTenant id (some body)).handle hashKey parseUri world.store caller
      inputs = some (after, response)) :
    (∀ other, after.getTenant other = world.store.getTenant other) ∧
      (response = .json body ∨ response = .reject (.internal inputs.sqlError)) := by
  obtain ⟨events, run⟩ := reached
  have fit : world.ProfilesFit ValidName fun code => isValidLanguageCode code = true := by
    apply World.profilesFit_of_reachable (by decide +kernel)
    exact ⟨events, run.weaken fun _ _ made ticket op called => (made ticket op called).validProfile⟩
  cases found : world.store.getTenant id with
  | none => simp [ApiRoute.handle, ApiRoute.start, getTenant, found, Handling.reject,
      ApiResponse.reject] at got
  | some info =>
      rw [handle_getTenant found] at got
      cases got
      have texts := fit.store.cached found
      have valid : (TenantMetadata.ofInfo info).asPatch.validate = [] := by
        apply UpdateTenantRequest.validate_eq_nil_iff.mpr
        simpa [TenantMetadata.asPatch, TenantMetadata.ofInfo, TenantInfo.Fits] using texts
      obtain ⟨result, ran, answered⟩ :=
        ApiRoute.handle_call (start_updateTenant (ofJson_toJson _) valid) handled
      rcases Store.runAlone_updateTenant_cases ran with ⟨unknown, _⟩ |
        ⟨old, _, _, _, _, known, _, ended⟩
      · cases unknown.symm.trans found
      · cases known.symm.trans found
        have same := asPatch_apply info
        rcases ended with ⟨_, rfl, rfl⟩ | ⟨_, rfl, rfl⟩
        · cases answered
          refine ⟨?_, Or.inr rfl⟩
          intro other
          rw [same, getTenant_insert]
          split
          · rename_i own
            rw [own, found]
          · rfl
        · cases answered
          rw [same]
          refine ⟨?_, Or.inl rfl⟩
          intro other
          have kept := getTenant_insert world.store info id other
          split at kept
          · rename_i own
            rw [own, found]
            rw [own] at kept
            exact kept
          · exact kept

open scoped DefaultBackend

theorem patch_with_own_metadata_of_new_tenant :
    ∃ (world : World) (after : Store) (body : Json) (response : ApiResponse),
      World.Reachable sampleHash world ∧
      (ApiRoute.updateTenant (sampleId 1).text (some body)).handle sampleHash sampleUriParser
        world.store sampleAdminKey patchInputs = some (after, response) ∧
      (∀ other, after.getTenant other = world.store.getTenant other) := by
  obtain ⟨world, run, outcome⟩ := World.exists_run sampleHash (fun _ _ => true) tenantSetup
    (fun world => (world.store.getTenant (sampleId 1).text).any fun info =>
      ((ApiRoute.updateTenant (sampleId 1).text
        (some (TenantMetadata.ofInfo info).toJson)).handle sampleHash sampleUriParser world.store
          sampleAdminKey patchInputs).isSome)
    (by decide +kernel)
  obtain ⟨info, found, answered⟩ := (Option.any_eq_true _ _).mp outcome
  obtain ⟨⟨after, response⟩, handled⟩ := Option.isSome_iff_exists.mp answered
  have made : ∀ event ∈ tenantSetup, ∀ ticket op, event = .call ticket op → op.FromHandlers := by
    intro event member ticket op called
    subst called
    simp only [tenantSetup, List.mem_cons, List.not_mem_nil, or_false, reduceCtorEq, false_or,
      Event.call.injEq] at member
    obtain ⟨rfl, rfl⟩ := member
    exact ⟨some ⟨"acme", none, none, none, none⟩, by decide⟩
  have reached : World.ReachableWhen sampleHash tenantsFromHandlers world :=
    ⟨_, (run.strengthen made).weaken fun _ _ allowed => allowed.2⟩
  have got : (ApiRoute.getTenant (sampleId 1).text).handle sampleHash sampleUriParser world.store
      sampleAdminKey patchInputs =
        some (world.store, .json (TenantMetadata.ofInfo info).toJson) := handle_getTenant found
  exact ⟨world, after, _, response, reached.reachable, handled,
    (patch_with_own_metadata_changes_nothing reached got handled).1⟩

end SpellServer
