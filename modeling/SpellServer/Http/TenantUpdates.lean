import SpellServer.Http.SpellRoutes
import SpellServer.Store.RoundTrip

/-!
# Tenant updates

`update_tenant` patches the cached record and then writes it.  Where the write
succeeds, exactly what was supplied has changed; where it fails, the patched
record stays in the cache.
-/

namespace SpellServer

open Library

section

variable [Driver]

/-! ## What later calls see -/

/-- The answers to calls of `try_consume_quota`, one after the other. -/
def Store.quotaDecisions (input : Input) (store : Store) : List String → List (Status Frame Result)
  | [] => []
  | tenantId :: later =>
      let outcome := (TenantFrame.consumeQuota tenantId).exec input store
      outcome.next :: outcome.store.quotaDecisions input later

def SpellService.withStore (service : SpellService) (store : Store) : SpellService :=
  { service with app := { service.app with store } }

/-- Later calls are told the same of every tenant. -/
structure TenantsUnchanged (store after : Store) : Prop where
  records : ∀ id, after.getTenant id = store.getTenant id
  decisions : ∀ input tenantIds,
    after.quotaDecisions input tenantIds = store.quotaDecisions input tenantIds
  languages : ∀ (service : SpellService) tenantId req,
    (service.withStore after).requestedLanguage tenantId req =
      (service.withStore store).requestedLanguage tenantId req

/-- A decision depends on the cached records, and so does what it leaves. -/
theorem consumeQuota_congr {store after : Store}
    (same : ∀ id, after.getTenant id = store.getTenant id) (input : Input) (tenantId : String) :
    ((TenantFrame.consumeQuota tenantId).exec input after).next =
        ((TenantFrame.consumeQuota tenantId).exec input store).next ∧
      ∀ id, ((TenantFrame.consumeQuota tenantId).exec input after).store.getTenant id =
        ((TenantFrame.consumeQuota tenantId).exec input store).store.getTenant id := by
  have known : after.tenants.lookup tenantId = store.tenants.lookup tenantId := same tenantId
  simp only [TenantFrame.exec, known]
  cases store.tenants.lookup tenantId with
  | none => exact ⟨rfl, same⟩
  | some info =>
      dsimp only
      by_cases spent : info.exhausted = true
      · rw [if_pos spent, if_pos spent]
        exact ⟨rfl, same⟩
      · rw [if_neg spent, if_neg spent]
        refine ⟨rfl, ?_⟩
        intro id
        rw [getTenant_insert, getTenant_insert, same]

theorem tenantsUnchanged_iff {store after : Store} :
    TenantsUnchanged store after ↔ ∀ id, after.getTenant id = store.getTenant id := by
  constructor
  · exact TenantsUnchanged.records
  · intro same
    refine ⟨same, ?_, ?_⟩
    · intro input tenantIds
      induction tenantIds generalizing store after with
      | nil => rfl
      | cons tenantId later induction =>
          obtain ⟨next, left⟩ := consumeQuota_congr same input tenantId
          simp only [Store.quotaDecisions, next, induction left]
    · intro service tenantId req
      simp only [SpellService.requestedLanguage, SpellService.withStore, same]

/-! ## What a patch supplies -/

/-- A supplied field has the supplied value; another one is as before. -/
def FieldPatched {α : Type} (supplied : Option α) (old new : α) : Prop :=
  (∀ value, supplied = some value → new = value) ∧ (supplied = none → new = old)

omit [Driver] in
theorem fieldPatched_getD {α : Type} (supplied : Option α) (old : α) :
    FieldPatched supplied old (supplied.getD old) := by
  cases supplied with
  | none =>
      constructor
      · intro value same
        cases same
      · intro _
        rfl
  | some value =>
      constructor
      · intro other same
        cases same
        rfl
      · intro same
        cases same

/-- The six fields of a patch, and what no patch can set. -/
structure RecordPatched (patch : TenantPatch) (old info : TenantInfo) : Prop where
  name : FieldPatched patch.name old.name info.name
  language : FieldPatched patch.language old.language info.language
  quotaLimit : FieldPatched patch.quotaLimit old.quotaLimit info.quotaLimit
  requestCount : FieldPatched patch.requestCount old.requestCount info.requestCount
  periodStart : FieldPatched patch.periodStart old.periodStart info.periodStart
  periodEnd : FieldPatched patch.periodEnd old.periodEnd info.periodEnd
  id : info.id = old.id
  suspendedAt : info.suspendedAt = old.suspendedAt
  createdAt : info.createdAt = old.createdAt

omit [Driver] in
theorem recordPatched_apply (patch : TenantPatch) (old : TenantInfo) :
    RecordPatched patch old (patch.apply old) where
  name := fieldPatched_getD patch.name old.name
  language := fieldPatched_getD patch.language old.language
  quotaLimit := fieldPatched_getD patch.quotaLimit old.quotaLimit
  requestCount := fieldPatched_getD patch.requestCount old.requestCount
  periodStart := fieldPatched_getD patch.periodStart old.periodStart
  periodEnd := fieldPatched_getD patch.periodEnd old.periodEnd
  id := rfl
  suspendedAt := rfl
  createdAt := rfl

/-- The columns that `update_tenant` writes. -/
def TenantInfo.writtenTo (info : TenantInfo) (row : TenantRow) : TenantRow :=
  { row with
    name := info.name
    language := info.language
    quotaLimit := info.quotaLimit.toInt64
    requestCount := info.requestCount.toInt64
    periodStart := info.periodStart.map UInt64.toInt64
    periodEnd := info.periodEnd.map UInt64.toInt64 }

/-- The record of one tenant was patched, in the cache and in the table, and nothing else. -/
structure TenantPatched (patch : TenantPatch) (id : String) (store after : Store)
    (info : TenantInfo) : Prop where
  record : ∃ old, store.getTenant id = some old ∧ RecordPatched patch old info
  cached : after.getTenant id = some info
  others : ∀ other, other ≠ id → after.getTenant other = store.getTenant other
  rows : after.pool.tenants =
    store.pool.tenants.map fun row => if row.id = id then info.writtenTo row else row
  otherRows : after.pool.apiKeys = store.pool.apiKeys ∧
    after.pool.tenantOrigins = store.pool.tenantOrigins ∧
    after.pool.dictionaries = store.pool.dictionaries
  otherCaches : after.keys = store.keys ∧ after.originsAny = store.originsAny ∧
    after.originsByTenant = store.originsByTenant ∧ after.dictionaries = store.dictionaries

/-! ## Failures -/

/-- What `PATCH /tenants/{id}` makes of the result; `none` is a panic. -/
def updateTenantAnswer (reason : String) : Result → Option (Except AppError TenantInfo)
  | .updatedTenant (some tenant) => some (.ok tenant)
  | .updatedTenant none => some (.error .notFound)
  | .err => some (.error (.internal reason))
  | _ => none

/-- A call that fails is answered with a 500 and leaves the cached tenants as they were; one
that succeeds patches one record. -/
structure UpdateAllOrNothing (patch : TenantPatch) (id : String) (store after : Store)
    (result : Result) : Prop where
  answered : result = .err → ∀ reason, ∃ error,
    updateTenantAnswer reason result = some (.error error) ∧ error.intoResponse.status = 500
  failed : result = .err → TenantsUnchanged store after
  patched : ∀ info, result = .updatedTenant (some info) →
    TenantPatched patch id store after info

/-- The UPDATE fails, after the patch has changed the cached record. -/
def UpdateFailsLate (store : Store) (id : String) (patch : TenantPatch) (inputs : List Input) :
    Prop :=
  ∃ old first second third rest, store.getTenant id = some old ∧
    inputs = first :: second :: third :: rest ∧ third.sql = false ∧ patch.apply old ≠ old

section

variable {hashKey : String → String} {store after : Store} {inputs : List Input} {result : Result}
  {id : String} {patch : TenantPatch}

omit [Driver] in
theorem tenantPatched_of_update {old : TenantInfo} (found : store.getTenant id = some old) :
    TenantPatched patch id store
      { store with
        tenants := store.tenants.insert id (patch.apply old)
        pool := store.pool.updateTenant id (patch.apply old) }
      (patch.apply old) where
  record := ⟨old, found, recordPatched_apply patch old⟩
  cached := by
    have own := getTenant_insert store (patch.apply old) id id
    rw [if_pos rfl] at own
    exact own
  others := by
    intro other another
    have kept := getTenant_insert store (patch.apply old) id other
    rw [if_neg another] at kept
    exact kept
  rows := rfl
  otherRows := ⟨rfl, rfl, rfl⟩
  otherCaches := ⟨rfl, rfl, rfl, rfl⟩

/-- The cached records stay only where the patch sets nothing anew. -/
theorem patched_cache_unchanged_iff {old : TenantInfo} (found : store.getTenant id = some old) :
    TenantsUnchanged store { store with tenants := store.tenants.insert id (patch.apply old) } ↔
      patch.apply old = old := by
  rw [tenantsUnchanged_iff]
  constructor
  · intro same
    have own := same id
    rw [getTenant_insert, if_pos rfl, found] at own
    exact Option.some.inj own
  · intro same other
    rw [getTenant_insert, same]
    by_cases own : other = id
    · rw [if_pos own, own, found]
    · rw [if_neg own]

theorem tenant_update_iff
    (ran : store.runAlone hashKey inputs (Op.updateTenant id patch).entry = some (after, result)) :
    UpdateAllOrNothing patch id store after result ↔ ¬UpdateFailsLate store id patch inputs := by
  obtain ⟨unknown, rfl, rfl⟩ | ⟨old, first, second, third, rest, found, rfl, ended⟩ :=
    Store.runAlone_updateTenant_cases ran
  · refine iff_of_true ?_ ?_
    · constructor
      · intro same
        cases same
      · intro same
        cases same
      · intro info same
        cases same
    · rintro ⟨old, _, _, _, _, found, _⟩
      rw [unknown] at found
      cases found
  · have late : UpdateFailsLate store id patch (first :: second :: third :: rest) ↔
        third.sql = false ∧ patch.apply old ≠ old := by
      constructor
      · rintro ⟨other, _, _, _, _, again, same, fails, changed⟩
        cases same
        cases found.symm.trans again
        exact ⟨fails, changed⟩
      · intro holds
        exact ⟨old, first, second, third, rest, found, rfl, holds⟩
    rw [late]
    rcases ended with ⟨fails, rfl, rfl⟩ | ⟨reaches, rfl, rfl⟩
    · constructor
      · intro whole holds
        exact holds.2 ((patched_cache_unchanged_iff found).mp (whole.failed rfl))
      · intro apart
        have same : patch.apply old = old := not_not.mp fun changed => apart ⟨fails, changed⟩
        refine ⟨?_, fun _ => (patched_cache_unchanged_iff found).mpr same, ?_⟩
        · intro _ reason
          exact ⟨.internal reason, rfl, rfl⟩
        · intro info same
          cases same
    · refine iff_of_true ?_ ?_
      · constructor
        · intro same
          cases same
        · intro same
          cases same
        · intro info same
          cases same
          exact tenantPatched_of_update found
      · intro holds
        rw [reaches] at holds
        cases holds.1

end

end

open scoped DefaultBackend

/-- A limit of one request for the tenant of `tenantSetup`, whose period is cleared. -/
def limitPatch : TenantPatch :=
  { name := none
    language := none
    quotaLimit := some 1
    requestCount := none
    periodStart := some none
    periodEnd := some none }

/-- The actions of an update; `sql` is whether the UPDATE reaches the database. -/
def updateInputs (sql : Bool) : List Input :=
  [sampleInput 0 4, sampleInput 0 4, { sampleInput 0 4 with sql }]

theorem tenant_update_iff_for_limit : ∃ (world : World) (after : Store) (info : TenantInfo),
    World.Reachable sampleHash world ∧ info.quotaLimit = 1 ∧
    (UpdateAllOrNothing limitPatch (sampleId 1).text world.store after
        (.updatedTenant (some info)) ↔
      ¬UpdateFailsLate world.store (sampleId 1).text limitPatch (updateInputs true)) := by
  let info := limitPatch.apply (newTenant (sampleInput 1 4) "acme" none none none none)
  obtain ⟨world, run, outcome⟩ :=
    World.exists_run sampleHash sequential tenantSetup
      (fun world => (world.store.runAlone sampleHash (updateInputs true)
        (Op.updateTenant (sampleId 1).text limitPatch).entry).any
          fun (ended : Store × Result) => decide (ended.2 = .updatedTenant (some info)))
      (by decide +kernel)
  obtain ⟨⟨after, result⟩, ran, same⟩ := (Option.any_eq_true _ _).mp outcome
  cases of_decide_eq_true same
  exact ⟨world, after, info, ⟨_, run.weaken fun _ _ _ => trivial⟩, rfl, tenant_update_iff ran⟩

/-- The limit of a failed update is enforced: the second request is refused. -/
theorem failed_update_is_enforced : ¬∀ (hashKey : String → String) (world : World)
    (inputs : List Input) (id : String) (patch : TenantPatch) (after : Store) (result : Result),
    World.Reachable hashKey world →
      world.store.runAlone hashKey inputs (Op.updateTenant id patch).entry =
        some (after, result) →
      UpdateAllOrNothing patch id world.store after result := by
  intro claim
  let asked := [(sampleId 1).text, (sampleId 1).text]
  obtain ⟨world, run, outcome⟩ :=
    World.exists_run sampleHash sequential tenantSetup
      (fun world => (world.store.runAlone sampleHash (updateInputs false)
        (Op.updateTenant (sampleId 1).text limitPatch).entry).any
          fun (ended : Store × Result) => decide (ended.2 = .err) &&
            decide (ended.1.quotaDecisions (sampleInput 0 4) asked =
              [.returned (.quotaConsumed true), .returned (.quotaConsumed false)]) &&
            decide (world.store.quotaDecisions (sampleInput 0 4) asked =
              [.returned (.quotaConsumed true), .returned (.quotaConsumed true)]))
      (by decide +kernel)
  obtain ⟨⟨after, result⟩, ran, checked⟩ := (Option.any_eq_true _ _).mp outcome
  obtain ⟨⟨same, refused⟩, admitted⟩ : (result = .err ∧
      after.quotaDecisions (sampleInput 0 4) asked =
        [.returned (.quotaConsumed true), .returned (.quotaConsumed false)]) ∧
      world.store.quotaDecisions (sampleInput 0 4) asked =
        [.returned (.quotaConsumed true), .returned (.quotaConsumed true)] := by
    simpa only [Bool.and_eq_true, decide_eq_true_eq] using checked
  subst same
  have unchanged := (claim sampleHash world (updateInputs false) (sampleId 1).text limitPatch after
    .err ⟨_, run.weaken fun _ _ _ => trivial⟩ ran).failed rfl
  have decisions := unchanged.decisions (sampleInput 0 4) asked
  rw [refused, admitted] at decisions
  exact absurd decisions (by decide)

end SpellServer
