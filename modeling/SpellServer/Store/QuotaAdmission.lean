import SpellServer.Store.TenantPresence

/-!
# Exact quota admission

Check and increment are one action, so the answers of the quota checks follow
the cached counter under every schedule.  `quotaAnswers` reads the answers for
one tenant off a run.
-/

namespace SpellServer

open Library

section

variable [Driver]

/-- The answer that a quota check for the tenant returns in this event. -/
def quotaAnswer (id : String) (world : World) : Event → Option Bool
  | .act ticket input =>
      match world.tenantAt ticket with
      | some (.consumeQuota tenantId) =>
          match ((TenantFrame.consumeQuota tenantId).exec input world.store).next with
          | .returned (.quotaConsumed admitted) => if tenantId = id then some admitted else none
          | _ => none
      | _ => none
  | _ => none

/-- The answers in a run, in order. -/
def quotaAnswers (hashKey : String → String) (id : String) : World → List Event → List Bool
  | _, [] => []
  | world, event :: events =>
      match world.step hashKey event with
      | none => []
      | some next => (quotaAnswer id world event).toList ++ quotaAnswers hashKey id next events

/-- The patch applied to a tenant by this event. -/
def patchApplied (id : String) (world : World) : Event → Option TenantPatch
  | .act ticket _ =>
      match world.tenantAt ticket with
      | some (.updateApply target patch) => if target = id then some patch else none
      | _ => none
  | _ => none

/-- The event is no restart, and a patch of the tenant keeps limit and counter. -/
def keepsQuota (id : String) (world : World) (event : Event) : Bool :=
  !isRestart event &&
    (patchApplied id world event).all fun patch =>
      (world.store.getTenant id).all fun info =>
        (patch.apply info).quotaLimit = info.quotaLimit &&
          (patch.apply info).requestCount = info.requestCount

/-- The event is no restart, and no patch of the tenant sets its counter. -/
def keepsCounter (id : String) (world : World) (event : Event) : Bool :=
  !isRestart event && (patchApplied id world event).all fun patch => patch.requestCount.isNone

/-- What an answer says about the cached record. -/
theorem quotaAnswer_eq_some {id : String} {world : World} {event : Event} {admitted : Bool}
    (answer : quotaAnswer id world event = some admitted) :
    ∃ ticket input, event = .act ticket input ∧
      world.tenantAt ticket = some (.consumeQuota id) ∧
      admitted = (world.store.getTenant id).any fun info => !info.exhausted := by
  cases event with
  | act ticket input =>
      simp only [quotaAnswer] at answer
      split at answer
      · rename_i tenantId seen
        split at answer
        · rename_i result returned
          split at answer
          · rename_i same
            cases answer
            subst tenantId
            refine ⟨ticket, input, rfl, seen, ?_⟩
            simp only [TenantFrame.exec] at returned
            unfold Store.getTenant
            split at returned
            · rename_i missing
              cases returned
              rw [missing]
              rfl
            · rename_i info found
              rw [found]
              split at returned
              · rename_i exhausted
                cases returned
                simp [exhausted]
              · rename_i admits
                cases returned
                simp [admits]
          · cases answer
        · cases answer
      · cases answer
  | call ticket op => cases answer
  | background position succeeds => cases answer
  | restart now input => cases answer

/-- What one event does to the counter of a cached tenant. -/
inductive QuotaStep (id : String) (world : World) (event : Event) (info : TenantInfo) :
    TenantInfo → Prop where
  | admitted : quotaAnswer id world event = some true → info.exhausted = false →
      QuotaStep id world event info info.consume
  | refused : quotaAnswer id world event = some false → info.exhausted = true →
      QuotaStep id world event info info
  | patched {patch : TenantPatch} : quotaAnswer id world event = none →
      patchApplied id world event = some patch → QuotaStep id world event info (patch.apply info)
  | kept {next : TenantInfo} : quotaAnswer id world event = none →
      patchApplied id world event = none → next.requestCount = info.requestCount →
      next.quotaLimit = info.quotaLimit → QuotaStep id world event info next

section OneStep

variable {hashKey : String → String} {id : String} {world next : World} {info : TenantInfo}

private theorem quotaStep_of_act {ticket : ℕ} {input : Input} {frame : TenantFrame}
    (present : TenantsPresent world)
    (running : world.calls.frameAt ticket = some (.tenant frame))
    (found : world.store.getTenant id = some info) :
    ∃ after, (frame.exec input world.store).store.getTenant id = some after ∧
      QuotaStep id world (.act ticket input) info after := by
  have mine := World.tenantAt_of_frameAt running
  have kept : quotaAnswer id world (.act ticket input) = none →
      patchApplied id world (.act ticket input) = none →
      QuotaStep id world (.act ticket input) info info :=
    fun silent unpatched => .kept silent unpatched rfl rfl
  cases frame with
  | createInsert name language quotaLimit periodStart periodEnd =>
      refine ⟨info, ?_, kept (by simp [quotaAnswer, mine]) (by simp [patchApplied, mine])⟩
      simp only [TenantFrame.exec]
      split <;> exact found
  | createCache created =>
      refine ⟨info, ?_, kept (by simp [quotaAnswer, mine]) (by simp [patchApplied, mine])⟩
      simp only [TenantFrame.exec, Outcome.goto_store]
      rw [getTenant_insert, if_neg]
      · exact found
      · intro same
        rw [same, (present.creating mine).1] at found
        cases found
  | updateCheck target patch | suspendCheck target suspended =>
      refine ⟨info, ?_, kept (by simp [quotaAnswer, mine]) (by simp [patchApplied, mine])⟩
      simp only [TenantFrame.exec]
      split <;> exact found
  | updateWrite target snapshot | suspendWrite target suspended =>
      refine ⟨info, ?_, kept (by simp [quotaAnswer, mine]) (by simp [patchApplied, mine])⟩
      simp only [TenantFrame.exec]
      split <;> exact found
  | updateApply target patch =>
      obtain ⟨old, cached⟩ := Option.isSome_iff_exists.mp (present.checked mine rfl)
      have stored : world.store.tenants.lookup target = some old := cached
      simp only [TenantFrame.exec, stored, Outcome.goto_store]
      rw [getTenant_insert]
      by_cases same : id = target
      · subst target
        cases cached.symm.trans found
        rw [if_pos rfl]
        exact ⟨_, rfl, .patched (by simp [quotaAnswer, mine]) (by simp [patchApplied, mine])⟩
      · rw [if_neg same]
        exact ⟨info, found, kept (by simp [quotaAnswer, mine])
          (by simp [patchApplied, mine, Ne.symm same])⟩
  | suspendCache target suspendedAt =>
      simp only [TenantFrame.exec, Outcome.finish_store]
      rw [getTenant_modify]
      by_cases same : id = target
      · subst target
        rw [if_pos rfl, found]
        exact ⟨_, rfl, .kept (by simp [quotaAnswer, mine]) (by simp [patchApplied, mine]) rfl rfl⟩
      · rw [if_neg same]
        exact ⟨info, found, kept (by simp [quotaAnswer, mine]) (by simp [patchApplied, mine])⟩
  | consumeQuota target =>
      by_cases same : target = id
      · subst target
        have stored : world.store.tenants.lookup id = some info := found
        cases exhausted : info.exhausted with
        | true =>
            refine ⟨info, ?_, .refused ?_ exhausted⟩
            · simp [TenantFrame.exec, stored, exhausted, found]
            · simp [quotaAnswer, mine, TenantFrame.exec, stored, exhausted]
        | false =>
            refine ⟨info.consume, ?_, .admitted ?_ exhausted⟩
            · simp [TenantFrame.exec, stored, exhausted, getTenant_insert]
            · simp [quotaAnswer, mine, TenantFrame.exec, stored, exhausted]
      · refine ⟨info, ?_, kept ?_ (by simp [patchApplied, mine])⟩
        · simp only [TenantFrame.exec]
          split
          · exact found
          · split
            · exact found
            · rw [getTenant_insert, if_neg (Ne.symm same)]
              exact found
        · simp only [quotaAnswer, mine, same, if_false]
          split <;> rfl

theorem quotaStep {event : Event} (present : TenantsPresent world)
    (taken : world.step hashKey event = some next) (running : isRestart event = false)
    (found : world.store.getTenant id = some info) :
    ∃ after, next.store.getTenant id = some after ∧ QuotaStep id world event info after := by
  rcases World.tenant_cases taken with ⟨same, _, _, _, outside⟩ |
    ⟨ticket, input, frame, rfl, acting, rfl⟩ |
    ⟨position, succeeds, _, _, rfl, _, _, tenants, _⟩ | ⟨restarts, _⟩
  · refine ⟨info, ?_, .kept ?_ ?_ rfl rfl⟩
    · rw [Store.getTenant, same.tenants]
      exact found
    · cases event with
      | act ticket input => simp [quotaAnswer, World.tenantAt, outside ticket input rfl]
      | _ => rfl
    · cases event with
      | act ticket input => simp [patchApplied, World.tenantAt, outside ticket input rfl]
      | _ => rfl
  · exact quotaStep_of_act present acting found
  · refine ⟨info, ?_, .kept rfl rfl rfl rfl⟩
    rw [Store.getTenant, tenants]
    exact found
  · rw [running] at restarts
    cases restarts

end OneStep

/-- From a record with this limit and counter, these answers lead to this world:
what the limit leaves is admitted, and the counter has gone up by it. -/
def AdmitsExactly (id : String) (info : TenantInfo) (answers : List Bool) (finish : World) :
    Prop :=
  answers.count true =
      min answers.length (info.quotaLimit.toNat - info.requestCount.toNat) ∧
    ∃ after, finish.store.getTenant id = some after ∧
      after.requestCount.toNat = info.requestCount.toNat + answers.count true

theorem AdmitsExactly.congr {id : String} {first second : TenantInfo} {answers : List Bool}
    {finish : World} (exactly : AdmitsExactly id first answers finish)
    (sameCount : first.requestCount = second.requestCount)
    (sameLimit : first.quotaLimit = second.quotaLimit) :
    AdmitsExactly id second answers finish := by
  unfold AdmitsExactly
  rw [← sameCount, ← sameLimit]
  exact exactly

section Runs

variable {hashKey : String → String} {id : String} {start finish : World} {events : List Event}
  {info : TenantInfo}

private theorem quotaAnswers_cons {event : Event} {middle : World}
    (taken : start.step hashKey event = some middle) :
    quotaAnswers hashKey id start (event :: events) =
      (quotaAnswer id start event).toList ++ quotaAnswers hashKey id middle events := by
  simp [quotaAnswers, taken]

omit [Driver] in
private theorem toNat_consume (room : info.requestCount.toNat + 1 < 2 ^ 64) :
    info.consume.requestCount.toNat = info.requestCount.toNat + 1 := by
  simp only [TenantInfo.consume, UInt64.toNat_add, UInt64.reduceToNat]
  exact Nat.mod_eq_of_lt room

/-- Under an unchanged limit the first calls are admitted until it is reached. -/
theorem admissions_under_limit
    (run : World.RunWhen hashKey (fun before event => keepsQuota id before event = true)
      start events finish)
    (present : TenantsPresent start) (found : start.store.getTenant id = some info)
    (limited : 0 < info.quotaLimit) :
    AdmitsExactly id info (quotaAnswers hashKey id start events) finish := by
  induction run generalizing info with
  | nil state => exact ⟨by simp [quotaAnswers], info, found, by simp [quotaAnswers]⟩
  | @cons start middle finish event events allowed taken rest induction =>
      simp only [keepsQuota, Bool.and_eq_true, Bool.not_eq_true'] at allowed
      obtain ⟨running, unpatched⟩ := allowed
      obtain ⟨between, cached, stepped⟩ := quotaStep present taken running found
      have induction := induction (present.step taken) cached
      rw [quotaAnswers_cons taken]
      cases stepped with
      | admitted answer admits =>
          have below : info.requestCount.toNat < info.quotaLimit.toNat := by
            rw [← Bool.not_eq_true, TenantInfo.exhausted_iff] at admits
            have different : info.quotaLimit ≠ 0 := UInt64.pos_iff_ne_zero.mp limited
            have short : ¬info.quotaLimit ≤ info.requestCount := fun reached =>
              admits ⟨different, reached⟩
            exact UInt64.lt_iff_toNat_lt.mp (UInt64.not_le.mp short)
          have bound := info.quotaLimit.toNat_lt
          have grown := toNat_consume (show info.requestCount.toNat + 1 < 2 ^ 64 by omega)
          have sameLimit : info.consume.quotaLimit = info.quotaLimit := rfl
          obtain ⟨counted, after, reached, total⟩ := induction limited
          rw [sameLimit, grown] at counted
          rw [grown] at total
          rw [answer, Option.toList_some, List.singleton_append, AdmitsExactly,
            List.count_cons_self, List.length_cons]
          exact ⟨by omega, after, reached, by omega⟩
      | refused answer exhausted =>
          have above : info.quotaLimit.toNat ≤ info.requestCount.toNat :=
            UInt64.le_iff_toNat_le.mp (info.exhausted_iff.mp exhausted).2
          obtain ⟨counted, after, reached, total⟩ := induction limited
          rw [answer, Option.toList_some, List.singleton_append, AdmitsExactly,
            List.length_cons, List.count_cons_of_ne (by decide)]
          exact ⟨by omega, after, reached, total⟩
      | patched silent applied =>
          simp only [applied, found, Option.all_some, Bool.and_eq_true,
            decide_eq_true_eq] at unpatched
          rw [silent, Option.toList_none, List.nil_append]
          exact (induction (unpatched.1 ▸ limited)).congr unpatched.2 unpatched.1
      | kept silent _ sameCount sameLimit =>
          rw [silent, Option.toList_none, List.nil_append]
          exact (induction (sameLimit ▸ limited)).congr sameCount sameLimit

/-- The counter grows by the admissions, modulo its width. -/
theorem admissions_grow_counter
    (run : World.RunWhen hashKey (fun before event => keepsCounter id before event = true)
      start events finish)
    (present : TenantsPresent start) (found : start.store.getTenant id = some info) :
    ∃ after, finish.store.getTenant id = some after ∧
      after.requestCount.toNat =
        (info.requestCount.toNat + (quotaAnswers hashKey id start events).count true) %
          2 ^ 64 := by
  induction run generalizing info with
  | nil state =>
      refine ⟨info, found, ?_⟩
      rw [quotaAnswers, List.count_nil, Nat.add_zero,
        Nat.mod_eq_of_lt info.requestCount.toNat_lt]
  | @cons start middle finish event events allowed taken rest induction =>
      simp only [keepsCounter, Bool.and_eq_true, Bool.not_eq_true'] at allowed
      obtain ⟨running, unpatched⟩ := allowed
      obtain ⟨between, cached, stepped⟩ := quotaStep present taken running found
      obtain ⟨after, reached, total⟩ := induction (present.step taken) cached
      refine ⟨after, reached, ?_⟩
      rw [quotaAnswers_cons taken]
      cases stepped with
      | admitted answer admits =>
          have grown : info.consume.requestCount.toNat =
              (info.requestCount.toNat + 1) % 2 ^ 64 := by
            simp [TenantInfo.consume, UInt64.toNat_add]
          rw [grown, Nat.mod_add_mod] at total
          rw [answer, Option.toList_some, List.singleton_append, List.count_cons_self, total]
          congr 1
          omega
      | refused answer exhausted =>
          rw [answer, Option.toList_some, List.singleton_append,
            List.count_cons_of_ne (by decide), total]
      | patched silent applied =>
          rename_i patch
          simp only [applied, Option.all_some, Option.isNone_iff_eq_none] at unpatched
          have sameCount : (patch.apply info).requestCount = info.requestCount := by
            simp [TenantPatch.apply, unpatched]
          rw [silent, Option.toList_none, List.nil_append, total, sameCount]
      | kept silent _ sameCount _ =>
          rw [silent, Option.toList_none, List.nil_append, total, sameCount]

end Runs

/-- Quota admission is exact under every schedule: under an unchanged limit the
calls left of it are admitted and no more; an admission is below a limit in
force, a refusal is at one; and the counter has grown by the admissions since
it was last set. -/
theorem quota_admission_exact (hashKey : String → String) (id : String) :
    (∀ start events finish info, World.Reachable hashKey start →
      World.RunWhen hashKey (fun before event => keepsQuota id before event = true)
        start events finish →
      start.store.getTenant id = some info → 0 < info.quotaLimit →
      AdmitsExactly id info (quotaAnswers hashKey id start events) finish) ∧
    (∀ world event, quotaAnswer id world event = some true →
      ∃ info, world.store.getTenant id = some info ∧
        (info.quotaLimit ≠ 0 → info.requestCount < info.quotaLimit)) ∧
    (∀ world event, quotaAnswer id world event = some false →
      ∀ info, world.store.getTenant id = some info →
        info.quotaLimit ≠ 0 ∧ info.quotaLimit ≤ info.requestCount) ∧
    (∀ start events finish info, World.Reachable hashKey start →
      World.RunWhen hashKey (fun before event => keepsCounter id before event = true)
        start events finish →
      start.store.getTenant id = some info →
      info.requestCount.toNat + (quotaAnswers hashKey id start events).count true < 2 ^ 64 →
      ∃ after, finish.store.getTenant id = some after ∧
        after.requestCount.toNat =
          info.requestCount.toNat + (quotaAnswers hashKey id start events).count true) := by
  refine ⟨?_, ?_, ?_, ?_⟩
  · intro start events finish info reached run found limited
    exact admissions_under_limit run (World.reachable_tenantsPresent reached) found limited
  · intro world event answer
    obtain ⟨ticket, input, rfl, _, admitted⟩ := quotaAnswer_eq_some answer
    cases found : world.store.getTenant id with
    | none => simp [found] at admitted
    | some info =>
        refine ⟨info, rfl, ?_⟩
        intro limited
        have open_ : ¬info.exhausted = true := by simpa [found] using admitted
        rw [TenantInfo.exhausted_iff] at open_
        exact UInt64.not_le.mp fun reached => open_ ⟨limited, reached⟩
  · intro world event answer info found
    obtain ⟨ticket, input, rfl, _, refused⟩ := quotaAnswer_eq_some answer
    have exhausted : info.exhausted = true := by simpa [found] using refused
    exact info.exhausted_iff.mp exhausted
  · intro start events finish info reached run found room
    obtain ⟨after, cached, total⟩ :=
      admissions_grow_counter run (World.reachable_tenantsPresent reached) found
    exact ⟨after, cached, by rw [total, Nat.mod_eq_of_lt room]⟩

end

open scoped DefaultBackend

theorem quota_admission_exact_two_of_three :
    ∃ start finish : World, ∃ info answers,
      start.store.getTenant (sampleId 0).text = some info ∧ info.quotaLimit = 2 ∧
      answers = [true, true, false] ∧ AdmitsExactly (sampleId 0).text info answers finish := by
  let id := (sampleId 0).text
  let requests : List Event :=
    [.call 1 (.tryConsumeQuota id), .call 2 (.tryConsumeQuota id), .call 3 (.tryConsumeQuota id),
      .act 2 (sampleInput 0 4), .act 3 (sampleInput 0 4), .act 1 (sampleInput 0 4)]
  obtain ⟨start, finish, setup, run, outcome⟩ :=
    World.exists_runs sampleHash (fun _ _ => true) (keepsQuota id)
      [.restart (sampleInput 0 0).now (sampleInput 0 0),
        .call 0 (.createTenant "acme" none (some 2) none none),
        .act 0 (sampleInput 0 4), .act 0 (sampleInput 0 4),
        .act 0 (sampleInput 1 1), .act 0 (sampleInput 0 4)]
      requests
      (fun start _ => (start.store.getTenant id).map TenantInfo.quotaLimit == some 2 &&
        quotaAnswers sampleHash id start requests == [true, true, false])
      (by decide +kernel)
  obtain ⟨limited, answers⟩ : (start.store.getTenant id).map TenantInfo.quotaLimit = some 2 ∧
      quotaAnswers sampleHash id start requests = [true, true, false] := by
    simpa using outcome
  obtain ⟨info, found, limit⟩ := Option.map_eq_some_iff.mp limited
  have exactly := (quota_admission_exact sampleHash id).1 start requests finish info
    (World.ReachableWhen.reachable ⟨_, setup⟩) run found (by rw [limit]; decide)
  exact ⟨start, finish, info, _, found, limit, answers, exactly⟩

end SpellServer
