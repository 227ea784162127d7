import SpellServer.Store.TenantPresence

/-!
# The names and languages of tenants

The two texts of a tenant that a body sets.  Where every call that creates or
updates a tenant brings texts of the right form, all that are stored, cached or on
their way have it, in every run.
-/

namespace SpellServer

open Library

section

variable (named spoken : String → Prop)

def TenantInfo.Fits (info : TenantInfo) : Prop := named info.name ∧ spoken info.language

def TenantRow.Fits (row : TenantRow) : Prop := named row.name ∧ spoken row.language

structure TenantPatch.Fits (patch : TenantPatch) : Prop where
  name : ∀ name ∈ patch.name, named name
  language : ∀ language ∈ patch.language, spoken language

def TenantFrame.Fits [Driver] : TenantFrame → Prop
  | .createInsert name language _ _ _ => named name ∧ ∀ given ∈ language, spoken given
  | .createCache info | .updateWrite _ info => info.Fits named spoken
  | .updateCheck _ patch | .updateApply _ patch => patch.Fits named spoken
  | _ => True

def Op.ProfileFits : Op → Prop
  | .createTenant name language _ _ _ => named name ∧ ∀ given ∈ language, spoken given
  | .updateTenant _ patch => patch.Fits named spoken
  | _ => True

structure Store.ProfilesFit (store : Store) : Prop where
  cached : ∀ {id info}, store.getTenant id = some info → info.Fits named spoken
  rows : ∀ row ∈ store.pool.tenants, row.Fits named spoken

structure World.ProfilesFit [Driver] (world : World) : Prop where
  store : world.store.ProfilesFit named spoken
  frames : ∀ {ticket frame}, world.tenantAt ticket = some frame → frame.Fits named spoken

end

variable {named spoken : String → Prop}

theorem TenantPatch.Fits.apply {patch : TenantPatch} {info : TenantInfo}
    (fits : patch.Fits named spoken) (known : info.Fits named spoken) :
    (patch.apply info).Fits named spoken := by
  constructor
  · cases given : patch.name with
    | none => simpa [TenantPatch.apply, given] using known.1
    | some name => simpa [TenantPatch.apply, given] using fits.name name given
  · cases given : patch.language with
    | none => simpa [TenantPatch.apply, given] using known.2
    | some language => simpa [TenantPatch.apply, given] using fits.language language given

theorem newTenant_fits [Driver] (default : spoken defaultLanguage) {input : Input} {name : String}
    {language : Option String} {quotaLimit periodStart periodEnd : Option UInt64}
    (fits : named name ∧ ∀ given ∈ language, spoken given) :
    (newTenant input name language quotaLimit periodStart periodEnd).Fits named spoken := by
  refine ⟨fits.1, ?_⟩
  cases language with
  | none => exact default
  | some given => exact fits.2 given rfl

namespace Store.ProfilesFit

variable {store later : Store}

theorem of_same (fit : store.ProfilesFit named spoken) (same : SameTenants store later) :
    later.ProfilesFit named spoken := by
  constructor
  · intro id info found
    rw [Store.getTenant, same.tenants] at found
    exact fit.cached found
  · rw [same.rows]
    exact fit.rows

theorem reload [Driver] {pool : Database} (rows : ∀ row ∈ pool.tenants, row.Fits named spoken) :
    (Store.reload pool).ProfilesFit named spoken := by
  refine ⟨?_, rows⟩
  intro id info found
  rw [Store.getTenant, Store.reload_tenants_lookup] at found
  obtain ⟨row, selected, rfl⟩ := Option.map_eq_some_iff.mp found
  exact rows row (findBy_mem selected).1

theorem putTenant (fit : store.ProfilesFit named spoken) {id : String} {info : TenantInfo}
    (fits : info.Fits named spoken) :
    ({ store with tenants := store.tenants.insert id info } : Store).ProfilesFit named spoken := by
  refine ⟨?_, fit.rows⟩
  intro other known found
  rw [getTenant_insert] at found
  split at found
  · cases found
    exact fits
  · exact fit.cached found

theorem updateRows (fit : store.ProfilesFit named spoken) {id : String}
    {change : TenantRow → TenantRow} {keeps : ∀ row, (change row).id = row.id}
    (fits : ∀ row, row.Fits named spoken → (change row).Fits named spoken) :
    ({ store with pool := store.pool.updateTenants id change keeps } : Store).ProfilesFit named
      spoken := by
  refine ⟨fit.cached, ?_⟩
  intro row member
  obtain ⟨old, oldMember, rfl⟩ := List.mem_map.mp member
  split
  · exact fits old (fit.rows old oldMember)
  · exact fit.rows old oldMember

end Store.ProfilesFit

/-- What one action leaves in the store, and where the call goes from it. -/
structure Outcome.ProfilesFit [Driver] (named spoken : String → Prop)
    (outcome : Outcome) : Prop where
  store : outcome.store.ProfilesFit named spoken
  goes : ∀ later, outcome.next = .running (.tenant later) → later.Fits named spoken

theorem Outcome.ProfilesFit.goto [Driver] {store : Store} {frame : Frame}
    (fit : store.ProfilesFit named spoken)
    (fits : ∀ later, frame = .tenant later → later.Fits named spoken) :
    (Outcome.goto store frame).ProfilesFit named spoken := by
  refine ⟨fit, ?_⟩
  intro later goes
  exact fits later (Status.running.inj goes)

theorem Outcome.ProfilesFit.finish [Driver] {store : Store} {result : Result}
    (fit : store.ProfilesFit named spoken) :
    (Outcome.finish store result).ProfilesFit named spoken := by
  refine ⟨fit, ?_⟩
  intro later goes
  cases goes

theorem TenantFrame.profilesFit_exec [Driver] (default : spoken defaultLanguage) {input : Input}
    {store : Store} {frame : TenantFrame} (fit : store.ProfilesFit named spoken)
    (fits : frame.Fits named spoken) :
    (frame.exec input store).ProfilesFit named spoken := by
  cases frame with
  | createInsert name language quotaLimit periodStart periodEnd =>
      have created : (newTenant input name language quotaLimit periodStart periodEnd).Fits named
          spoken := newTenant_fits default fits
      simp only [exec]
      split
      · exact .finish fit
      · rename_i pool executed
        obtain ⟨_, rows, _⟩ := Database.insertTenant_eq_some (Input.execute_eq_some.mp executed).2
        refine .goto ⟨fit.cached, ?_⟩ ?_
        · intro row member
          rw [rows] at member
          rcases List.mem_append.mp member with old | new
          · exact fit.rows row old
          · cases List.mem_singleton.mp new
            exact created
        · intro later same
          cases same
          exact created
  | createCache info =>
      refine .goto (fit.putTenant fits) ?_
      intro later same
      cases same
  | updateCheck id patch =>
      simp only [exec]
      split
      · refine .goto fit ?_
        intro later same
        cases same
        exact fits
      · exact .finish fit
  | updateApply id patch =>
      simp only [exec]
      split
      · exact .finish fit
      · rename_i info stored
        have patched := TenantPatch.Fits.apply fits (fit.cached stored)
        refine .goto (fit.putTenant patched) ?_
        intro later same
        cases same
        exact patched
  | updateWrite id snapshot =>
      simp only [exec]
      split
      · exact .finish fit
      · rename_i pool executed
        cases (Input.execute_eq_some.mp executed).2
        exact .finish (fit.updateRows fun _ _ => fits)
  | suspendCheck id suspended =>
      simp only [exec]
      split
      · refine .goto fit ?_
        intro later same
        cases same
        trivial
      · exact .finish fit
  | suspendWrite id suspended =>
      simp only [exec]
      split
      · exact .finish fit
      · rename_i pool executed
        cases (Input.execute_eq_some.mp executed).2
        refine .goto (fit.updateRows fun _ known => known) ?_
        intro later same
        cases same
        trivial
  | suspendCache id suspendedAt =>
      refine .finish ⟨?_, fit.rows⟩
      intro other info found
      rw [getTenant_modify] at found
      split at found
      · obtain ⟨known, stored, rfl⟩ := Option.map_eq_some_iff.mp found
        have fits : known.Fits named spoken := fit.cached stored
        exact fits
      · exact fit.cached found
  | consumeQuota tenantId =>
      simp only [exec]
      split
      · exact .finish fit
      · rename_i info stored
        split
        · exact .finish fit
        · have known : info.Fits named spoken := fit.cached stored
          have counted : info.consume.Fits named spoken := known
          refine ⟨fit.putTenant counted, ?_⟩
          intro later goes
          cases goes

namespace World

variable [Driver] {hashKey : String → String} {world next : World} {event : Event}

theorem ProfilesFit.step (default : spoken defaultLanguage)
    (fit : world.ProfilesFit named spoken)
    (called : ∀ ticket op, event = .call ticket op → op.ProfileFits named spoken)
    (taken : world.step hashKey event = some next) : next.ProfilesFit named spoken := by
  constructor
  · rcases tenant_cases taken with ⟨same, _⟩ | ⟨ticket, input, frame, rfl, running, rfl⟩ |
      ⟨_, _, id, newCount, _, _, pool, tenants, _⟩ | ⟨_, same, _⟩
    · exact fit.store.of_same same
    · exact (TenantFrame.profilesFit_exec default fit.store
        (fit.frames (tenantAt_of_frameAt running))).store
    · have counted : ({ world.store with
          pool := world.store.pool.updateRequestCount id newCount } : Store).ProfilesFit named
            spoken := fit.store.updateRows fun _ known => known
      exact counted.of_same ⟨by rw [pool], tenants⟩
    · exact (Store.ProfilesFit.reload fit.store.rows).of_same same
  · intro ticket frame seen
    rcases frameAt_cases taken (tenantAt_eq_some seen) with before | ⟨op, rfl, entered⟩ |
      ⟨input, old, rfl, running, goes, _⟩
    · exact fit.frames (tenantAt_of_frameAt before)
    · have allowed := called ticket op rfl
      cases op <;> cases entered <;> exact allowed
    · cases old with
      | tenant old =>
          exact (TenantFrame.profilesFit_exec default fit.store
            (fit.frames (tenantAt_of_frameAt running))).goes frame goes
      | key old =>
          obtain ⟨later, moved⟩ := KeyFrame.exec_next goes
          cases moved
      | origin old =>
          obtain ⟨later, moved⟩ := OriginFrame.exec_next goes
          cases moved
      | dictionary old =>
          obtain ⟨later, moved⟩ := DictionaryFrame.exec_next goes
          cases moved

theorem blank_profilesFit : blank.ProfilesFit named spoken := by
  refine ⟨⟨?_, ?_⟩, ?_⟩
  · intro id info found
    cases found
  · intro row member
    cases member
  · intro ticket frame seen
    cases seen

/-- In a run of calls with fitting texts. -/
theorem profilesFit_of_reachable (default : spoken defaultLanguage)
    (reached : ReachableWhen hashKey
      (fun _ event => ∀ ticket op, event = .call ticket op → op.ProfileFits named spoken) world) :
    world.ProfilesFit named spoken := by
  obtain ⟨events, run⟩ := reached
  exact run.invariant (fun _ _ _ fit called taken => fit.step default called taken)
    blank_profilesFit

end World

end SpellServer
