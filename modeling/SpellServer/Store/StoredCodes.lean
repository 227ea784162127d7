import SpellServer.Store.Locality

/-!
# Language codes in the store

A condition on language codes that every call brings along with its arguments
holds of all codes the store ever keeps: in the tables, in the caches, and in the
calls between the two.
-/

namespace SpellServer

open Library

section

variable (safe : String → Prop)

/-- The languages of the tenants and the codes of the dictionaries. -/
structure Store.Codes (store : Store) : Prop where
  rows : ∀ row ∈ store.pool.tenants, safe row.language
  tenants : ∀ {id info}, store.tenants.lookup id = some info → safe info.language
  dictionaryRows : ∀ row ∈ store.pool.dictionaries, safe row.code
  dictionaries : ∀ {code info}, store.dictionaries.lookup code = some info → safe info.code

def TenantFrame.Codes [Driver] : TenantFrame → Prop
  | .createInsert _ language _ _ _ => ∀ code ∈ language, safe code
  | .createCache info | .updateWrite _ info => safe info.language
  | .updateCheck _ patch | .updateApply _ patch => ∀ code ∈ patch.language, safe code
  | .suspendCheck _ _ | .suspendWrite _ _ | .suspendCache _ _ | .consumeQuota _ => True

def DictionaryFrame.Codes : DictionaryFrame → Prop
  | .registerUpsert code _ => safe code
  | .registerSelect _ => True
  | .registerCache _ info => safe info.code

def Frame.Codes [Driver] : Frame → Prop
  | .tenant frame => frame.Codes safe
  | .dictionary frame => frame.Codes safe
  | .key _ | .origin _ => True

/-- The codes that a call is made with. -/
def Op.Codes : Op → Prop
  | .createTenant _ language _ _ _ => ∀ code ∈ language, safe code
  | .updateTenant _ patch => ∀ code ∈ patch.language, safe code
  | .registerDictionary code _ => safe code
  | _ => True

/-- The codes of a server: those it keeps and those in its calls. -/
structure World.Codes [Driver] (world : World) : Prop where
  store : world.store.Codes safe
  frames : ∀ {ticket frame}, world.calls.frameAt ticket = some frame → frame.Codes safe

end

variable {safe : String → Prop}

namespace Store.Codes

variable {store other : Store}

theorem of_same (codes : store.Codes safe) (tenants : SameTenants store other)
    (dictionaries : SameDictionaries store other) : other.Codes safe := by
  refine ⟨?_, ?_, ?_, ?_⟩
  · rw [tenants.rows]
    exact codes.rows
  · rw [tenants.tenants]
    exact codes.tenants
  · rw [dictionaries.rows]
    exact codes.dictionaryRows
  · rw [dictionaries.dictionaries]
    exact codes.dictionaries

/-- An `UPDATE` of the tenants that writes no unsafe language. -/
theorem updateTenants (codes : store.Codes safe) {id : String} {change : TenantRow → TenantRow}
    (keeps : ∀ row, (change row).id = row.id)
    (changed : ∀ row, safe row.language → safe (change row).language) :
    ({ store with pool := store.pool.updateTenants id change keeps } : Store).Codes safe := by
  refine ⟨?_, codes.tenants, codes.dictionaryRows, codes.dictionaries⟩
  intro row member
  obtain ⟨old, present, rfl⟩ := List.mem_map.mp member
  split
  · exact changed old (codes.rows old present)
  · exact codes.rows old present

theorem insertTenant (codes : store.Codes safe) {id : String} {info : TenantInfo}
    (language : safe info.language) :
    ({ store with tenants := store.tenants.insert id info } : Store).Codes safe := by
  refine ⟨codes.rows, ?_, codes.dictionaryRows, codes.dictionaries⟩
  intro other found cached
  rw [Dict.lookup_insert_ite] at cached
  split at cached
  · cases cached
    exact language
  · exact codes.tenants cached

theorem upsertDictionary (codes : store.Codes safe) {row : DictionaryRow} (code : safe row.code) :
    ({ store with pool := store.pool.upsertDictionary row } : Store).Codes safe := by
  have kept : (store.pool.upsertDictionary row).tenants = store.pool.tenants := by
    unfold Database.upsertDictionary
    split <;> rfl
  refine ⟨?_, codes.tenants, ?_, codes.dictionaries⟩
  · rw [kept]
    exact codes.rows
  · intro other member
    unfold Database.upsertDictionary at member
    split at member
    · obtain ⟨old, present, rfl⟩ := List.mem_map.mp member
      split
      · exact codes.dictionaryRows old present
      · exact codes.dictionaryRows old present
    · rcases List.mem_append.mp member with present | new
      · exact codes.dictionaryRows other present
      · rw [List.mem_singleton.mp new]
        exact code

theorem reload [Driver] {pool : Database} (rows : ∀ row ∈ pool.tenants, safe row.language)
    (dictionaryRows : ∀ row ∈ pool.dictionaries, safe row.code) :
    (Store.reload pool).Codes safe := by
  refine ⟨rows, ?_, dictionaryRows, ?_⟩
  · intro id info cached
    rw [reload_tenants_lookup] at cached
    obtain ⟨row, found, rfl⟩ := Option.map_eq_some_iff.mp cached
    exact rows row (findBy_mem found).1
  · intro code info cached
    rw [reload_dictionaries_lookup] at cached
    obtain ⟨row, found, rfl⟩ := Option.map_eq_some_iff.mp cached
    exact dictionaryRows row (findBy_mem found).1

end Store.Codes

/-! ## Actions -/

/-- What an action keeps: the codes of the store and those of the call. -/
def Outcome.Codes [Driver] (safe : String → Prop) (outcome : Outcome) : Prop :=
  outcome.store.Codes safe ∧ ∀ later, outcome.next = .running later → later.Codes safe

section

variable [Driver] {store : Store} {input : Input}

theorem Outcome.codes_goto {frame : Frame} (codes : store.Codes safe) (safeFrame : frame.Codes safe) :
    (Outcome.goto store frame).Codes safe := by
  refine ⟨codes, ?_⟩
  intro later goes
  cases goes
  exact safeFrame

theorem Outcome.codes_finish {result : Result} (codes : store.Codes safe) :
    (Outcome.finish store result).Codes safe := by
  refine ⟨codes, ?_⟩
  intro later goes
  cases goes

theorem TenantFrame.codes_exec (default : safe defaultLanguage) {frame : TenantFrame}
    (codes : store.Codes safe) (safeFrame : frame.Codes safe) :
    (frame.exec input store).Codes safe := by
  cases frame with
  | createInsert name language quotaLimit periodStart periodEnd =>
      have chosen : safe (language.getD defaultLanguage) := by
        cases language with
        | none => exact default
        | some code => exact safeFrame code rfl
      simp only [exec]
      split
      · exact Outcome.codes_finish codes
      · rename_i pool executed
        obtain ⟨_, inserted⟩ := Input.execute_eq_some.mp executed
        obtain ⟨_, tenants, _, _, dictionaries⟩ := Database.insertTenant_eq_some inserted
        refine Outcome.codes_goto ⟨?_, codes.tenants, ?_, codes.dictionaries⟩ chosen
        · intro row member
          rw [tenants] at member
          rcases List.mem_append.mp member with present | new
          · exact codes.rows row present
          · rw [List.mem_singleton.mp new]
            exact chosen
        · rw [dictionaries]
          exact codes.dictionaryRows
  | createCache info => exact Outcome.codes_goto (codes.insertTenant safeFrame) trivial
  | updateCheck id patch =>
      simp only [exec]
      split
      · exact Outcome.codes_goto codes safeFrame
      · exact Outcome.codes_finish codes
  | updateApply id patch =>
      simp only [exec]
      split
      · exact Outcome.codes_finish codes
      · rename_i info cached
        have patched : safe (patch.apply info).language := by
          unfold TenantPatch.apply
          cases given : patch.language with
          | none =>
              have held : safe info.language := codes.tenants cached
              exact held
          | some code => exact safeFrame code given
        exact Outcome.codes_goto (codes.insertTenant patched) patched
  | updateWrite id snapshot =>
      simp only [exec]
      split
      · exact Outcome.codes_finish codes
      · rename_i pool executed
        obtain ⟨_, updated⟩ := Input.execute_eq_some.mp executed
        cases updated
        apply Outcome.codes_finish
        refine codes.updateTenants ?_ ?_
        intro row language
        exact safeFrame
  | suspendCheck id suspended =>
      simp only [exec]
      split
      · exact Outcome.codes_goto codes trivial
      · exact Outcome.codes_finish codes
  | suspendWrite id suspended =>
      simp only [exec]
      split
      · exact Outcome.codes_finish codes
      · rename_i pool executed
        obtain ⟨_, updated⟩ := Input.execute_eq_some.mp executed
        cases updated
        refine Outcome.codes_goto ?_ trivial
        refine codes.updateTenants ?_ ?_
        intro row language
        exact language
  | suspendCache id suspendedAt =>
      refine Outcome.codes_finish ⟨codes.rows, ?_, codes.dictionaryRows, codes.dictionaries⟩
      intro other info cached
      rw [Dict.lookup_modify] at cached
      split at cached
      · obtain ⟨held, found, rfl⟩ := Option.map_eq_some_iff.mp cached
        have language : safe held.language := codes.tenants found
        exact language
      · exact codes.tenants cached
  | consumeQuota tenantId =>
      simp only [exec]
      split
      · exact Outcome.codes_finish codes
      · rename_i info cached
        split
        · exact Outcome.codes_finish codes
        · have held : safe info.language := codes.tenants cached
          refine ⟨codes.insertTenant held, ?_⟩
          intro later goes
          cases goes

theorem DictionaryFrame.codes_exec {frame : DictionaryFrame} (codes : store.Codes safe)
    (safeFrame : frame.Codes safe) : (frame.exec input store).Codes safe := by
  cases frame with
  | registerUpsert code sourceUrl =>
      simp only [exec]
      split
      · exact Outcome.codes_finish codes
      · rename_i pool executed
        obtain ⟨_, upserted⟩ := Input.execute_eq_some.mp executed
        cases upserted
        exact Outcome.codes_goto (codes.upsertDictionary safeFrame) trivial
  | registerSelect code =>
      simp only [exec]
      split
      · exact Outcome.codes_finish codes
      · rename_i row executed
        obtain ⟨_, selected⟩ := Input.execute_eq_some.mp executed
        exact Outcome.codes_goto codes (codes.dictionaryRows row (findBy_mem selected).1)
  | registerCache code info =>
      refine Outcome.codes_finish ⟨codes.rows, codes.tenants, codes.dictionaryRows, ?_⟩
      intro other found cached
      rw [Dict.lookup_insert_ite] at cached
      split at cached
      · cases cached
        exact safeFrame
      · exact codes.dictionaries cached

theorem Frame.codes_exec (default : safe defaultLanguage) {hashKey : String → String} {frame : Frame}
    (codes : store.Codes safe) (safeFrame : frame.Codes safe) :
    (frame.exec hashKey input store).Codes safe := by
  cases frame with
  | key frame =>
      have only := frame.exec_local hashKey input store
      refine ⟨codes.of_same only.tenants only.dictionaries, ?_⟩
      intro later goes
      obtain ⟨next, rfl⟩ := KeyFrame.exec_next goes
      trivial
  | tenant frame => exact frame.codes_exec default codes safeFrame
  | origin frame =>
      have only := frame.exec_local input store
      refine ⟨codes.of_same only.tenants only.dictionaries, ?_⟩
      intro later goes
      obtain ⟨next, rfl⟩ := OriginFrame.exec_next goes
      trivial
  | dictionary frame => exact frame.codes_exec codes safeFrame

end

/-! ## Events -/

namespace World.Codes

variable [Driver] {hashKey : String → String} {world next : World} {event : Event}

theorem blank : World.blank.Codes safe := by
  refine ⟨Store.Codes.reload ?_ ?_, ?_⟩
  · intro row member
    cases member
  · intro row member
    cases member
  · intro ticket frame running
    cases running

theorem step (default : safe defaultLanguage) (codes : world.Codes safe)
    (called : ∀ ticket op, event = .call ticket op → op.Codes safe)
    (taken : world.step hashKey event = some next) : next.Codes safe := by
  rcases World.step_cases taken with ⟨ticket, op, rfl, unused, rfl⟩ |
    ⟨ticket, input, frame, rfl, fresh, running, rfl⟩ |
    ⟨position, succeeds, task, rfl, pending, rfl⟩ | ⟨now, input, opened, rfl, fresh, success, rfl⟩
  · refine ⟨codes.store, ?_⟩
    intro other frame running
    rw [Calls.frameAt_start] at running
    split at running
    · cases running
      have safeOp := called ticket op rfl
      cases op <;> exact safeOp
    · exact codes.frames running
  · obtain ⟨store, goes⟩ := @Frame.codes_exec safe _ world.store input default hashKey frame
      codes.store (codes.frames running)
    refine ⟨store, ?_⟩
    intro other later otherRunning
    rw [World.acted, Calls.frameAt_advance running] at otherRunning
    split at otherRunning
    · apply goes later
      cases status : (frame.exec hashKey input world.store).next with
      | running target =>
          rw [status] at otherRunning
          cases otherRunning
          rfl
      | returned result =>
          rw [status] at otherRunning
          cases otherRunning
    · exact codes.frames otherRunning
  · refine ⟨?_, codes.frames⟩
    cases succeeds with
    | false => exact codes.store
    | true =>
        cases task with
        | lastUsedAt id nowTs => exact codes.store.of_same ⟨rfl, rfl⟩ ⟨rfl, rfl⟩
        | requestCount tenantId newCount =>
            refine codes.store.updateTenants ?_ ?_
            · intro row
              rfl
            · intro row language
              exact language
  · have only := Store.open_local success
    have reloaded : (Store.reload world.store.pool).Codes safe :=
      .reload codes.store.rows codes.store.dictionaryRows
    refine ⟨reloaded.of_same only.tenants only.dictionaries, ?_⟩
    intro ticket frame running
    rw [Calls.frameAt_dropRunning] at running
    cases running

end World.Codes

end SpellServer
