import SpellServer.Store.KeyOwnership
import SpellServer.Store.Ledger

/-!
# The life of a credential

The hashed and cached store refines the ledger: in sequential runs the table of
keys backs the ledger row by row, and so `authenticate` accepts a raw key
exactly when the ledger does.
-/

namespace SpellServer

open Library

section

variable [Driver]

/-- The row holds the hash of the credential's secret and its fixed data. -/
structure ApiKeyRow.Backs (hashKey : String → String) (row : ApiKeyRow)
    (credential : Credential) : Prop where
  keyHash : row.keyHash = hashKey credential.secret
  tenantId : row.tenantId = credential.tenantId
  label : row.label = credential.label
  role : row.role = credential.role
  createdAt : readWord row.createdAt = credential.createdAt
  expiresAt : row.expiresAt = credential.expiresAt.map UInt64.toInt64
  revoked : row.revokedAt.isSome = credential.revoked

abbrev Recorded (hashKey : String → String) (ledger : Ledger) (rows : List ApiKeyRow) : Prop :=
  Mirrors ApiKeyRow.id (ApiKeyRow.Backs hashKey) rows ledger

namespace Recorded

variable {hashKey : String → String} {ledger : Ledger} {pool later : Database} {id : String}

theorem unknown (recorded : Recorded hashKey ledger pool.apiKeys)
    (fresh : id ∉ pool.apiKeys.map ApiKeyRow.id) : ledger.lookup id = none := by
  cases found : ledger.lookup id with
  | none => rfl
  | some credential =>
      obtain ⟨row, member, sameId, _⟩ := recorded.row_of found
      exact absurd (List.mem_map.mpr ⟨row, member, sameId⟩) fresh

theorem create {input : Input} {tenantId : Option String} {label : String} {role : Role}
    {expiresAt : Option UInt64} (recorded : Recorded hashKey ledger pool.apiKeys)
    (inserted : pool.insertApiKey
      (newApiKeyRow (newApiKey hashKey input tenantId label role expiresAt).record) = some later) :
    Recorded hashKey
      (ledger.create (newApiKey hashKey input tenantId label role expiresAt) tenantId label role
        expiresAt)
      later.apiKeys := by
  obtain ⟨_, apiKeys, _⟩ := Database.insertApiKey_eq_some inserted
  rw [apiKeys]
  exact recorded.insert ⟨rfl, rfl, rfl, rfl, readWord_clock _, rfl, rfl⟩

theorem reissue {rawKey : String} (recorded : Recorded hashKey ledger pool.apiKeys)
    (updated : pool.updateKeyHash id (hashKey rawKey) = some later) :
    Recorded hashKey (ledger.reissue id rawKey) later.apiKeys := by
  obtain ⟨_, apiKeys, _⟩ := Database.updateKeyHash_eq_some updated
  rw [apiKeys]
  apply recorded.change
  · intro row _
    rfl
  · intro row
    rfl
  · intro row _ _ credential _ backs
    exact { backs with keyHash := rfl }

theorem revoke (recorded : Recorded hashKey ledger pool.apiKeys) (revokedAt : Int64) :
    Recorded hashKey (ledger.revoke id) (pool.updateRevokedAt id revokedAt).apiKeys := by
  apply recorded.change
  · intro row _
    rfl
  · intro row
    rfl
  · intro row _ _ credential _ backs
    exact { backs with revoked := by simp }

theorem task (recorded : Recorded hashKey ledger pool.apiKeys) (task : Task) :
    Recorded hashKey ledger (task.run pool).apiKeys := by
  cases task with
  | lastUsedAt id nowTs =>
      apply recorded.mapRows
      · intro row
        split <;> rfl
      · intro row credential backs
        split
        · exact { backs with }
        · exact backs
  | requestCount tenantId newCount => exact recorded

end Recorded

/-! ## What each operation is about to record -/

inductive Op.Creates : Op → Option String → String → Role → Option UInt64 → Caller → Prop where
  | createKey (tenantId label : String) (role : Role) (expiresAt : Option UInt64) :
      Creates (.createKey tenantId label role expiresAt) (some tenantId) label role expiresAt
        .createKey
  | createTenant (name : String) (language : Option String)
      (quotaLimit periodStart periodEnd : Option UInt64) (info : TenantInfo) :
      Creates (.createTenant name language quotaLimit periodStart periodEnd) (some info.id)
        "default" .admin none (.createTenant info)
  | resetBootstrapPlatformKey :
      Creates .resetBootstrapPlatformKey none "bootstrap" .platform none
        .resetBootstrapPlatformKey

inductive Op.Rotates : Op → String → Caller → Prop where
  | rotateKey (tenantId id : String) : Rotates (.rotateKey tenantId id) id .rotateKey
  | resetBootstrapPlatformKey (id : String) :
      Rotates .resetBootstrapPlatformKey id .resetBootstrapPlatformKey

omit [Driver] in
theorem Ledger.record_creates {ledger : Ledger} {op : Op} {tenantId : Option String}
    {label : String} {role : Role} {expiresAt : Option UInt64} {caller : Caller}
    {created : CreatedApiKey} (creates : op.Creates tenantId label role expiresAt caller)
    (fresh : ledger.lookup created.record.id = none) :
    ledger.record op (caller.result created) =
      ledger.create created tenantId label role expiresAt := by
  cases creates with
  | createKey => rfl
  | createTenant => rfl
  | resetBootstrapPlatformKey => simp [Ledger.record, Caller.result, fresh]

omit [Driver] in
theorem Ledger.record_rotates {ledger : Ledger} {op : Op} {id : String} {caller : Caller}
    {created : CreatedApiKey} (rotates : op.Rotates id caller)
    (known : (ledger.lookup id).isSome = true) (sameId : created.record.id = id) :
    ledger.record op (caller.result created) = ledger.reissue id created.rawKey := by
  cases rotates with
  | rotateKey => rfl
  | resetBootstrapPlatformKey =>
      subst id
      simp only [Ledger.record, Caller.result, known, if_true]

/-- The ledger that is recorded when the call returns is backed already. -/
structure Pends (hashKey : String → String) (ledger later : Ledger) (rows : List ApiKeyRow) :
    Prop where
  recorded : Recorded hashKey later rows
  grows : ledger.Extends later

def KeyFrame.Records (hashKey : String → String) (ledger : Ledger) (op : Op) (store : Store) :
    KeyFrame → Prop
  | .createInsert tenantId label role expiresAt caller =>
      Recorded hashKey ledger store.pool.apiKeys ∧ op.Creates tenantId label role expiresAt caller
  | .createCache created caller =>
      Pends hashKey ledger (ledger.record op (caller.result created)) store.pool.apiKeys
  | .revokeFind tenantId id =>
      Recorded hashKey ledger store.pool.apiKeys ∧ op = .revokeKey tenantId id
  | .revokeUpdate id _ =>
      Recorded hashKey ledger store.pool.apiKeys ∧ ∃ tenantId, op = .revokeKey tenantId id
  | .revokeMark _ _ _ =>
      Pends hashKey ledger (ledger.record op (.revokedKey true)) store.pool.apiKeys
  | .rotateFind tenantId id =>
      Recorded hashKey ledger store.pool.apiKeys ∧ op = .rotateKey tenantId id
  | .rotateUpdate _ id caller =>
      Recorded hashKey ledger store.pool.apiKeys ∧ op.Rotates id caller
  | .rotateRekey oldHash newHash rawKey _ caller =>
      ∀ record, store.keys.lookup oldHash = some record →
        Pends hashKey ledger
          (ledger.record op (caller.result { record := record.rekey newHash, rawKey }))
          store.pool.apiKeys
  | .resetFind =>
      Recorded hashKey ledger store.pool.apiKeys ∧ op = .resetBootstrapPlatformKey
  | .authLookup _ | .authLoad _ _ | .authStore _ _ =>
      Recorded hashKey ledger store.pool.apiKeys ∧ ∃ rawKey, op = .authenticate rawKey
  | .touchFind _ | .touchMark _ _ _ =>
      Recorded hashKey ledger store.pool.apiKeys ∧ ∃ id, op = .touchLastUsed id

/-- `create_tenant` goes on to create a key. -/
def TenantFrame.Records (op : Op) : TenantFrame → Prop
  | .createInsert .. | .createCache .. =>
      ∃ name language quotaLimit periodStart periodEnd,
        op = .createTenant name language quotaLimit periodStart periodEnd
  | _ => True

def Frame.Records (hashKey : String → String) (ledger : Ledger) (op : Op) (store : Store) :
    Frame → Prop
  | .key frame => frame.Records hashKey ledger op store
  | .tenant frame => Recorded hashKey ledger store.pool.apiKeys ∧ frame.Records op
  | .origin _ | .dictionary _ => Recorded hashKey ledger store.pool.apiKeys

def Outcome.Logs (hashKey : String → String) (ledger : Ledger) (op : Op) (outcome : Outcome) :
    Prop :=
  (∀ later, outcome.next = .running later → later.Records hashKey ledger op outcome.store) ∧
    ∀ result, outcome.next = .returned result →
      Pends hashKey ledger (ledger.record op result) outcome.store.pool.apiKeys

namespace Outcome

variable {hashKey : String → String} {ledger : Ledger} {op : Op} {store : Store}

theorem logs_running {frame : Frame} {issued : List (String × String)}
    (records : frame.Records hashKey ledger op store) :
    Outcome.Logs hashKey ledger op { store, next := .running frame, spawned := [], issued } := by
  constructor
  · intro later goes
    cases goes
    exact records
  · intro result returns
    cases returns

theorem logs_returned {result : Result} {spawned : List Task}
    (pends : Pends hashKey ledger (ledger.record op result) store.pool.apiKeys) :
    Outcome.Logs hashKey ledger op { store, next := .returned result, spawned, issued := [] } := by
  constructor
  · intro later goes
    cases goes
  · intro other returns
    cases returns
    exact pends

theorem logs_nothing {result : Result} {spawned : List Task}
    (recorded : Recorded hashKey ledger store.pool.apiKeys)
    (same : ledger.record op result = ledger) :
    Outcome.Logs hashKey ledger op { store, next := .returned result, spawned, issued := [] } := by
  apply logs_returned
  rw [same]
  exact ⟨recorded, .refl ledger⟩

end Outcome

/-- The results that say nothing about a credential. -/
def Result.Keyless : Result → Prop
  | .createdKey _ | .rotatedKey _ | .revokedKey _ | .resetKey _ | .createdTenant _ _ => False
  | _ => True

omit [Driver] in
theorem Ledger.record_keyless (ledger : Ledger) (op : Op) {result : Result}
    (keyless : result.Keyless) : ledger.record op result = ledger := by
  unfold record
  split
  · exact keyless.elim
  · exact keyless.elim
  · exact keyless.elim
  · exact keyless.elim
  · exact keyless.elim
  · rfl

section Acting

variable {hashKey : String → String} {ledger : Ledger} {op : Op} {input : Input} {store : Store}

theorem KeyFrame.records_exec {frame : KeyFrame} (outline : frame.Outline store)
    (records : frame.Records hashKey ledger op store) :
    (frame.exec hashKey input store).Logs hashKey ledger op := by
  cases frame with
  | createInsert tenantId label role expiresAt caller =>
      obtain ⟨recorded, creates⟩ := records
      simp only [KeyFrame.exec]
      split
      · exact Outcome.logs_nothing recorded (ledger.record_keyless op trivial)
      · rename_i pool executed
        obtain ⟨_, inserted⟩ := Input.execute_eq_some.mp executed
        have fresh := recorded.unknown (Database.insertApiKey_eq_some inserted).1.1
        have same : ledger.record op
            (caller.result (newApiKey hashKey input tenantId label role expiresAt)) =
              ledger.create (newApiKey hashKey input tenantId label role expiresAt) tenantId label
                role expiresAt := Ledger.record_creates creates fresh
        apply Outcome.logs_running
        exact ⟨same ▸ recorded.create inserted, same ▸ Ledger.extends_create fresh _ _ _ _⟩
  | createCache created caller =>
      have healthy : store.keysPoisoned = false := outline.healthy
      simp only [KeyFrame.exec, KeyFrame.withKeys_healthy healthy]
      exact Outcome.logs_returned records
  | revokeFind tenantId id =>
      obtain ⟨recorded, rfl⟩ := records
      simp only [KeyFrame.exec, KeyFrame.withKeys_healthy outline.healthy]
      split
      · exact Outcome.logs_running ⟨recorded, tenantId, rfl⟩
      · exact Outcome.logs_nothing recorded rfl
  | revokeUpdate id keyHash =>
      obtain ⟨recorded, tenantId, rfl⟩ := records
      simp only [KeyFrame.exec]
      split
      · exact Outcome.logs_nothing recorded rfl
      · rename_i pool executed
        cases (Input.execute_eq_some.mp executed).2
        exact Outcome.logs_running ⟨recorded.revoke _, ledger.extends_revoke id⟩
  | revokeMark id keyHash revokedAt =>
      have healthy : store.keysPoisoned = false := outline.healthy
      simp only [KeyFrame.exec, KeyFrame.withKeys_healthy healthy]
      exact Outcome.logs_returned records
  | rotateFind tenantId id =>
      obtain ⟨recorded, rfl⟩ := records
      simp only [KeyFrame.exec, KeyFrame.withKeys_healthy outline.healthy]
      split
      · exact Outcome.logs_running ⟨recorded, .rotateKey tenantId id⟩
      · exact Outcome.logs_nothing recorded rfl
  | rotateUpdate oldHash id caller =>
      obtain ⟨recorded, rotates⟩ := records
      obtain ⟨coherent, record, stored, sameId⟩ := outline
      simp only [KeyFrame.exec]
      split
      · exact Outcome.logs_nothing recorded (ledger.record_keyless op trivial)
      · rename_i pool executed
        obtain ⟨_, updated⟩ := Input.execute_eq_some.mp executed
        have known : (ledger.lookup id).isSome = true := by
          obtain ⟨row, member, _, mirrors⟩ := coherent.keys.row_of stored
          rw [← sameId, mirrors.id]
          exact recorded.entry_of row member
        apply Outcome.logs_running
        intro found foundStored
        rw [stored] at foundStored
        cases foundStored
        rw [Ledger.record_rotates rotates known sameId]
        exact ⟨recorded.reissue updated, ledger.extends_reissue id _⟩
  | rotateRekey oldHash newHash rawKey id caller =>
      obtain ⟨record, stored, coherent⟩ := outline
      have healthy : store.keysPoisoned = false := coherent.healthy
      simp only [KeyFrame.exec, KeyFrame.withKeys_healthy healthy, stored]
      exact Outcome.logs_returned (records record stored)
  | resetFind =>
      obtain ⟨recorded, rfl⟩ := records
      simp only [KeyFrame.exec, KeyFrame.withKeys_healthy outline.healthy]
      split
      · exact Outcome.logs_running ⟨recorded, .resetBootstrapPlatformKey⟩
      · exact Outcome.logs_running ⟨recorded, .resetBootstrapPlatformKey _⟩
      · exact Outcome.logs_nothing recorded rfl
  | authLookup rawKey =>
      obtain ⟨recorded, presented, rfl⟩ := records
      simp only [KeyFrame.exec, KeyFrame.withKeys_healthy outline.healthy]
      split
      · exact Outcome.logs_nothing recorded rfl
      · exact Outcome.logs_running ⟨recorded, presented, rfl⟩
  | authLoad hash now =>
      obtain ⟨recorded, presented, rfl⟩ := records
      simp only [KeyFrame.exec]
      split
      · exact Outcome.logs_nothing recorded rfl
      · split
        · exact Outcome.logs_running ⟨recorded, presented, rfl⟩
        · exact Outcome.logs_nothing recorded rfl
  | authStore hash record =>
      obtain ⟨recorded, presented, rfl⟩ := records
      simp only [KeyFrame.exec, KeyFrame.withKeys_healthy outline.1.healthy]
      exact Outcome.logs_nothing recorded rfl
  | touchFind id =>
      obtain ⟨recorded, touched, rfl⟩ := records
      simp only [KeyFrame.exec, KeyFrame.withKeys_healthy outline.healthy]
      split
      · exact Outcome.logs_running ⟨recorded, touched, rfl⟩
      · exact Outcome.logs_nothing recorded rfl
  | touchMark id keyHash nowTs =>
      obtain ⟨recorded, touched, rfl⟩ := records
      simp only [KeyFrame.exec, KeyFrame.withKeys_healthy outline.1.healthy]
      exact Outcome.logs_nothing recorded rfl

/-- An action of another group leaves the keys alone. -/
theorem Outcome.logs_elsewhere {outcome : Outcome}
    (recorded : Recorded hashKey ledger store.pool.apiKeys) (same : SameKeys store outcome.store)
    (goes : ∀ later, outcome.next = .running later →
      Recorded hashKey ledger outcome.store.pool.apiKeys →
      later.Records hashKey ledger op outcome.store)
    (keyless : ∀ result, outcome.next = .returned result → result.Keyless) :
    outcome.Logs hashKey ledger op := by
  have recordedLater : Recorded hashKey ledger outcome.store.pool.apiKeys := by
    rw [same.apiKeys]
    exact recorded
  constructor
  · intro later running
    exact goes later running recordedLater
  · intro result returned
    rw [ledger.record_keyless op (keyless result returned)]
    exact ⟨recordedLater, .refl ledger⟩

theorem TenantFrame.records_exec {frame : TenantFrame}
    (recorded : Recorded hashKey ledger store.pool.apiKeys) (records : frame.Records op) :
    (frame.exec input store).Logs hashKey ledger op := by
  apply Outcome.logs_elsewhere recorded (frame.exec_local input store).keys
  · intro later running recordedLater
    cases frame with
    | createCache info =>
        obtain ⟨name, language, quotaLimit, periodStart, periodEnd, rfl⟩ := records
        cases running
        exact ⟨recordedLater, .createTenant name language quotaLimit periodStart periodEnd info⟩
    | createInsert name language quotaLimit periodStart periodEnd =>
        simp only [TenantFrame.exec] at running
        split at running <;> cases running
        exact ⟨recordedLater, records⟩
    | _ =>
        simp only [TenantFrame.exec] at running
        (repeat' split at running) <;> cases running <;> exact ⟨recordedLater, trivial⟩
  · intro result returned
    cases frame <;> simp only [TenantFrame.exec] at returned <;>
      (repeat' split at returned) <;> cases returned <;> trivial

theorem OriginFrame.records_exec {frame : OriginFrame}
    (recorded : Recorded hashKey ledger store.pool.apiKeys) :
    (frame.exec input store).Logs hashKey ledger op := by
  apply Outcome.logs_elsewhere recorded (frame.exec_local input store).keys
  · intro later running recordedLater
    obtain ⟨next, rfl⟩ := OriginFrame.exec_next running
    exact recordedLater
  · intro result returned
    cases frame <;> simp only [OriginFrame.exec] at returned <;>
      (repeat' split at returned) <;> cases returned <;> trivial

theorem DictionaryFrame.records_exec {frame : DictionaryFrame}
    (recorded : Recorded hashKey ledger store.pool.apiKeys) :
    (frame.exec input store).Logs hashKey ledger op := by
  apply Outcome.logs_elsewhere recorded (frame.exec_local input store).keys
  · intro later running recordedLater
    obtain ⟨next, rfl⟩ := DictionaryFrame.exec_next running
    exact recordedLater
  · intro result returned
    cases frame <;> simp only [DictionaryFrame.exec] at returned <;>
      (repeat' split at returned) <;> cases returned <;> trivial

theorem Frame.records_exec {frame : Frame} (outline : frame.Outline store)
    (records : frame.Records hashKey ledger op store) :
    (frame.exec hashKey input store).Logs hashKey ledger op := by
  cases frame with
  | key frame => exact KeyFrame.records_exec outline records
  | tenant frame => exact TenantFrame.records_exec records.1 records.2
  | origin frame => exact OriginFrame.records_exec records
  | dictionary frame => exact DictionaryFrame.records_exec records

theorem Op.records_entry (recorded : Recorded hashKey ledger store.pool.apiKeys) (op : Op) :
    op.entry.Records hashKey ledger op store := by
  cases op with
  | createKey tenantId label role expiresAt => exact ⟨recorded, .createKey ..⟩
  | revokeKey tenantId id => exact ⟨recorded, rfl⟩
  | rotateKey tenantId id => exact ⟨recorded, rfl⟩
  | resetBootstrapPlatformKey => exact ⟨recorded, rfl⟩
  | authenticate rawKey => exact ⟨recorded, rawKey, rfl⟩
  | touchLastUsed id => exact ⟨recorded, id, rfl⟩
  | createTenant name language quotaLimit periodStart periodEnd =>
      exact ⟨recorded, _, _, _, _, _, rfl⟩
  | updateTenant id patch => exact ⟨recorded, trivial⟩
  | tryConsumeQuota tenantId => exact ⟨recorded, trivial⟩
  | setSuspended id suspended => exact ⟨recorded, trivial⟩
  | registerOrigin tenantId origin => exact recorded
  | revokeOrigin tenantId id => exact recorded
  | registerDictionary code sourceUrl => exact recorded

end Acting

/-! ## Whole runs -/

/-- The store is coherent and backs the ledger, or a call is on its way there. -/
abbrev Refines (hashKey : String → String) (state : World × Ledger) : Prop :=
  Follows
    (fun store tasks => Settled store tasks ∧ Recorded hashKey state.2 store.pool.apiKeys)
    (fun op frame store => frame.Outline store ∧ frame.Records hashKey state.2 op store) state.1

theorem Ledger.observe_act {hashKey : String → String} {world next : World} {ticket : ℕ} {op : Op}
    {frame : Frame} {input : Input} (ledger : Ledger)
    (running : world.calls.lookup ticket = some { op, status := .running frame })
    (taken : world.step hashKey (.act ticket input) = some next) :
    ledger.observe hashKey world next (.act ticket input) =
      match (frame.exec hashKey input world.store).next with
      | .running _ => ledger
      | .returned result => ledger.record op result := by
  have at' : world.calls.frameAt ticket = some frame :=
    Calls.frameAt_eq_some_iff.mpr ⟨op, running⟩
  rcases World.step_cases taken with ⟨_, _, same, _⟩ | ⟨mover, input, current, same, _, moving, rfl⟩ |
    ⟨_, _, _, same, _⟩ | ⟨_, _, _, same, _⟩
  · cases same
  · cases same
    cases at'.symm.trans moving
    have after : AList.lookup ticket
        (world.acted ticket (frame.exec hashKey input world.store)).calls =
          some { op, status := (frame.exec hashKey input world.store).next } := by
      rw [World.acted, Calls.lookup_advance, if_pos rfl, running]
      rfl
    simp only [observe, after]
    cases (frame.exec hashKey input world.store).next <;> rfl
  · cases same
  · cases same

theorem Refines.step {hashKey : String → String} {state later : World × Ledger} {event : Event}
    (refines : Refines hashKey state) (allowed : sequential state.1 event = true)
    (taken : recordedStep hashKey state event = some later) :
    Refines hashKey later ∧ state.2.Extends later.2 := by
  obtain ⟨stepped, observed⟩ := recordedStep_eq_some taken
  have coherently : state.1.Coherently :=
    refines.mono (fun _ _ holds => holds.1) fun _ _ _ holds => holds.1
  have logged : Follows
      (fun store _ => Pends hashKey state.2 later.2 store.pool.apiKeys)
      (fun op frame store => frame.Records hashKey later.2 op store ∧ state.2.Extends later.2)
      later.1 := by
    refine Follows.step refines allowed stepped ?_ ?_ ?_ ?_
    · intro ticket op called rest
      rw [observed, called]
      exact ⟨Op.records_entry rest.2 op, .refl state.2⟩
    · intro ticket op input frame acted running _ sql holds
      subst event
      obtain ⟨going, returning⟩ : (frame.exec hashKey input state.1.store).Logs hashKey state.2 op :=
        Frame.records_exec holds.1 holds.2
      have quiet : (frame.exec hashKey input state.1.store).Keeps := Frame.outline_exec holds.1 sql
      rw [observed, state.2.observe_act running stepped]
      constructor
      · intro next goes
        rw [goes]
        exact ⟨(quiet.1 next goes).1, going next goes, .refl state.2⟩
      · intro result returns
        rw [returns]
        exact returning result returns
    · intro position task written _ rest
      rw [observed, written]
      exact ⟨rest.2.task task, .refl state.2⟩
    · intro now input opened restarted _ rest success
      rw [observed, restarted]
      simp only [Ledger.observe, success, Option.bind_some]
      rcases Store.open_cases success with rfl | ⟨pool, inserted, rfl⟩
      · exact ⟨rest.2, .refl state.2⟩
      · have fresh := rest.2.unknown (Database.insertApiKey_eq_some inserted).1.1
        exact ⟨rest.2.create inserted, Ledger.extends_create fresh _ _ _ _⟩
  have follows := (coherently.step allowed stepped).both logged
  cases follows with
  | idle quiescent holds =>
      exact ⟨.idle quiescent ⟨holds.1, holds.2.recorded⟩, holds.2.grows⟩
  | busy only settled holds => exact ⟨.busy only settled ⟨holds.1, holds.2.1⟩, holds.2.2⟩

/-! ## Authentication -/

/-- The record is of this credential. -/
structure KeyRecord.Carries (record : KeyRecord) (credential : Credential) : Prop where
  tenantId : record.tenantId = credential.tenantId
  label : record.label = credential.label
  role : record.role = credential.role
  createdAt : record.createdAt = credential.createdAt

/-- The driver hands back the expiry that a credential with this secret was given. -/
def Ledger.ExpiryHeld (ledger : Ledger) (rawKey : String) : Prop :=
  ∀ id credential, ledger.lookup id = some credential → credential.secret = rawKey →
    ∀ exp ∈ credential.expiresAt, Driver.Holds exp.toInt64

/-- The answer the ledger gives to a raw key. -/
def Ledger.Answers (ledger : Ledger) (rawKey : String) (now : UInt64) : Option KeyRecord → Prop
  | some record =>
      ∃ credential, ledger.lookup record.id = some credential ∧ credential.Accepts rawKey now ∧
        record.Carries credential
  | none => ∀ id credential, ledger.lookup id = some credential → ¬credential.Accepts rawKey now

section Authenticating

variable {hashKey : String → String} {ledger : Ledger} {store : Store} {row : ApiKeyRow}
  {record : KeyRecord} {credential : Credential} {rawKey : String}

theorem Recorded.backs (recorded : Recorded hashKey ledger store.pool.apiKeys)
    (member : row ∈ store.pool.apiKeys) :
    ∃ credential, ledger.lookup row.id = some credential ∧ row.Backs hashKey credential := by
  obtain ⟨credential, found⟩ := Option.isSome_iff_exists.mp (recorded.entry_of row member)
  obtain ⟨source, sourceMember, sameId, backs⟩ := recorded.row_of found
  have same : source = row :=
    List.inj_on_of_nodup_map store.pool.apiKeys_id_unique sourceMember member sameId
  exact ⟨credential, found, same ▸ backs⟩

/-- A record is active exactly while its credential accepts its secret, if the driver
hands its expiry back. -/
theorem ApiKeyRow.Mirrors.isActive_iff (mirrors : row.Mirrors record)
    (backs : row.Backs hashKey credential) (secret : credential.secret = rawKey)
    (readable : row.revokedAt.isSome = true → (readNullable row.revokedAt).isSome = true)
    (holds : credential.revoked = false → ∀ exp ∈ credential.expiresAt, Driver.Holds exp.toInt64)
    (now : Clock) :
    record.isActive now.seconds = true ↔ credential.Accepts rawKey now.seconds := by
  have live : record.revokedAt = none ↔ credential.revoked = false := by
    rw [mirrors.revokedAt, ← backs.revoked]
    cases column : row.revokedAt with
    | none => simp
    | some stamp =>
        rw [column] at readable
        obtain ⟨read, same⟩ := Option.isSome_iff_exists.mp (readable rfl)
        simp [same]
  have expiry := mirrors.expiry
  rw [backs.expiresAt] at expiry
  rw [KeyRecord.isActive_iff, live]
  constructor
  · intro ⟨notRevoked, current⟩
    exact ⟨secret, notRevoked, (expiry.ahead_iff (holds notRevoked) now).mp current⟩
  · intro accepts
    exact ⟨accepts.live, (expiry.ahead_iff (holds accepts.live) now).mpr accepts.current⟩

theorem ApiKeyRow.Mirrors.carries (coherent : Coherent store) (member : row ∈ store.pool.apiKeys)
    (mirrors : row.Mirrors record) (backs : row.Backs hashKey credential) :
    record.Carries credential := by
  have lasting := mirrors.lasting
  simp only [KeyRecord.withoutExpiry, keyRecordFromRow, KeyRecord.mk.injEq] at lasting
  obtain ⟨_, tenantId, label, role, _, createdAt, _⟩ := lasting
  refine ⟨?_, label.trans backs.label, role.trans backs.role, ?_⟩
  · rw [tenantId, ← backs.tenantId]
    cases column : row.tenantId with
    | none => rfl
    | some owner =>
        have known := store.pool.apiKeys_references row member owner column
        obtain ⟨tenant, tenantMember, rfl⟩ := List.mem_map.mp known
        simp [coherent.written.tenantIds tenant tenantMember]
  · exact createdAt.trans backs.createdAt

/-- `authenticate` gives the answer of the ledger, in two actions at most.  Only the
expiry of an unrevoked credential is ever read. -/
theorem authenticate_answers (coherent : Coherent store)
    (recorded : Recorded hashKey ledger store.pool.apiKeys) (injective : Function.Injective hashKey)
    (rawKey : String)
    (holds : ∀ id credential, ledger.lookup id = some credential → credential.secret = rawKey →
      credential.revoked = false → ∀ exp ∈ credential.expiresAt, Driver.Holds exp.toInt64)
    (first second : Input) :
    ∃ answer,
      store.runAlone hashKey [first, second] (Op.authenticate rawKey).entry =
        some (store, .authenticated answer) ∧
      ledger.Answers rawKey first.now.seconds answer := by
  have secretOf : ∀ {row : ApiKeyRow} {credential : Credential}, row.keyHash = hashKey rawKey →
      row.Backs hashKey credential → credential.secret = rawKey := by
    intro row credential filed backs
    exact injective (backs.keyHash.symm.trans filed)
  cases hit : (store.keys.lookup (hashKey rawKey)).filter
      (KeyRecord.isActive · first.now.seconds) with
  | some record =>
      obtain ⟨cached, active⟩ := Option.filter_eq_some_iff.mp hit
      obtain ⟨row, member, filed, mirrors⟩ := coherent.keys.row_of cached
      obtain ⟨credential, found, backs⟩ := recorded.backs member
      refine ⟨some record, ?_, credential, mirrors.id ▸ found, ?_,
        mirrors.carries coherent member backs⟩
      · simp only [Store.runAlone, Op.entry, Frame.exec, KeyFrame.exec,
          KeyFrame.withKeys_healthy coherent.healthy, hit, Outcome.finish_next,
          Outcome.finish_store]
      · exact (mirrors.isActive_iff backs (secretOf filed backs)
          (coherent.written.revoked row member)
          (holds _ credential found (secretOf filed backs)) first.now).mp active
  | none =>
      have refuses : ∀ id credential, ledger.lookup id = some credential →
          ¬credential.Accepts rawKey first.now.seconds := by
        intro id credential found accepts
        obtain ⟨row, member, _, backs⟩ := recorded.row_of found
        obtain ⟨record, cached⟩ := Option.isSome_iff_exists.mp (coherent.keys.entry_of row member)
        obtain ⟨source, sourceMember, filed, mirrors⟩ := coherent.keys.row_of cached
        have same : source = row := List.inj_on_of_nodup_map store.pool.apiKeys_keyHash_unique
          sourceMember member filed
        subst source
        have active := (mirrors.isActive_iff backs accepts.secret
          (coherent.written.revoked row member)
          (holds id credential found accepts.secret) first.now).mpr accepts
        rw [backs.keyHash, accepts.secret] at cached
        simp [cached, active] at hit
      refine ⟨none, ?_, refuses⟩
      simp only [Store.runAlone, Op.entry, Frame.exec, KeyFrame.exec,
        KeyFrame.withKeys_healthy coherent.healthy, hit, Outcome.goto_next, Outcome.goto_store]
      cases loaded : second.execute (store.pool.selectApiKey (hashKey rawKey)) with
      | none => rfl
      | some row =>
          obtain ⟨member, filed⟩ := findBy_mem (Input.execute_eq_some.mp loaded).2
          obtain ⟨credential, found, backs⟩ := recorded.backs member
          have inactive : ¬(keyRecordFromRow row).isActive first.now.seconds = true := by
            rw [(ApiKeyRow.Mirrors.loaded row).isActive_iff backs (secretOf filed backs)
              (coherent.written.revoked row member)
              (holds _ credential found (secretOf filed backs)) first.now]
            exact refuses row.id credential found
          simp only [if_neg inactive, Outcome.finish_next, Outcome.finish_store]

/-- The secret of nothing but revoked credentials is refused. -/
theorem authenticate_revoked (coherent : Coherent store)
    (recorded : Recorded hashKey ledger store.pool.apiKeys) (injective : Function.Injective hashKey)
    (revoked : ∀ id credential, ledger.lookup id = some credential →
      credential.secret = rawKey → credential.revoked = true)
    (first second : Input) :
    store.runAlone hashKey [first, second] (Op.authenticate rawKey).entry =
      some (store, .authenticated none) := by
  have unread : ∀ id credential, ledger.lookup id = some credential →
      credential.secret = rawKey → credential.revoked = false →
      ∀ exp ∈ credential.expiresAt, Driver.Holds exp.toInt64 := by
    intro id credential found secret live
    rw [revoked id credential found secret] at live
    cases live
  obtain ⟨answer, returned, answers⟩ :=
    authenticate_answers coherent recorded injective rawKey unread first second
  cases answer with
  | none => exact returned
  | some record =>
      obtain ⟨credential, found, accepts, _⟩ := answers
      have dead := revoked record.id credential found accepts.secret
      rw [accepts.live] at dead
      cases dead

end Authenticating

theorem Refines.run {hashKey : String → String} {state later : World × Ledger}
    {events : List Event} (refines : Refines hashKey state)
    (run : RecordedRun hashKey state events later) :
    Refines hashKey later ∧ state.2.Extends later.2 := by
  have preserved : ∀ before event after,
      (Refines hashKey before ∧ state.2.Extends before.2) →
      sequential before.1 event = true → recordedStep hashKey before event = some after →
      Refines hashKey after ∧ state.2.Extends after.2 := by
    intro before event after ⟨old, grown⟩ allowed taken
    obtain ⟨new, grows⟩ := old.step allowed taken
    exact ⟨new, grown.trans grows⟩
  exact run.invariant preserved ⟨refines, .refl state.2⟩

theorem blank_refines (hashKey : String → String) : Refines hashKey (World.blank, ∅) := by
  refine .idle (fun ticket => rfl) ⟨Or.inl ⟨rfl, Coherent.reload ?_⟩, ?_, ?_⟩
  · exact ⟨fun _ member => absurd member List.not_mem_nil,
      fun _ member => absurd member List.not_mem_nil⟩
  · intro id credential found
    cases found
  · intro row member
    cases member

/-- Between operations `authenticate` accepts a raw key exactly when it is the
latest of an id that was never revoked and has not expired, and says whose it
is, if the driver hands the expiry of that id back; every other raw key ever issued
is refused; what was fixed at the creation of an id, and its revocation, are never
undone; and a step is on one id only. -/
theorem credentials_refine_ledger {hashKey : String → String} {events : List Event} {world : World}
    {ledger : Ledger} (injective : Function.Injective hashKey)
    (run : RecordedRun hashKey (World.blank, ∅) events (world, ledger))
    (quiescent : world.calls.Quiescent) (settled : world.tasks = []) :
    (∀ rawKey, ledger.ExpiryHeld rawKey → ∀ first second, ∃ answer,
      world.store.runAlone hashKey [first, second] (Op.authenticate rawKey).entry =
        some (world.store, .authenticated answer) ∧
      ledger.Answers rawKey first.now.seconds answer) ∧
    (∀ id credential rawKey, ledger.lookup id = some credential → (id, rawKey) ∈ world.issued →
      rawKey ≠ credential.secret ∨ credential.revoked = true → ∀ first second,
      world.store.runAlone hashKey [first, second] (Op.authenticate rawKey).entry =
        some (world.store, .authenticated none)) ∧
    (∀ further later, RecordedRun hashKey (world, ledger) further later →
      ledger.Extends later.2) ∧
    ∀ event later, recordedStep hashKey (world, ledger) event = some later →
      ∃ target, ∀ id, id ≠ target → later.2.lookup id = ledger.lookup id := by
  have refines := ((blank_refines hashKey).run run).1
  obtain ⟨rest, recorded⟩ := refines.at_rest quiescent
  rw [settled] at rest
  have coherent : Coherent world.store := rest.coherent
  have owned := World.reachable_keysOwned injective (RecordedRun.reachable run)
  refine ⟨?_, ?_, ?_, ?_⟩
  · intro rawKey held first second
    exact authenticate_answers coherent recorded injective rawKey
      (fun id credential found secret _ => held id credential found secret) first second
  · intro id credential rawKey found issued stale first second
    refine authenticate_revoked coherent recorded injective ?_ first second
    -- A credential with this secret is the one of the id, and that one is revoked.
    intro other accepting acceptingFound secret
    obtain ⟨row, member, sameId, backs⟩ := recorded.row_of acceptingFound
    have mine : world.Issued hashKey (hashKey rawKey) other := by
      rw [← sameId, ← secret, ← backs.keyHash]
      exact owned.rows row member
    have same := owned.unique injective mine ⟨rawKey, issued, rfl⟩
    rw [same, found] at acceptingFound
    cases acceptingFound
    rcases stale with differs | revoked
    · exact absurd secret.symm differs
    · exact revoked
  · intro further later rest
    exact (refines.run rest).2
  · intro event later taken
    rw [(recordedStep_eq_some taken).2]
    exact ledger.observe_elsewhere hashKey world later.1 event

end

open scoped DefaultBackend

def rotatedCredential : Credential :=
  { secret := sampleKey 2
    tenantId := some (sampleId 1).text
    label := "default"
    role := .admin
    createdAt := 1760000000
    expiresAt := none
    revoked := false }

theorem credentials_refine_ledger_after_rotation :
    ∃ (world : World) (ledger : Ledger),
      ledger.lookup (sampleId 2).text = some rotatedCredential ∧
      world.store.runAlone sampleHash [sampleInput 0 4, sampleInput 0 4]
          (Op.authenticate (sampleKey 1)).entry = some (world.store, .authenticated none) ∧
      ∃ answer,
        world.store.runAlone sampleHash [sampleInput 0 4, sampleInput 0 4]
            (Op.authenticate (sampleKey 2)).entry =
          some (world.store, .authenticated answer) ∧
        ledger.Answers (sampleKey 2) (sampleInput 0 4).now.seconds answer := by
  obtain ⟨⟨world, ledger⟩, run, outcome⟩ : ∃ state : World × Ledger,
      RecordedRun sampleHash (World.blank, ∅)
        (tenantSetup ++
          [.call 1 (.rotateKey (sampleId 1).text (sampleId 2).text),
            .act 1 (sampleInput 0 4), .act 1 (sampleInput 0 2), .act 1 (sampleInput 0 4),
            .call 2 (.createKey (sampleId 1).text "ci" .standard (some 1893456000)),
            .act 2 (sampleInput 3 3), .act 2 (sampleInput 0 4)]) state ∧
      (decide state.1.calls.Quiescent && state.1.tasks.isEmpty &&
        decide (state.2.lookup (sampleId 2).text = some rotatedCredential) &&
        decide (((sampleId 2).text, sampleKey 1) ∈ state.1.issued) &&
        state.2.values.all fun credential =>
          credential.expiresAt.all fun exp => decide (Driver.Holds exp.toInt64)) = true :=
    Run.exists_of_runEvents (by decide +kernel)
  obtain ⟨⟨⟨⟨quiescent, settled⟩, found⟩, issued⟩, fits⟩ : (((_ ∧ _) ∧ _) ∧ _) ∧ _ := by
    simpa only [Bool.and_eq_true, decide_eq_true_eq, List.isEmpty_iff] using outcome
  have held : ledger.ExpiryHeld (sampleKey 2) := by
    intro id credential stored _ exp given
    have listed := List.all_eq_true.mp fits credential (Dict.mem_values_iff.mpr ⟨id, stored⟩)
    exact of_decide_eq_true ((Option.all_eq_true _ _).mp listed exp given)
  obtain ⟨answers, stale, _⟩ :=
    credentials_refine_ledger sampleHash_injective run quiescent settled
  exact ⟨world, ledger, found,
    stale _ _ _ found issued (Or.inl (by decide)) _ _, answers _ held _ _⟩

end SpellServer
