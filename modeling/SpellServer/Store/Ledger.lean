import SpellServer.Store.Coherence

/-!
# The ledger of credentials

What the key operations are for, without hashes, caches and tables: a key id
has one secret at a time, some fixed data, and may be revoked.  The ledger is
kept from what operations return, so it is a record of what callers were told.
-/

namespace SpellServer

open Library

/-- The latest secret of a key id and what was fixed at its creation. -/
structure Credential where
  secret : String
  tenantId : Option String
  label : String
  role : Role
  createdAt : UInt64
  expiresAt : Option UInt64
  revoked : Bool
deriving DecidableEq, Repr

/-- The secret is the one presented, not revoked, and not expired. -/
structure Credential.Accepts (credential : Credential) (rawKey : String) (now : UInt64) :
    Prop where
  secret : credential.secret = rawKey
  live : credential.revoked = false
  current : ∀ exp, credential.expiresAt = some exp → now < exp

abbrev Ledger := Dict String Credential

namespace Ledger

def create (ledger : Ledger) (created : CreatedApiKey) (tenantId : Option String)
    (label : String) (role : Role) (expiresAt : Option UInt64) : Ledger :=
  AList.insert created.record.id
    { secret := created.rawKey
      tenantId
      label
      role
      createdAt := created.record.createdAt
      expiresAt
      revoked := false } ledger

def reissue (ledger : Ledger) (id rawKey : String) : Ledger :=
  ledger.modify id fun credential => { credential with secret := rawKey }

def revoke (ledger : Ledger) (id : String) : Ledger :=
  ledger.modify id fun credential => { credential with revoked := true }

/-- What a returned operation does to the ledger. -/
def record (ledger : Ledger) : Op → Result → Ledger
  | .createKey tenantId label role expiresAt, .createdKey created =>
      ledger.create created (some tenantId) label role expiresAt
  | .createTenant .., .createdTenant info adminKey =>
      ledger.create adminKey (some info.id) "default" .admin none
  | .rotateKey _ id, .rotatedKey (some created) => ledger.reissue id created.rawKey
  | .revokeKey _ id, .revokedKey true => ledger.revoke id
  | .resetBootstrapPlatformKey, .resetKey created =>
      if (ledger.lookup created.record.id).isSome then
        ledger.reissue created.record.id created.rawKey
      else ledger.create created none "bootstrap" .platform none
  | _, _ => ledger

/-- The ledger after an event.  A start may return a bootstrap key. -/
def observe [Driver] (hashKey : String → String) (ledger : Ledger)
    (world next : World) : Event → Ledger
  | .act ticket _ =>
      match next.calls.lookup ticket with
      | some { op, status := .returned result } => ledger.record op result
      | _ => ledger
  | .restart now input =>
      match (Store.open hashKey now input world.store.pool).bind Opened.bootstrap with
      | some created => ledger.create created none "bootstrap" .platform none
      | none => ledger
  | .call _ _ | .background _ _ => ledger

end Ledger

/-- A world with the ledger of everything it has returned. -/
def recordedStep [Driver] (hashKey : String → String) (state : World × Ledger) (event : Event) :
    Option (World × Ledger) :=
  (state.1.step hashKey event).map fun next =>
    (next, state.2.observe hashKey state.1 next event)

/-- Sequential runs of the world and its ledger. -/
abbrev RecordedRun [Driver]
    (hashKey : String → String) : World × Ledger → List Event → World × Ledger → Prop :=
  Run (recordedStep hashKey) fun state event => sequential state.1 event = true

theorem recordedStep_eq_some [Driver] {hashKey : String → String} {state later : World × Ledger}
    {event : Event} (taken : recordedStep hashKey state event = some later) :
    state.1.step hashKey event = some later.1 ∧
      later.2 = state.2.observe hashKey state.1 later.1 event := by
  obtain ⟨next, stepped, rfl⟩ := Option.map_eq_some_iff.mp taken
  exact ⟨stepped, rfl⟩

theorem RecordedRun.reachable [Driver] {hashKey : String → String} {state : World × Ledger}
    {events : List Event} (run : RecordedRun hashKey (World.blank, ∅) events state) :
    World.Reachable hashKey state.1 := by
  have preserved : ∀ before event after, World.Reachable hashKey before.1 →
      sequential before.1 event = true → recordedStep hashKey before event = some after →
      World.Reachable hashKey after.1 := by
    intro before event after ⟨earlier, reached⟩ _ taken
    exact ⟨earlier ++ [event], reached.snoc trivial (recordedStep_eq_some taken).1⟩
  exact run.invariant preserved ⟨[], .nil World.blank⟩

/-! ## What operations leave alone -/

/-- Ids stay known with what was fixed at their creation, and revoked ids stay
revoked. -/
def Ledger.Extends (ledger later : Ledger) : Prop :=
  ∀ id credential, ledger.lookup id = some credential →
    ∃ updated, later.lookup id = some updated ∧
      (updated.tenantId, updated.label, updated.role, updated.createdAt, updated.expiresAt) =
        (credential.tenantId, credential.label, credential.role, credential.createdAt,
          credential.expiresAt) ∧
      (credential.revoked = true → updated.revoked = true)

namespace Ledger

variable {ledger middle later : Ledger}

theorem Extends.refl (ledger : Ledger) : ledger.Extends ledger :=
  fun _ credential found => ⟨credential, found, rfl, fun revoked => revoked⟩

theorem Extends.trans (first : ledger.Extends middle) (second : middle.Extends later) :
    ledger.Extends later := by
  intro id credential found
  obtain ⟨updated, updatedFound, fixed, stays⟩ := first id credential found
  obtain ⟨latest, latestFound, fixedLater, staysLater⟩ := second id updated updatedFound
  exact ⟨latest, latestFound, fixedLater.trans fixed, fun revoked => staysLater (stays revoked)⟩

theorem extends_create {created : CreatedApiKey} (fresh : ledger.lookup created.record.id = none)
    (tenantId : Option String) (label : String) (role : Role) (expiresAt : Option UInt64) :
    ledger.Extends (ledger.create created tenantId label role expiresAt) := by
  intro id credential found
  refine ⟨credential, ?_, rfl, fun revoked => revoked⟩
  rw [create, Dict.lookup_insert_ite, if_neg]
  · exact found
  · intro same
    rw [same, fresh] at found
    cases found

theorem extends_reissue (ledger : Ledger) (id rawKey : String) :
    ledger.Extends (ledger.reissue id rawKey) := by
  intro other credential found
  rw [reissue, Dict.lookup_modify]
  split
  · rename_i same
    rw [← same, found]
    exact ⟨_, rfl, rfl, fun revoked => revoked⟩
  · exact ⟨credential, found, rfl, fun revoked => revoked⟩

theorem extends_revoke (ledger : Ledger) (id : String) : ledger.Extends (ledger.revoke id) := by
  intro other credential found
  rw [revoke, Dict.lookup_modify]
  split
  · rename_i same
    rw [← same, found]
    exact ⟨_, rfl, rfl, fun _ => rfl⟩
  · exact ⟨credential, found, rfl, fun revoked => revoked⟩

theorem create_elsewhere (created : CreatedApiKey) (tenantId : Option String) (label : String)
    (role : Role) (expiresAt : Option UInt64) {id : String} (other : id ≠ created.record.id) :
    AList.lookup id (ledger.create created tenantId label role expiresAt) = ledger.lookup id := by
  rw [create, Dict.lookup_insert_ite, if_neg other]

theorem reissue_elsewhere (rawKey : String) {id target : String} (other : id ≠ target) :
    AList.lookup id (ledger.reissue target rawKey) = ledger.lookup id := by
  rw [reissue, Dict.lookup_modify, if_neg other]

/-- An operation is on one id at most. -/
theorem record_elsewhere (ledger : Ledger) (op : Op) (result : Result) :
    ∃ target, ∀ id, id ≠ target → (ledger.record op result).lookup id = ledger.lookup id := by
  unfold record
  split
  · exact ⟨_, fun id other => create_elsewhere _ _ _ _ _ other⟩
  · exact ⟨_, fun id other => create_elsewhere _ _ _ _ _ other⟩
  · exact ⟨_, fun id other => reissue_elsewhere _ other⟩
  · rename_i _ target
    refine ⟨target, fun id other => ?_⟩
    rw [revoke, Dict.lookup_modify, if_neg other]
  · rename_i created
    refine ⟨created.record.id, fun id other => ?_⟩
    split
    · exact reissue_elsewhere _ other
    · exact create_elsewhere _ _ _ _ _ other
  · exact ⟨"", fun _ _ => rfl⟩

theorem observe_elsewhere [Driver] (hashKey : String → String) (ledger : Ledger)
    (world next : World) (event : Event) :
    ∃ target, ∀ id, id ≠ target →
      (ledger.observe hashKey world next event).lookup id = ledger.lookup id := by
  cases event with
  | act ticket input =>
      simp only [observe]
      split
      · exact ledger.record_elsewhere _ _
      · exact ⟨"", fun _ _ => rfl⟩
  | restart now input =>
      simp only [observe]
      split
      · exact ⟨_, fun id other => create_elsewhere _ _ _ _ _ other⟩
      · exact ⟨"", fun _ _ => rfl⟩
  | call ticket op => exact ⟨"", fun _ _ => rfl⟩
  | background position succeeds => exact ⟨"", fun _ _ => rfl⟩

end Ledger

end SpellServer
