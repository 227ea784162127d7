import SpellServer.Http.Admission
import SpellServer.Store.UntouchedKeys

/-!
# A key that nobody touches opens the gate

Whatever the other callers do with their keys, and however often the server is
started anew, only an expiry, a cooldown of the address and a poisoned lock stand
between a key and the handlers behind `require_active_key`.
-/

namespace SpellServer

open Library

/-- A cached active entry answers at once. -/
theorem presentedKey_cached [Driver] {hashKey : String → String} {ambient : Ambient} {store : Store}
    {request : Request} {rawKey : String} {record : KeyRecord}
    (healthy : store.keysPoisoned = false) (given : request.rawKey = some rawKey)
    (stored : store.keys.lookup (hashKey rawKey) = some record)
    (active : record.isActive ambient.authLookup.now.seconds = true) :
    presentedKey hashKey ambient store request = some record := by
  have hit : (store.keys.lookup (hashKey rawKey)).filter
      (KeyRecord.isActive · ambient.authLookup.now.seconds) = some record :=
    Option.filter_eq_some_iff.mpr ⟨stored, active⟩
  have authenticated : store.authenticate hashKey ambient rawKey = some (store, some record) := by
    simp [Store.authenticate, Store.runAlone, Op.entry, Frame.exec, KeyFrame.exec,
      KeyFrame.withKeys_healthy healthy, hit]
  simp [presentedKey, given, authenticated]

/-- In every run in which no call revokes or rotates the key in its tenant's name,
from the moment `create_key` has returned it a request that presents it before its
expiry passes `require_active_key`, with the tenant and the role it was created
with, unless its address is in a cooldown or the lock on the keys is poisoned.  The
driver hands the expiry back. -/
theorem untouched_key_admitted [Driver] {hashKey : String → String} {world : World}
    {events : List Event}
    {ticket : ℕ} {tenantId label : String} {role : Role} {expiresAt : Option UInt64}
    {created : CreatedApiKey} {ambient : Ambient} {state : AppState} {request : Request}
    (injective : Function.Injective hashKey)
    (run : World.RunWhen hashKey
      (fun _ event => event.rewrites tenantId created.record.id = false) World.blank events world)
    (returned : world.calls.Returned ticket (.createKey tenantId label role expiresAt)
      (.createdKey created))
    (holds : ∀ exp ∈ expiresAt, Driver.Holds exp.toInt64)
    (serves : state.store = world.store) (healthy : world.store.keysPoisoned = false)
    (presents : request.rawKey = some created.rawKey)
    (unexpired : ∀ exp, expiresAt = some exp → ambient.authLookup.now.seconds < exp)
    (cool : ¬state.rateLimiter.InCooldown ambient.checkedAt (clientIp request.connectInfo)) :
    ∃ later record, requireActiveKey hashKey ambient state request =
        .next later { request with keyRecord := some record } ∧
      record.id = created.record.id ∧ record.tenantId = some tenantId ∧ record.role = role := by
  obtain ⟨record, stored, sameId, owner, sameRole, _, active⟩ :=
    untouched_key_cached injective run returned holds
  rw [← serves] at stored healthy
  have presented : presentedKey hashKey ambient state.store request = some record :=
    presentedKey_cached healthy presents stored (active _ unexpired)
  obtain ⟨later, admits, _⟩ := requireActiveKey_admits cool presented
  exact ⟨later, record, admits, sameId, owner, sameRole⟩

open scoped DefaultBackend

/-- A second key of the tenant, created while the first one is being rotated; then
the first one is revoked and the server started anew. -/
def secondKeyCreated : List Event :=
  let tenantId := (sampleId 1).text
  [.call 1 (.rotateKey tenantId (sampleId 2).text),
    .call 2 (.createKey tenantId "ci" .standard (some 1893456000)),
    .act 1 (sampleInput 0 4), .act 2 (sampleInput 3 2), .act 1 (sampleInput 0 3),
    .act 2 (sampleInput 0 4), .act 1 (sampleInput 0 4),
    .call 3 (.revokeKey tenantId (sampleId 2).text),
    .act 3 (sampleInput 0 4), .act 3 (sampleInput 0 4), .act 3 (sampleInput 0 4),
    .restart (sampleInput 0 4).now (sampleInput 0 4)]

def secondKey : CreatedApiKey :=
  newApiKey sampleHash (sampleInput 3 2) (some (sampleId 1).text) "ci" .standard (some 1893456000)

def secondKeyRequest : Request :=
  .arriving [("x-api-key", .ofText (sampleKey 2) (by decide))] none

theorem untouched_key_admitted_after_restart :
    ∃ world later record, World.Reachable sampleHash world ∧
      (∀ other ∈ world.store.pool.apiKeys, other.id = (sampleId 2).text →
        other.revokedAt.isSome = true) ∧
      requireActiveKey sampleHash sampleAmbient (.started world.store unrestricted)
          secondKeyRequest =
        .next later { secondKeyRequest with keyRecord := some record } ∧
      record.tenantId = some (sampleId 1).text ∧ record.role = .standard := by
  obtain ⟨world, run, outcome⟩ :=
    World.exists_run sampleHash
      (fun _ event => !event.rewrites (sampleId 1).text secondKey.record.id)
      (tenantSetup ++ secondKeyCreated)
      (fun world => decide (world.calls.Returned 2
          (.createKey (sampleId 1).text "ci" .standard (some 1893456000))
          (.createdKey secondKey)) &&
        !world.store.keysPoisoned &&
        world.store.pool.apiKeys.all fun other =>
          other.id ≠ (sampleId 2).text || other.revokedAt.isSome)
      (by decide +kernel)
  obtain ⟨⟨returned, healthy⟩, revoked⟩ :
      (world.calls.Returned 2 (.createKey (sampleId 1).text "ci" .standard (some 1893456000))
        (.createdKey secondKey) ∧ world.store.keysPoisoned = false) ∧
      ∀ other ∈ world.store.pool.apiKeys, other.id = (sampleId 2).text →
        other.revokedAt.isSome = true := by
    simpa [imp_iff_not_or] using outcome
  have spared : World.RunWhen sampleHash
      (fun _ event => event.rewrites (sampleId 1).text secondKey.record.id = false) World.blank
      (tenantSetup ++ secondKeyCreated) world :=
    run.weaken fun _ _ allowed => by simpa using allowed
  let state : AppState := .started world.store unrestricted
  have presents : secondKeyRequest.rawKey = some secondKey.rawKey := by decide
  have unexpired : ∀ exp, some 1893456000 = some exp →
      sampleAmbient.authLookup.now.seconds < exp := by
    intro exp same
    cases same
    decide
  have holds : ∀ exp ∈ (some 1893456000 : Option UInt64), Driver.Holds exp.toInt64 := by
    intro exp same
    cases same
    decide
  have cool : ¬state.rateLimiter.InCooldown sampleAmbient.checkedAt
      (clientIp secondKeyRequest.connectInfo) := by
    intro cooling
    obtain ⟨entry, cooldownEnd, found, _⟩ := cooling
    cases found
  have serves : state.store = world.store := rfl
  obtain ⟨later, record, admits, _, owner, role⟩ :=
    untouched_key_admitted sampleHash_injective spared returned holds serves healthy presents
      unexpired cool
  exact ⟨world, later, record, ⟨_, run.weaken fun _ _ _ => trivial⟩, revoked, admits, owner, role⟩

end SpellServer
