import SpellServer.Store.Coherence

/-!
# Bootstrap keys

A key without a tenant is inserted without an expiry, in every run.  So which
bootstrap keys are active does not depend on the time, and a cache that mirrors
the table holds the ones a reload would read.
-/

namespace SpellServer

open Library

/-! ## Keys without a tenant never expire -/

def Database.PlatformKeysLast (pool : Database) : Prop :=
  ∀ row ∈ pool.apiKeys, row.tenantId = none → row.expiresAt = none

def Frame.InsertsLasting [Driver] : Frame → Prop
  | .key (.createInsert tenantId _ _ expiresAt _) => tenantId = none → expiresAt = none
  | _ => True

namespace Database.PlatformKeysLast

variable {hashKey : String → String} {pool later : Database}

theorem of_same (lasts : pool.PlatformKeysLast) (apiKeys : later.apiKeys = pool.apiKeys) :
    later.PlatformKeysLast := by
  unfold PlatformKeysLast
  rw [apiKeys]
  exact lasts

theorem insertApiKey {row : ApiKeyRow} (lasts : pool.PlatformKeysLast)
    (inserted : pool.insertApiKey row = some later)
    (lasting : row.tenantId = none → row.expiresAt = none) : later.PlatformKeysLast :=
  Database.forall_insertApiKey lasts inserted lasting

theorem changeRows {id : String} {change : ApiKeyRow → ApiKeyRow} (lasts : pool.PlatformKeysLast)
    (changed : later.apiKeys = pool.apiKeys.map fun row => if row.id = id then change row else row)
    (keeps : ∀ row, (change row).tenantId = row.tenantId ∧ (change row).expiresAt = row.expiresAt) :
    later.PlatformKeysLast := by
  apply Database.forall_changeApiKeys lasts changed
  intro row lasting
  rw [(keeps row).1, (keeps row).2]
  exact lasting

theorem writes [Driver] {input : Input} {frame : KeyFrame} (lasts : pool.PlatformKeysLast)
    (lasting : (Frame.key frame).InsertsLasting) (writes : frame.Writes hashKey input pool later) :
    later.PlatformKeysLast := by
  cases writes with
  | nothing => exact lasts
  | inserts inserted =>
      apply lasts.insertApiKey inserted
      intro unowned
      simp [newApiKeyRow, newApiKey, lasting unowned]
  | revokes id keyHash => exact lasts.changeRows rfl fun row => ⟨rfl, rfl⟩
  | rekeys updated =>
      exact lasts.changeRows (Database.updateKeyHash_eq_some updated).2.1 fun row => ⟨rfl, rfl⟩

theorem exec [Driver] {input : Input} {store : Store} (lasts : store.pool.PlatformKeysLast)
    {frame : Frame} (lasting : frame.InsertsLasting) :
    (frame.exec hashKey input store).store.pool.PlatformKeysLast := by
  cases frame with
  | key frame => exact lasts.writes lasting frame.exec_writes
  | tenant frame => exact lasts.of_same (frame.exec_local input store).keys.apiKeys
  | origin frame => exact lasts.of_same (frame.exec_local input store).keys.apiKeys
  | dictionary frame => exact lasts.of_same (frame.exec_local input store).keys.apiKeys

end Database.PlatformKeysLast

/-- Only a bootstrap key is inserted without a tenant, and it has no expiry. -/
theorem Frame.exec_insertsLasting [Driver] {hashKey : String → String} {input : Input}
    {store : Store}
    {frame later : Frame} (goes : (frame.exec hashKey input store).next = .running later) :
    later.InsertsLasting := by
  cases frame with
  | key frame =>
      obtain ⟨mine, rfl⟩ := KeyFrame.exec_next goes
      cases mine with
      | createInsert tenantId label role expiresAt caller =>
          obtain ⟨_, _, lasting⟩ := KeyFrame.exec_inserts goes
          exact fun _ => lasting
      | _ => trivial
  | tenant frame =>
      rcases TenantFrame.exec_next goes with ⟨other, rfl⟩ | ⟨tenantId, info, rfl⟩
      · trivial
      · intro unowned
        cases unowned
  | origin frame =>
      obtain ⟨other, rfl⟩ := OriginFrame.exec_next goes
      trivial
  | dictionary frame =>
      obtain ⟨other, rfl⟩ := DictionaryFrame.exec_next goes
      trivial

structure World.PlatformKeysLast [Driver] (world : World) : Prop where
  rows : world.store.pool.PlatformKeysLast
  frames : ∀ ticket frame, world.calls.frameAt ticket = some frame → frame.InsertsLasting

theorem World.PlatformKeysLast.step [Driver] {hashKey : String → String} {world next : World}
    {event : Event} (lasts : world.PlatformKeysLast)
    (taken : world.step hashKey event = some next) : next.PlatformKeysLast := by
  constructor
  · rcases step_cases taken with ⟨ticket, op, rfl, free, rfl⟩ |
      ⟨ticket, input, frame, rfl, _, running, rfl⟩ |
      ⟨position, succeeds, task, rfl, _, rfl⟩ | ⟨now, input, opened, rfl, _, success, rfl⟩
    · exact lasts.rows
    · exact lasts.rows.exec (lasts.frames ticket frame running)
    · cases succeeds with
      | false => exact lasts.rows
      | true =>
          cases task with
          | lastUsedAt id nowTs => exact lasts.rows.changeRows rfl fun row => ⟨rfl, rfl⟩
          | requestCount tenantId newCount => exact lasts.rows.of_same rfl
    · rcases Store.open_cases success with rfl | ⟨inserted, accepted, rfl⟩
      · exact lasts.rows
      · exact lasts.rows.insertApiKey accepted fun _ => rfl
  · intro ticket frame seen
    rcases frameAt_cases taken seen with before | ⟨op, rfl, rfl⟩ | ⟨input, old, _, _, goes, _⟩
    · exact lasts.frames ticket frame before
    · cases op with
      | createKey tenantId label role expiresAt =>
          intro unowned
          cases unowned
      | _ => trivial
    · exact Frame.exec_insertsLasting goes

theorem World.reachable_platformKeysLast [Driver] {hashKey : String → String} {world : World}
    (reached : Reachable hashKey world) : world.store.pool.PlatformKeysLast := by
  obtain ⟨events, run⟩ := reached
  have initial : World.blank.PlatformKeysLast := by
    constructor
    · intro row member
      cases member
    · intro ticket frame seen
      cases seen
  exact (run.invariant (fun _ _ _ lasts _ taken => lasts.step taken) initial).rows

/-! ## The active ones -/

theorem isBootstrap_iff {now : UInt64} {record : KeyRecord} :
    isBootstrap now record = true ↔
      record.role = .platform ∧ record.label = "bootstrap" ∧ record.tenantId = none ∧
        record.isActive now = true := by
  simp [isBootstrap, and_assoc]

/-- The keys that `reset_bootstrap_platform_key` collects. -/
def Store.bootstrapKeys (store : Store) (now : UInt64) : List KeyRecord :=
  store.keys.values.filter (isBootstrap now)

theorem Store.mem_bootstrapKeys {store : Store} {now : UInt64} {record : KeyRecord} :
    record ∈ store.bootstrapKeys now ↔
      (∃ hash, store.keys.lookup hash = some record) ∧ isBootstrap now record = true := by
  rw [bootstrapKeys, List.mem_filter, Dict.mem_values_iff]

namespace KeysMirrored

variable {pool : Database} {keys other : Dict String KeyRecord} {hash : String}
  {record : KeyRecord}

theorem lasting [Driver] (mirrored : KeysMirrored pool.apiKeys keys) (written : pool.Written)
    (lasts : pool.PlatformKeysLast) (stored : keys.lookup hash = some record)
    (unowned : record.tenantId = none) : record.expiresAt = none := by
  obtain ⟨row, member, _, mirrors⟩ := mirrored.row_of stored
  rw [mirrors.tenantId, written.tenantId_loaded member] at unowned
  have column := lasts row member unowned
  rcases mirrors.expiry with written | loaded
  · rw [column] at written
    exact Option.map_eq_none_iff.mp written.symm
  · rw [loaded, column, readNullable_none]

/-- An entry without a tenant is in every cache of the same rows. -/
theorem shared [Driver] (mirrored : KeysMirrored pool.apiKeys keys)
    (otherwise : KeysMirrored pool.apiKeys other) (written : pool.Written)
    (lasts : pool.PlatformKeysLast) (unowned : record.tenantId = none)
    (stored : keys.lookup hash = some record) : other.lookup hash = some record := by
  obtain ⟨row, member, rfl, mirrors⟩ := mirrored.row_of stored
  obtain ⟨copy, found⟩ := Option.isSome_iff_exists.mp (otherwise.entry_of row member)
  obtain ⟨source, sourceMember, filed, copies⟩ := otherwise.row_of found
  have sameRow : source = row :=
    List.inj_on_of_nodup_map pool.apiKeys_keyHash_unique sourceMember member filed
  subst sameRow
  have lasting : copy.withoutExpiry = record.withoutExpiry :=
    copies.lasting.trans mirrors.lasting.symm
  have sameTenant : copy.tenantId = record.tenantId := copies.tenantId.trans mirrors.tenantId.symm
  have sameExpiry : copy.expiresAt = record.expiresAt := by
    rw [mirrored.lasting written lasts stored unowned,
      otherwise.lasting written lasts found (sameTenant.trans unowned)]
  simp only [KeyRecord.withoutExpiry, KeyRecord.mk.injEq] at lasting
  rw [found]
  cases copy
  cases record
  simp_all

end KeysMirrored

namespace Coherent

variable {store : Store}

/-- Time does not matter to keys that never expire. -/
theorem bootstrapKeys_anytime [Driver] (coherent : Coherent store)
    (lasts : store.pool.PlatformKeysLast)
    (now later : UInt64) : store.bootstrapKeys now = store.bootstrapKeys later := by
  apply List.filter_congr
  intro record member
  obtain ⟨hash, stored⟩ := Dict.mem_values_iff.mp member
  cases owner : record.tenantId with
  | some tenantId => simp [isBootstrap, owner]
  | none =>
      have lasting := KeysMirrored.lasting coherent.keys coherent.written lasts stored owner
      simp [isBootstrap, KeyRecord.isActive, lasting]

theorem bootstrapKeys_reload [Driver] (coherent : Coherent store)
    (lasts : store.pool.PlatformKeysLast) (now : UInt64) :
    ((Store.reload store.pool).bootstrapKeys now).Perm (store.bootstrapKeys now) := by
  have reloaded := Coherent.reload coherent.written
  apply Dict.values_filter_perm
  intro hash record bootstrap
  obtain ⟨_, _, unowned, _⟩ := isBootstrap_iff.mp bootstrap
  constructor
  · exact KeysMirrored.shared reloaded.keys coherent.keys coherent.written lasts unowned
  · exact KeysMirrored.shared coherent.keys reloaded.keys coherent.written lasts unowned

end Coherent

end SpellServer
