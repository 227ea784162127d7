import SpellServer.Store.Locality

/-!
# What one action does to the keys

The rows a key action writes, where the entries it leaves in the cache come
from, and where the call has got the record it carries to its next action.
-/

namespace SpellServer

open Library

/-- The same key, revoked if it was, and perhaps renewed otherwise. -/
structure KeyRecord.Renews (record old : KeyRecord) : Prop where
  id : record.id = old.id
  tenantId : record.tenantId = old.tenantId
  role : record.role = old.role
  revoked : old.revokedAt.isSome = true → record.revokedAt.isSome = true

namespace KeyRecord

theorem Renews.refl (record : KeyRecord) : record.Renews record :=
  ⟨rfl, rfl, rfl, fun revoked => revoked⟩

theorem renews_revoke (revokedAt : UInt64) (record : KeyRecord) :
    (record.revoke revokedAt).Renews record :=
  ⟨rfl, rfl, rfl, by simp [revoke]⟩

theorem renews_touch (nowTs : UInt64) (record : KeyRecord) :
    (record.touch nowTs).Renews record :=
  ⟨rfl, rfl, rfl, fun revoked => revoked⟩

theorem renews_rekey (newHash : String) (record : KeyRecord) :
    (record.rekey newHash).Renews record :=
  ⟨rfl, rfl, rfl, fun revoked => revoked⟩

end KeyRecord

/-- The table after an action: only three of them write a row. -/
inductive KeyFrame.Writes [Driver] (hashKey : String → String) (input : Input) (pool : Database) :
    KeyFrame → Database → Prop where
  | nothing (frame : KeyFrame) : Writes hashKey input pool frame pool
  | inserts {tenantId : Option String} {label : String} {role : Role}
      {expiresAt : Option UInt64} {caller : Caller} {later : Database} :
      pool.insertApiKey
          (newApiKeyRow (newApiKey hashKey input tenantId label role expiresAt).record) =
        some later →
      Writes hashKey input pool (.createInsert tenantId label role expiresAt caller) later
  | revokes (id keyHash : String) :
      Writes hashKey input pool (.revokeUpdate id keyHash)
        (pool.updateRevokedAt id input.now.seconds.toInt64)
  | rekeys {oldHash id : String} {caller : Caller} {later : Database} :
      pool.updateKeyHash id (hashKey input.rawKey) = some later →
      Writes hashKey input pool (.rotateUpdate oldHash id caller) later

/-- The raw keys an action generates, with the table it leaves. -/
inductive KeyFrame.Issues [Driver] (hashKey : String → String) (input : Input) (pool : Database) :
    KeyFrame → Database → List (String × String) → Prop where
  | nothing {frame : KeyFrame} {later : Database} :
      frame.Writes hashKey input pool later → Issues hashKey input pool frame later []
  | inserts {tenantId : Option String} {label : String} {role : Role}
      {expiresAt : Option UInt64} {caller : Caller} {later : Database} :
      pool.insertApiKey
          (newApiKeyRow (newApiKey hashKey input tenantId label role expiresAt).record) =
        some later →
      Issues hashKey input pool (.createInsert tenantId label role expiresAt caller) later
        [(input.newId.text, input.rawKey)]
  | rekeys {oldHash id : String} {caller : Caller} {later : Database} :
      pool.updateKeyHash id (hashKey input.rawKey) = some later →
      Issues hashKey input pool (.rotateUpdate oldHash id caller) later [(id, input.rawKey)]

/-- An entry of the cache after an action: one from before, changed only by the
action that finds it, or a record the call has brought. -/
inductive KeyFrame.Leaves [Driver] (keys : Dict String KeyRecord) :
    KeyFrame → String → KeyRecord → Prop where
  | kept {frame : KeyFrame} {hash : String} {record : KeyRecord} :
      keys.lookup hash = some record → Leaves keys frame hash record
  | revoked (id : String) (revokedAt : Clock) {hash : String} {old : KeyRecord} :
      keys.lookup hash = some old →
      Leaves keys (.revokeMark id hash revokedAt) hash (old.revoke revokedAt.seconds)
  | touched (id : String) (nowTs : Clock) {hash : String} {old : KeyRecord} :
      keys.lookup hash = some old →
      Leaves keys (.touchMark id hash nowTs) hash (old.touch nowTs.seconds)
  | rekeyed {oldHash : String} (newHash rawKey id : String) (caller : Caller) {old : KeyRecord} :
      keys.lookup oldHash = some old →
      Leaves keys (.rotateRekey oldHash newHash rawKey id caller) newHash (old.rekey newHash)
  | created (created : CreatedApiKey) (caller : Caller) :
      Leaves keys (.createCache created caller) created.record.keyHash created.record
  | loaded (hash : String) (record : KeyRecord) :
      Leaves keys (.authStore hash record) hash record

/-- The same, for properties that renewals keep. -/
inductive KeyFrame.Files [Driver] (keys : Dict String KeyRecord) :
    KeyFrame → String → KeyRecord → Prop where
  | renewed {frame : KeyFrame} {hash source : String} {record old : KeyRecord} :
      keys.lookup source = some old → record.Renews old → Files keys frame hash record
  | created (created : CreatedApiKey) (caller : Caller) :
      Files keys (.createCache created caller) created.record.keyHash created.record
  | loaded (hash : String) (record : KeyRecord) :
      Files keys (.authStore hash record) hash record

namespace KeyFrame

variable [Driver] {hashKey : String → String} {input : Input} {store : Store}

theorem exec_writes (frame : KeyFrame) :
    frame.Writes hashKey input store.pool (frame.exec hashKey input store).store.pool := by
  cases frame with
  | createInsert tenantId label role expiresAt caller =>
      simp only [exec]
      split
      · exact .nothing _
      · rename_i pool executed
        exact .inserts (Input.execute_eq_some.mp executed).2
  | revokeUpdate id keyHash =>
      simp only [exec]
      split
      · exact .nothing _
      · rename_i pool executed
        cases (Input.execute_eq_some.mp executed).2
        exact .revokes id keyHash
  | rotateUpdate oldHash id caller =>
      simp only [exec]
      split
      · exact .nothing _
      · rename_i pool executed
        exact .rekeys (Input.execute_eq_some.mp executed).2
  | _ =>
      simp only [exec, withKeys]
      (repeat' split) <;> exact .nothing _

private theorem issues_quiet {frame : KeyFrame}
    (quiet : (frame.exec hashKey input store).issued = []) :
    frame.Issues hashKey input store.pool (frame.exec hashKey input store).store.pool
      (frame.exec hashKey input store).issued := by
  rw [quiet]
  exact .nothing frame.exec_writes

theorem exec_issues (frame : KeyFrame) :
    frame.Issues hashKey input store.pool (frame.exec hashKey input store).store.pool
      (frame.exec hashKey input store).issued := by
  cases frame with
  | createInsert tenantId label role expiresAt caller =>
      simp only [exec]
      split
      · exact .nothing (.nothing _)
      · rename_i pool executed
        exact .inserts (Input.execute_eq_some.mp executed).2
  | rotateUpdate oldHash id caller =>
      simp only [exec]
      split
      · exact .nothing (.nothing _)
      · rename_i pool executed
        exact .rekeys (Input.execute_eq_some.mp executed).2
  | _ =>
      apply issues_quiet
      simp only [exec, withKeys]
      (repeat' split) <;> rfl

private theorem leaves_modified {frame : KeyFrame} {hash keyHash : String} {record : KeyRecord}
    {change : KeyRecord → KeyRecord}
    (changed : ∀ old, store.keys.lookup keyHash = some old →
      frame.Leaves store.keys keyHash (change old))
    (found : (store.keys.modify keyHash change).lookup hash = some record) :
    frame.Leaves store.keys hash record := by
  rw [Dict.lookup_modify] at found
  split at found
  · rename_i here
    obtain ⟨old, stored, rfl⟩ := Option.map_eq_some_iff.mp found
    rw [here]
    exact changed old stored
  · exact .kept found

theorem exec_leaves {frame : KeyFrame} {hash : String} {record : KeyRecord}
    (found : (frame.exec hashKey input store).store.keys.lookup hash = some record) :
    frame.Leaves store.keys hash record := by
  cases frame with
  | createCache created caller =>
      simp only [exec, withKeys] at found
      split at found
      · exact .kept found
      · rw [Outcome.finish_store, Dict.lookup_insert_ite] at found
        split at found
        · rename_i here
          cases found
          cases here
          exact .created created caller
        · exact .kept found
  | revokeMark id keyHash revokedAt =>
      simp only [exec, withKeys] at found
      split at found
      · exact .kept found
      · exact leaves_modified (fun _ stored => .revoked id revokedAt stored) found
  | rotateRekey oldHash newHash rawKey id caller =>
      simp only [exec, withKeys] at found
      split at found
      · exact .kept found
      · split at found
        · exact .kept found
        · rename_i old stored
          rw [Outcome.finish_store, Dict.lookup_insert_ite] at found
          split at found
          · rename_i here
            cases found
            cases here
            exact .rekeyed _ rawKey id caller stored
          · exact .kept (Dict.lookup_of_erase found).2
  | authStore wanted loaded =>
      simp only [exec, withKeys] at found
      split at found
      · exact .kept found
      · rw [Outcome.finish_store, Dict.lookup_insert_ite] at found
        split at found
        · rename_i here
          cases found
          cases here
          exact .loaded _ _
        · exact .kept (Dict.lookup_of_retain found).1
  | touchMark id keyHash nowTs =>
      simp only [exec, withKeys] at found
      split at found
      · exact .kept found
      · exact leaves_modified (fun _ stored => .touched id nowTs stored) found
  | _ =>
      simp only [exec, withKeys] at found
      (repeat' split at found) <;> exact .kept found

theorem exec_files {frame : KeyFrame} {hash : String} {record : KeyRecord}
    (found : (frame.exec hashKey input store).store.keys.lookup hash = some record) :
    frame.Files store.keys hash record := by
  cases exec_leaves found with
  | kept stored => exact .renewed stored (.refl record)
  | revoked id revokedAt stored => exact .renewed stored (KeyRecord.renews_revoke _ _)
  | touched id nowTs stored => exact .renewed stored (KeyRecord.renews_touch _ _)
  | rekeyed newHash rawKey id caller stored => exact .renewed stored (KeyRecord.renews_rekey _ _)
  | created created caller => exact .created created caller
  | loaded hash record => exact .loaded hash record

/-- A call has the record of a new key from the insert it has just made. -/
theorem exec_creates {frame : KeyFrame} {created : CreatedApiKey} {caller : Caller}
    (goes : (frame.exec hashKey input store).next = .running (.key (.createCache created caller))) :
    ∃ tenantId label role expiresAt,
      frame = .createInsert tenantId label role expiresAt caller ∧
        created = newApiKey hashKey input tenantId label role expiresAt ∧
        store.pool.insertApiKey (newApiKeyRow created.record) =
          some (frame.exec hashKey input store).store.pool := by
  cases frame with
  | createInsert tenantId label role expiresAt caller =>
      simp only [exec] at goes ⊢
      split at goes
      · cases goes
      · rename_i pool executed
        cases goes
        exact ⟨_, _, _, _, rfl, rfl, (Input.execute_eq_some.mp executed).2⟩
  | _ =>
      simp only [exec, withKeys] at goes
      (repeat' split at goes) <;> cases goes

/-- A call has the record it stores from the row it has just read. -/
theorem exec_loads {frame : KeyFrame} {hash : String} {record : KeyRecord}
    (goes : (frame.exec hashKey input store).next = .running (.key (.authStore hash record))) :
    (frame.exec hashKey input store).store = store ∧
      ∃ row, store.pool.selectApiKey hash = some row ∧ record = keyRecordFromRow row := by
  cases frame with
  | authLoad wanted now =>
      simp only [exec] at goes ⊢
      split at goes
      · cases goes
      · rename_i row executed
        split at goes
        · rename_i active
          cases goes
          refine ⟨?_, row, (Input.execute_eq_some.mp executed).2, rfl⟩
          rw [if_pos active]
          rfl
        · cases goes
  | _ =>
      simp only [exec, withKeys] at goes
      (repeat' split at goes) <;> cases goes

/-- The only key another key action goes on to insert is the platform's. -/
theorem exec_inserts {frame : KeyFrame} {tenantId : Option String} {label : String} {role : Role}
    {expiresAt : Option UInt64} {caller : Caller}
    (goes : (frame.exec hashKey input store).next =
      .running (.key (.createInsert tenantId label role expiresAt caller))) :
    tenantId = none ∧ role = .platform ∧ expiresAt = none := by
  cases frame <;> simp only [exec, withKeys] at goes <;> (repeat' split at goes) <;> cases goes
  exact ⟨rfl, rfl, rfl⟩

end KeyFrame

end SpellServer
