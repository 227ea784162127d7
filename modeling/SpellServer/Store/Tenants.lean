import SpellServer.Store.Calls

/-!
# Tenant operations

The actions of `create_tenant`, `update_tenant`, `try_consume_quota` and
`set_suspended`.
-/

namespace SpellServer

open Library

/-- `config::DEFAULT_LANGUAGE`. -/
def defaultLanguage : String := "en_US"

def TenantPatch.apply (patch : TenantPatch) (info : TenantInfo) : TenantInfo :=
  { info with
    name := patch.name.getD info.name
    language := patch.language.getD info.language
    quotaLimit := patch.quotaLimit.getD info.quotaLimit
    requestCount := patch.requestCount.getD info.requestCount
    periodStart := patch.periodStart.getD info.periodStart
    periodEnd := patch.periodEnd.getD info.periodEnd }

/-- The record `create_tenant` builds. -/
def newTenant [Driver] (input : Input) (name : String) (language : Option String)
    (quotaLimit periodStart periodEnd : Option UInt64) : TenantInfo :=
  { id := input.newId.text
    name
    language := language.getD defaultLanguage
    quotaLimit := quotaLimit.getD 0
    requestCount := 0
    periodStart
    periodEnd
    suspendedAt := none
    createdAt := input.now.seconds }

/-- The values bound by `INSERT INTO tenants`. -/
def newTenantRow (info : TenantInfo) : TenantRow :=
  { id := info.id
    name := info.name
    language := info.language
    quotaLimit := info.quotaLimit.toInt64
    requestCount := 0
    periodStart := info.periodStart.map UInt64.toInt64
    periodEnd := info.periodEnd.map UInt64.toInt64
    suspendedAt := none
    createdAt := info.createdAt.toInt64 }

/-- The tenant is at or over a limit; a limit of `0` is no limit. -/
def TenantInfo.exhausted (info : TenantInfo) : Bool :=
  decide (info.quotaLimit > 0) && decide (info.requestCount ≥ info.quotaLimit)

theorem TenantInfo.exhausted_iff (info : TenantInfo) :
    info.exhausted = true ↔ info.quotaLimit ≠ 0 ∧ info.quotaLimit ≤ info.requestCount := by
  have positive : 0 < info.quotaLimit ↔ info.quotaLimit ≠ 0 := UInt64.pos_iff_ne_zero
  simp [TenantInfo.exhausted, positive]

/-- One admission.  The counter wraps as `u64` does in a release build. -/
def TenantInfo.consume (info : TenantInfo) : TenantInfo :=
  { info with requestCount := info.requestCount + 1 }

namespace TenantFrame

def exec [Driver] (input : Input) (store : Store) : TenantFrame → Outcome
  | .createInsert name language quotaLimit periodStart periodEnd =>
      let info := newTenant input name language quotaLimit periodStart periodEnd
      match input.execute (store.pool.insertTenant (newTenantRow info)) with
      | none => .finish store .err
      | some pool => .goto { store with pool } (.tenant (.createCache info))
  | .createCache info =>
      .goto { store with tenants := store.tenants.insert info.id info }
        (.key (.createInsert (some info.id) "default" .admin none (.createTenant info)))
  | .updateCheck id patch =>
      if (store.tenants.lookup id).isSome then .goto store (.tenant (.updateApply id patch))
      else .finish store (.updatedTenant none)
  | .updateApply id patch =>
      match store.tenants.lookup id with
      | none => .finish store .panicked
      | some info =>
          let snapshot := patch.apply info
          .goto { store with tenants := store.tenants.insert id snapshot }
            (.tenant (.updateWrite id snapshot))
  | .updateWrite id snapshot =>
      match input.execute (some (store.pool.updateTenant id snapshot)) with
      | none => .finish store .err
      | some pool => .finish { store with pool } (.updatedTenant (some snapshot))
  | .suspendCheck id suspended =>
      if (store.tenants.lookup id).isSome then .goto store (.tenant (.suspendWrite id suspended))
      else .finish store (.setSuspended false)
  | .suspendWrite id suspended =>
      let suspendedAt := if suspended then some input.now else none
      match input.execute
          (some (store.pool.updateSuspendedAt id (suspendedAt.map Clock.seconds))) with
      | none => .finish store .err
      | some pool => .goto { store with pool } (.tenant (.suspendCache id suspendedAt))
  | .suspendCache id suspendedAt =>
      .finish
        { store with
          tenants := store.tenants.modify id fun info =>
            { info with suspendedAt := suspendedAt.map Clock.seconds } }
        (.setSuspended true)
  | .consumeQuota tenantId =>
      match store.tenants.lookup tenantId with
      | none => .finish store (.quotaConsumed false)
      | some info =>
          if info.exhausted then .finish store (.quotaConsumed false)
          else
            { store :=
                { store with tenants := store.tenants.insert tenantId info.consume }
              next := .returned (.quotaConsumed true)
              spawned := [.requestCount tenantId info.consume.requestCount]
              issued := [] }

end TenantFrame

end SpellServer
