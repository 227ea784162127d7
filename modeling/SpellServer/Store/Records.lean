import Mathlib.Algebra.Group.Nat.Defs
import Mathlib.Data.Option.Basic
import SpellServer.Store.Driver

/-!
# Stored records

The values the store keeps in its caches, in the words of `store.rs`.
Timestamps and counters are 64-bit words as in the source.
-/

namespace SpellServer

/-- `Platform` keys manage tenants and have no tenant; the other two roles
always belong to exactly one tenant. -/
inductive Role where
  | platform
  | admin
  | standard
deriving DecidableEq, Repr

structure KeyRecord where
  id : String
  tenantId : Option String
  label : String
  role : Role
  keyHash : String
  createdAt : UInt64
  expiresAt : Option UInt64
  lastUsedAt : Option UInt64
  revokedAt : Option UInt64
deriving DecidableEq, Repr

def KeyRecord.isActive (record : KeyRecord) (now : UInt64) : Bool :=
  record.revokedAt.isNone && (record.expiresAt.map fun exp => decide (exp > now)).getD true

structure TenantInfo where
  id : String
  name : String
  language : String
  quotaLimit : UInt64
  requestCount : UInt64
  periodStart : Option UInt64
  periodEnd : Option UInt64
  suspendedAt : Option UInt64
  createdAt : UInt64
deriving DecidableEq, Repr

structure OriginInfo where
  id : String
  tenantId : String
  origin : String
  createdAt : UInt64
deriving DecidableEq, Repr

structure DictionaryInfo where
  code : String
  sourceUrl : String
  createdAt : UInt64
deriving DecidableEq, Repr

/-- A freshly generated key: the raw value is only ever available here. -/
structure CreatedApiKey where
  record : KeyRecord
  rawKey : String
deriving DecidableEq, Repr

/-- What `now()` can return as long as its columns hold it: with SQLite until the
year 2038, and else whatever `SystemTime` counts in its signed 64-bit integer. -/
structure Clock [Driver] where
  seconds : UInt64
  bounded : seconds.toNat < Driver.limit
deriving DecidableEq, Repr

/-- What `new_id()` can return: the text of a UUID is never empty. -/
structure Uuid where
  text : String
  nonempty : text ≠ ""
deriving DecidableEq, Repr

/-- An unrevoked key is active exactly while its expiry is absent or ahead. -/
theorem KeyRecord.isActive_iff (record : KeyRecord) (now : UInt64) :
    record.isActive now = true ↔
      record.revokedAt = none ∧ ∀ exp, record.expiresAt = some exp → now < exp := by
  unfold KeyRecord.isActive
  cases revoked : record.revokedAt <;> cases expiry : record.expiresAt <;> simp

end SpellServer
