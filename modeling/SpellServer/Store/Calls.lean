import SpellServer.Library.Interleaving
import SpellServer.Store.Caches

/-!
# Calls in progress

A store operation is a sequence of atomic actions: a critical section under one
cache lock, or one SQL statement together with the local computation before it.
A frame is a call suspended in front of its next action, with the local
variables that are still needed.  Frames are named after the function and the
action it is about to take.
-/

namespace SpellServer

open Library

variable [Driver]

/-- The fields a `PATCH` may carry; a period can be left alone, cleared or set. -/
structure TenantPatch where
  name : Option String
  language : Option String
  quotaLimit : Option UInt64
  requestCount : Option UInt64
  periodStart : Option (Option UInt64)
  periodEnd : Option (Option UInt64)
deriving DecidableEq, Repr

/-- The public function that awaits `create_key_internal` or
`rotate_key_by_hash`. -/
inductive Caller where
  | createKey
  | rotateKey
  | resetBootstrapPlatformKey
  | createTenant (info : TenantInfo)
deriving DecidableEq, Repr

inductive KeyFrame where
  | createInsert (tenantId : Option String) (label : String) (role : Role)
      (expiresAt : Option UInt64) (caller : Caller)
  | createCache (created : CreatedApiKey) (caller : Caller)
  | revokeFind (tenantId id : String)
  | revokeUpdate (id keyHash : String)
  | revokeMark (id keyHash : String) (revokedAt : Clock)
  | rotateFind (tenantId id : String)
  | rotateUpdate (oldHash id : String) (caller : Caller)
  | rotateRekey (oldHash newHash rawKey id : String) (caller : Caller)
  | resetFind
  | authLookup (rawKey : String)
  | authLoad (hash : String) (now : Clock)
  | authStore (hash : String) (record : KeyRecord)
  | touchFind (id : String)
  | touchMark (id keyHash : String) (nowTs : Clock)
deriving DecidableEq, Repr

inductive TenantFrame where
  | createInsert (name : String) (language : Option String) (quotaLimit : Option UInt64)
      (periodStart periodEnd : Option UInt64)
  | createCache (info : TenantInfo)
  | updateCheck (id : String) (patch : TenantPatch)
  | updateApply (id : String) (patch : TenantPatch)
  | updateWrite (id : String) (snapshot : TenantInfo)
  | suspendCheck (id : String) (suspended : Bool)
  | suspendWrite (id : String) (suspended : Bool)
  | suspendCache (id : String) (suspendedAt : Option Clock)
  | consumeQuota (tenantId : String)
deriving DecidableEq, Repr

inductive OriginFrame where
  | registerInsert (tenantId origin : String)
  | registerAny (info : OriginInfo)
  | registerByTenant (info : OriginInfo)
  | revokeSelect (tenantId id : String)
  | revokeDelete (tenantId id origin : String)
  | revokeByTenant (tenantId origin : String)
  | revokeStillOwned (origin : String)
  | revokeAny (origin : String)
deriving DecidableEq, Repr

inductive DictionaryFrame where
  | registerUpsert (code sourceUrl : String)
  | registerSelect (code : String)
  | registerCache (code : String) (info : DictionaryInfo)
deriving DecidableEq, Repr

inductive Frame where
  | key (frame : KeyFrame)
  | tenant (frame : TenantFrame)
  | origin (frame : OriginFrame)
  | dictionary (frame : DictionaryFrame)
deriving DecidableEq, Repr

/-- What a call returns.  `err` is the `Err` of an `anyhow::Result`. -/
inductive Result where
  | err
  | panicked
  | createdKey (created : CreatedApiKey)
  | rotatedKey (rotated : Option CreatedApiKey)
  | revokedKey (found : Bool)
  | resetKey (created : CreatedApiKey)
  | authenticated (record : Option KeyRecord)
  | touched
  | createdTenant (info : TenantInfo) (adminKey : CreatedApiKey)
  | updatedTenant (updated : Option TenantInfo)
  | setSuspended (found : Bool)
  | quotaConsumed (admitted : Bool)
  | registeredOrigin (info : OriginInfo)
  | revokedOrigin (found : Bool)
  | registeredDictionary (info : DictionaryInfo)
deriving DecidableEq, Repr

/-- A write left to a spawned task. -/
inductive Task where
  | lastUsedAt (id : String) (nowTs : Clock)
  | requestCount (tenantId : String) (newCount : UInt64)
deriving DecidableEq, Repr

/-- The statement the task runs. -/
def Task.run : Task → Database → Database
  | .lastUsedAt id nowTs, pool => pool.updateLastUsedAt id nowTs.seconds.toInt64
  | .requestCount tenantId newCount, pool => pool.updateRequestCount tenantId newCount

/-- What one action takes from outside the store: the clock, the random values,
the place where an iteration over a hash map finds its match first, and whether
the SQL statement reaches the database. -/
structure Input where
  now : Clock
  newId : Uuid
  rawKey : String
  hint : String
  sql : Bool
deriving DecidableEq, Repr

/-- Run a statement: `none` is the driver's `Err`. -/
def Input.execute {α : Type} (input : Input) (statement : Option α) : Option α :=
  if input.sql then statement else none

/-- The effect of one action.  `issued` lists the raw keys that came into being,
each with the id it is a value of. -/
structure Outcome where
  store : Store
  next : Status Frame Result
  spawned : List Task
  issued : List (String × String)

namespace Outcome

def goto (store : Store) (frame : Frame) : Outcome :=
  { store, next := .running frame, spawned := [], issued := [] }

def finish (store : Store) (result : Result) : Outcome :=
  { store, next := .returned result, spawned := [], issued := [] }

@[simp] theorem goto_store (store : Store) (frame : Frame) : (goto store frame).store = store := rfl
@[simp] theorem goto_next (store : Store) (frame : Frame) :
    (goto store frame).next = .running frame := rfl
@[simp] theorem goto_spawned (store : Store) (frame : Frame) : (goto store frame).spawned = [] :=
  rfl
@[simp] theorem goto_issued (store : Store) (frame : Frame) : (goto store frame).issued = [] := rfl
@[simp] theorem finish_store (store : Store) (result : Result) :
    (finish store result).store = store := rfl
@[simp] theorem finish_next (store : Store) (result : Result) :
    (finish store result).next = .returned result := rfl
@[simp] theorem finish_spawned (store : Store) (result : Result) :
    (finish store result).spawned = [] := rfl
@[simp] theorem finish_issued (store : Store) (result : Result) :
    (finish store result).issued = [] := rfl

end Outcome

end SpellServer
