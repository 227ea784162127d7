import Mathlib.Data.Finset.Erase
import SpellServer.Store.Calls

/-!
# Origin and dictionary operations

The actions of `register_origin`, `revoke_origin` and `register_dictionary`.
`register_origin` and `revoke_origin` take the locks of the union set and of
the per-tenant map one after the other.
-/

namespace SpellServer

open Library

/-- The record `register_origin` builds. -/
def newOrigin [Driver] (input : Input) (tenantId origin : String) : OriginInfo :=
  { id := input.newId.text
    tenantId
    origin
    createdAt := input.now.seconds }

/-- The values bound by `INSERT INTO tenant_origins`. -/
def newOriginRow (info : OriginInfo) : OriginRow :=
  { id := info.id
    tenantId := info.tenantId
    origin := info.origin
    createdAt := info.createdAt.toInt64 }

/-- `get_mut(tenant_id)` followed by `remove(&origin)`. -/
def removeOriginInfo (origins : Dict String (Dict String OriginInfo))
    (tenantId origin : String) : Dict String (Dict String OriginInfo) :=
  origins.modify tenantId fun owned => owned.erase origin

/-- `values().any(|map| map.contains_key(&origin))`. -/
def stillOwned (origins : Dict String (Dict String OriginInfo)) (origin : String) : Bool :=
  origins.values.any fun owned => (owned.lookup origin).isSome

theorem originOf_removeOriginInfo (origins : Dict String (Dict String OriginInfo))
    (tenantId origin otherTenant otherOrigin : String) :
    originOf (removeOriginInfo origins tenantId origin) otherTenant otherOrigin =
      if (otherTenant, otherOrigin) = (tenantId, origin) then none
      else originOf origins otherTenant otherOrigin := by
  unfold originOf removeOriginInfo
  rw [Dict.lookup_modify]
  by_cases sameTenant : otherTenant = tenantId
  · subst otherTenant
    cases stored : origins.lookup tenantId with
    | none => simp
    | some owned =>
        by_cases sameOrigin : otherOrigin = origin <;>
          simp [Dict.lookup_erase_ite, sameOrigin]
  · simp [sameTenant]

theorem stillOwned_iff (origins : Dict String (Dict String OriginInfo)) (origin : String) :
    stillOwned origins origin = true ↔
      ∃ tenantId, (originOf origins tenantId origin).isSome = true := by
  unfold stillOwned originOf
  rw [List.any_eq_true]
  constructor
  · intro owner
    obtain ⟨owned, member, holds⟩ := owner
    obtain ⟨tenantId, stored⟩ := Dict.mem_values_iff.mp member
    exact ⟨tenantId, by simpa [stored] using holds⟩
  · intro owner
    obtain ⟨tenantId, holds⟩ := owner
    cases stored : origins.lookup tenantId with
    | none => simp [stored] at holds
    | some owned =>
        refine ⟨owned, Dict.mem_values_iff.mpr ⟨tenantId, stored⟩, ?_⟩
        simpa [stored] using holds

namespace OriginFrame

def exec [Driver] (input : Input) (store : Store) : OriginFrame → Outcome
  | .registerInsert tenantId origin =>
      let info := newOrigin input tenantId origin
      match input.execute (store.pool.insertOrigin (newOriginRow info)) with
      | none => .finish store .err
      | some pool => .goto { store with pool } (.origin (.registerAny info))
  | .registerAny info =>
      .goto { store with originsAny := insert info.origin store.originsAny }
        (.origin (.registerByTenant info))
  | .registerByTenant info =>
      .finish { store with originsByTenant := insertOriginInfo store.originsByTenant info }
        (.registeredOrigin info)
  | .revokeSelect tenantId id =>
      if input.sql then
        match store.pool.selectOrigin id tenantId with
        | none => .finish store (.revokedOrigin false)
        | some origin => .goto store (.origin (.revokeDelete tenantId id origin))
      else .finish store .err
  | .revokeDelete tenantId id origin =>
      match input.execute (some (store.pool.deleteOrigin id)) with
      | none => .finish store .err
      | some pool => .goto { store with pool } (.origin (.revokeByTenant tenantId origin))
  | .revokeByTenant tenantId origin =>
      .goto
        { store with originsByTenant := removeOriginInfo store.originsByTenant tenantId origin }
        (.origin (.revokeStillOwned origin))
  | .revokeStillOwned origin =>
      if stillOwned store.originsByTenant origin then .finish store (.revokedOrigin true)
      else .goto store (.origin (.revokeAny origin))
  | .revokeAny origin =>
      .finish { store with originsAny := store.originsAny.erase origin } (.revokedOrigin true)

end OriginFrame

namespace DictionaryFrame

def exec [Driver] (input : Input) (store : Store) : DictionaryFrame → Outcome
  | .registerUpsert code sourceUrl =>
      let row : DictionaryRow := { code, sourceUrl, createdAt := input.now.seconds.toInt64 }
      match input.execute (some (store.pool.upsertDictionary row)) with
      | none => .finish store .err
      | some pool => .goto { store with pool } (.dictionary (.registerSelect code))
  | .registerSelect code =>
      match input.execute (store.pool.selectDictionary code) with
      | none => .finish store .err
      | some row =>
          .goto store (.dictionary (.registerCache code (dictionaryInfoFromRow row)))
  | .registerCache code info =>
      .finish { store with dictionaries := store.dictionaries.insert code info }
        (.registeredDictionary info)

end DictionaryFrame

end SpellServer
