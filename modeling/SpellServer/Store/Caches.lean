import Mathlib.Data.Finset.Insert
import Mathlib.Data.Finset.Dedup
import SpellServer.Store.Schema

/-!
# The store and its caches

`Store` pairs the database with the five in-memory caches.  `Store.reload` is
`reload_caches`: it rebuilds every cache from the tables, decoding the `BIGINT`
columns back into unsigned words as the driver hands them back.
-/

namespace SpellServer

open Library

variable [Driver]

/-! ## Reading rows -/

/-- `COALESCE(column, -1)`. -/
def coalesce (column : Option Int64) : Int64 := column.getD (-1)

/-- `(value >= 0).then_some(value as u64)`. -/
def fromSentinel (value : Int64) : Option UInt64 :=
  if 0 ≤ value then some value.toUInt64 else none

omit [Driver] in
theorem toInt64_nonneg_iff (word : UInt64) : 0 ≤ word.toInt64 ↔ word.toNat < 2 ^ 63 := by
  have zero : (0 : Int64).toInt = 0 := rfl
  have bound := word.toNat_lt
  rw [Int64.le_iff_toInt_le, zero, Driver.toInt_toInt64]
  split <;> omega

section

/-- How an integer column comes back from the database. -/
def readWord (column : Int64) : UInt64 := (Driver.readInteger column).toUInt64

/-- How a nullable integer column comes back from the database. -/
def readNullable (column : Option Int64) : Option UInt64 :=
  fromSentinel (Driver.readInteger (coalesce column))

def keyRecordFromRow (row : ApiKeyRow) : KeyRecord :=
  let tenantId := row.tenantId.getD ""
  { id := row.id
    tenantId := if tenantId = "" then none else some tenantId
    label := row.label
    role := row.role
    keyHash := row.keyHash
    createdAt := readWord row.createdAt
    expiresAt := readNullable row.expiresAt
    lastUsedAt := readNullable row.lastUsedAt
    revokedAt := readNullable row.revokedAt }

def tenantInfoFromRow (row : TenantRow) : TenantInfo :=
  { id := row.id
    name := row.name
    language := row.language
    quotaLimit := readWord row.quotaLimit
    requestCount := readWord row.requestCount
    periodStart := readNullable row.periodStart
    periodEnd := readNullable row.periodEnd
    suspendedAt := readNullable row.suspendedAt
    createdAt := readWord row.createdAt }

def originInfoFromRow (row : OriginRow) : OriginInfo :=
  { id := row.id
    tenantId := row.tenantId
    origin := row.origin
    createdAt := readWord row.createdAt }

def dictionaryInfoFromRow (row : DictionaryRow) : DictionaryInfo :=
  { code := row.code
    sourceUrl := row.sourceUrl
    createdAt := readWord row.createdAt }

/-! ## What survives its column -/

/-- The number comes back as it was given. -/
theorem readWord_toInt64_iff (word : UInt64) :
    readWord word.toInt64 = word ↔ Driver.Holds word.toInt64 := by
  rw [← Driver.readInteger_eq_iff]
  constructor
  · intro same
    have back := congrArg UInt64.toInt64 same
    rwa [readWord, Int64.toInt64_toUInt64] at back
  · intro same
    rw [readWord, same, UInt64.toUInt64_toInt64]

@[simp] theorem readWord_clock (now : Clock) : readWord now.seconds.toInt64 = now.seconds :=
  (readWord_toInt64_iff _).mpr (Driver.holds_of_lt now.bounded)

/-- Reading once more changes nothing. -/
theorem readWord_readWord (column : Int64) : readWord (readWord column).toInt64 = readWord column := by
  rw [readWord_toInt64_iff, readWord, Int64.toInt64_toUInt64]
  exact Driver.holds_readInteger column

@[simp] theorem readWord_zero : readWord 0 = 0 := by
  have zero : (0 : UInt64).toNat < Driver.limit := Driver.limit_pos
  exact (readWord_toInt64_iff 0).mpr (Driver.holds_of_lt zero)

@[simp] theorem readNullable_none : readNullable none = none := by
  have held : Driver.Holds (-1) := by
    have least := Driver.least
    have minus : (-1 : Int64).toInt = -1 := by decide
    unfold Driver.Holds
    rw [minus]
    omega
  have same : Driver.readInteger (-1) = -1 := (Driver.readInteger_eq_iff _).mpr held
  have absent : fromSentinel (-1) = none := by decide
  rw [readNullable, coalesce, Option.getD_none, same, absent]

/-- A held column comes back whole, or as absent from `2 ^ 63` on. -/
theorem readNullable_of_holds {word : UInt64} (held : Driver.Holds word.toInt64) :
    readNullable (some word.toInt64) = if word.toNat < 2 ^ 63 then some word else none := by
  have same := (Driver.readInteger_eq_iff _).mpr held
  simp only [readNullable, coalesce, Option.getD_some, same, fromSentinel, toInt64_nonneg_iff,
    UInt64.toUInt64_toInt64]

/-- What is read is within the limit. -/
theorem readNullable_lt {column : Option Int64} {word : UInt64}
    (read : readNullable column = some word) : word.toNat < Driver.limit := by
  obtain ⟨_, high⟩ := Driver.holds_readInteger (coalesce column)
  unfold readNullable fromSentinel at read
  split at read
  · rename_i nonneg
    cases read
    have value := Driver.toInt_toInt64 (Driver.readInteger (coalesce column)).toUInt64
    rw [Int64.toInt64_toUInt64] at value
    have bound := (Driver.readInteger (coalesce column)).toUInt64.toNat_lt
    have zero : (0 : Int64).toInt = 0 := rfl
    rw [Int64.le_iff_toInt_le, zero] at nonneg
    split at value <;> omega
  · cases read

theorem readNullable_toInt64_iff (word : UInt64) :
    readNullable (some word.toInt64) = some word ↔ word.toNat < Driver.limit := by
  constructor
  · exact readNullable_lt
  · intro small
    rw [readNullable_of_holds (Driver.holds_of_lt small),
      if_pos (lt_of_lt_of_le small Driver.most)]

@[simp] theorem readNullable_clock (now : Clock) :
    readNullable (some now.seconds.toInt64) = some now.seconds :=
  (readNullable_toInt64_iff _).mpr now.bounded

/-- A nullable column against the value it was written from or read into. -/
def ColumnMirrors (column : Option Int64) (value : Option UInt64) : Prop :=
  column = value.map UInt64.toInt64 ∨ value = readNullable column

theorem ColumnMirrors.reads {column : Option Int64} {value : Option UInt64}
    (mirrors : ColumnMirrors column value) (small : ∀ stamp ∈ value, stamp.toNat < Driver.limit) :
    readNullable column = value := by
  rcases mirrors with rfl | rfl
  · cases value with
    | none => exact readNullable_none
    | some stamp => exact (readNullable_toInt64_iff stamp).mpr (small stamp rfl)
  · rfl

/-- The same for a column that is never null. -/
def WordMirrors (column : Int64) (word : UInt64) : Prop :=
  column = word.toInt64 ∨ word = readWord column

@[simp] theorem WordMirrors.written (word : UInt64) : WordMirrors word.toInt64 word := Or.inl rfl

@[simp] theorem WordMirrors.read (column : Int64) : WordMirrors column (readWord column) :=
  Or.inr rfl

theorem WordMirrors.reads_iff {column : Int64} {word : UInt64} (mirrors : WordMirrors column word) :
    readWord column = word ↔ Driver.Holds word.toInt64 := by
  rcases mirrors with rfl | rfl
  · exact readWord_toInt64_iff word
  · exact iff_of_true rfl ((readWord_toInt64_iff _).mp (readWord_readWord column))

/-- A held expiry that its column has cut off is beyond any clock. -/
theorem ColumnMirrors.ahead_iff {given held : Option UInt64}
    (mirrors : ColumnMirrors (given.map UInt64.toInt64) held)
    (holds : ∀ exp ∈ given, Driver.Holds exp.toInt64) (now : Clock) :
    (∀ exp, held = some exp → now.seconds < exp) ↔ ∀ exp, given = some exp → now.seconds < exp := by
  rcases mirrors with same | rfl
  · have injective : Function.Injective UInt64.toInt64 :=
      Function.LeftInverse.injective UInt64.toUInt64_toInt64
    rw [Option.map_injective injective same]
  · cases given with
    | none => simp
    | some stamp =>
        rw [Option.map_some, readNullable_of_holds (holds stamp rfl)]
        split
        · rfl
        · rename_i large
          have beyond : now.seconds < stamp := by
            have bounded := now.bounded
            have most := Driver.most
            rw [UInt64.lt_iff_toNat_lt]
            omega
          simp [beyond]

end

/-! ## The store -/

structure Store where
  pool : Database
  keys : Dict String KeyRecord
  /-- A panic under the write lock on `keys` poisons it: every later `unwrap`
  of that lock panics too. -/
  keysPoisoned : Bool
  tenants : Dict String TenantInfo
  originsAny : Finset String
  originsByTenant : Dict String (Dict String OriginInfo)
  dictionaries : Dict String DictionaryInfo

/-- `entry(tenant_id).or_default().insert(origin, info)`. -/
def insertOriginInfo (origins : Dict String (Dict String OriginInfo)) (info : OriginInfo) :
    Dict String (Dict String OriginInfo) :=
  let owned := (origins.lookup info.tenantId).getD ∅
  origins.insert info.tenantId (owned.insert info.origin info)

/-- The record a tenant holds for an origin. -/
def originOf (origins : Dict String (Dict String OriginInfo)) (tenantId origin : String) :
    Option OriginInfo :=
  (origins.lookup tenantId).bind fun owned => owned.lookup origin

omit [Driver] in
theorem originOf_insertOriginInfo (origins : Dict String (Dict String OriginInfo))
    (info : OriginInfo) (tenantId origin : String) :
    originOf (insertOriginInfo origins info) tenantId origin =
      if (tenantId, origin) = (info.tenantId, info.origin) then some info
      else originOf origins tenantId origin := by
  unfold originOf insertOriginInfo
  rw [Dict.lookup_insert_ite]
  by_cases sameTenant : tenantId = info.tenantId
  · subst tenantId
    rw [if_pos rfl, Option.bind_some, Dict.lookup_insert_ite]
    by_cases sameOrigin : origin = info.origin
    · simp [sameOrigin]
    · cases stored : origins.lookup info.tenantId <;> simp [sameOrigin]
  · simp [sameTenant]

namespace Store

/-- `reload_caches` on empty caches. -/
def reload (pool : Database) : Store :=
  { pool
    keys := Dict.ofRows ApiKeyRow.keyHash keyRecordFromRow pool.apiKeys
    keysPoisoned := false
    tenants := Dict.ofRows TenantRow.id tenantInfoFromRow pool.tenants
    originsAny := (pool.tenantOrigins.map OriginRow.origin).toFinset
    originsByTenant :=
      pool.tenantOrigins.foldl
        (fun origins row => insertOriginInfo origins (originInfoFromRow row)) ∅
    dictionaries := Dict.ofRows DictionaryRow.code dictionaryInfoFromRow pool.dictionaries }

def hasActivePlatformKey (store : Store) (now : UInt64) : Bool :=
  store.keys.values.any fun record => record.role = .platform && record.isActive now

def getTenant (store : Store) (id : String) : Option TenantInfo :=
  store.tenants.lookup id

def isRegisteredOrigin (store : Store) (origin : String) : Bool :=
  decide (origin ∈ store.originsAny)

def tenantOwnsOrigin (store : Store) (tenantId origin : String) : Bool :=
  (originOf store.originsByTenant tenantId origin).isSome

theorem reload_keys_lookup (pool : Database) (keyHash : String) :
    (reload pool).keys.lookup keyHash =
      (findBy ApiKeyRow.keyHash keyHash pool.apiKeys).map keyRecordFromRow :=
  Dict.lookup_ofRows keyRecordFromRow pool.apiKeys_keyHash_unique keyHash

theorem reload_tenants_lookup (pool : Database) (id : String) :
    (reload pool).tenants.lookup id =
      (findBy TenantRow.id id pool.tenants).map tenantInfoFromRow :=
  Dict.lookup_ofRows tenantInfoFromRow pool.tenants_id_unique id

theorem reload_dictionaries_lookup (pool : Database) (code : String) :
    (reload pool).dictionaries.lookup code =
      (findBy DictionaryRow.code code pool.dictionaries).map dictionaryInfoFromRow :=
  Dict.lookup_ofRows dictionaryInfoFromRow pool.dictionaries_code_unique code

private theorem originOf_foldl {rows : List OriginRow}
    (unique : (rows.map OriginRow.owned).Nodup)
    (start : Dict String (Dict String OriginInfo)) (tenantId origin : String) :
    originOf
        (rows.foldl (fun origins row => insertOriginInfo origins (originInfoFromRow row)) start)
        tenantId origin =
      ((findBy OriginRow.owned (tenantId, origin) rows).map originInfoFromRow).or
        (originOf start tenantId origin) := by
  induction rows generalizing start with
  | nil => simp [findBy]
  | cons row rows induction =>
      obtain ⟨fresh, uniqueTail⟩ := List.nodup_cons.mp unique
      rw [List.foldl_cons, induction uniqueTail, originOf_insertOriginInfo]
      by_cases same : (tenantId, origin) = row.owned
      · have absent := findBy_eq_none_iff.mpr fresh
        have first : findBy OriginRow.owned row.owned (row :: rows) = some row := by
          simp [findBy]
        rw [same, absent, first]
        simp [originInfoFromRow, OriginRow.owned]
      · have later : findBy OriginRow.owned (tenantId, origin) (row :: rows) =
            findBy OriginRow.owned (tenantId, origin) rows := by
          simp [findBy, Ne.symm same]
        have other : (tenantId, origin) ≠
            ((originInfoFromRow row).tenantId, (originInfoFromRow row).origin) := same
        rw [later, if_neg other]

theorem reload_originOf (pool : Database) (tenantId origin : String) :
    originOf (reload pool).originsByTenant tenantId origin =
      (findBy OriginRow.owned (tenantId, origin) pool.tenantOrigins).map originInfoFromRow := by
  have folded := originOf_foldl pool.tenantOrigins_owned_unique ∅ tenantId origin
  have start : originOf ∅ tenantId origin = none := rfl
  rw [start, Option.or_none] at folded
  exact folded

theorem mem_reload_originsAny (pool : Database) (origin : String) :
    origin ∈ (reload pool).originsAny ↔ ∃ row ∈ pool.tenantOrigins, row.origin = origin := by
  simp [reload]

end Store

end SpellServer
