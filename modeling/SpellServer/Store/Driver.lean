import Mathlib.Tactic.Linarith

/-!
# Integer columns through the driver

The statements write integers of 64 bits and read them back with `try_get::<i64>`.
What arrives is up to the database driver behind `sqlx::Any`.  It hands back every
integer within its limit as it was stored, and an integer within its limit for every
other one: `2 ^ 63` is the limit with PostgreSQL and `2 ^ 31` with SQLite, where the
value passes through 32 bits.
-/

namespace SpellServer

class Driver where
  limit : ℕ
  readInteger : Int64 → Int64
  least : 2 ^ 31 ≤ limit
  most : limit ≤ 2 ^ 63
  reads : ∀ column : Int64, -(limit : ℤ) ≤ column.toInt → column.toInt < limit →
    readInteger column = column
  within : ∀ column, -(limit : ℤ) ≤ (readInteger column).toInt ∧
    (readInteger column).toInt < limit

namespace Driver

theorem toInt_toInt64 (word : UInt64) :
    word.toInt64.toInt = if word.toNat < 2 ^ 63 then (word.toNat : ℤ) else word.toNat - 2 ^ 64 := by
  have signed : word.toInt64.toInt = word.toBitVec.toInt := rfl
  have same : word.toBitVec.toNat = word.toNat := rfl
  rw [signed, BitVec.toInt_eq_toNat_cond, same]
  have bound := word.toNat_lt
  split <;> split <;> omega

section

variable [Driver]

theorem limit_pos : 0 < limit := lt_of_lt_of_le (by norm_num) least

/-- The column comes back as it was stored. -/
def Holds (column : Int64) : Prop := -(limit : ℤ) ≤ column.toInt ∧ column.toInt < limit

instance (column : Int64) : Decidable (Holds column) := inferInstanceAs (Decidable (_ ∧ _))

theorem readInteger_eq_iff (column : Int64) : readInteger column = column ↔ Holds column := by
  constructor
  · intro same
    have inside := within column
    rw [same] at inside
    exact inside
  · intro held
    exact reads column held.1 held.2

theorem holds_readInteger (column : Int64) : Holds (readInteger column) := within column

/-- The words within the limit, and those whose column is a small negative number. -/
theorem holds_toInt64_iff (word : UInt64) :
    Holds word.toInt64 ↔ word.toNat < limit ∨ 2 ^ 64 ≤ word.toNat + limit := by
  have bound := word.toNat_lt
  have most := most
  unfold Holds
  rw [toInt_toInt64]
  split <;> omega

theorem holds_of_lt {word : UInt64} (small : word.toNat < limit) : Holds word.toInt64 :=
  (holds_toInt64_iff word).mpr (Or.inl small)

end

end Driver

namespace DefaultBackend

/-- Behind `sqlx::Any`, SQLite hands back every integer through `i32`. -/
scoped instance driver : Driver where
  limit := 2 ^ 31
  readInteger column := column.toInt32.toInt64
  least := le_refl _
  most := by norm_num
  reads column low high := by
    apply Int64.toInt.inj
    rw [Int32.toInt_toInt64, Int64.toInt_toInt32]
    exact Int.bmod_eq_of_le (by push_cast at low; omega) (by push_cast at high; omega)
  within column := by
    rw [Int32.toInt_toInt64]
    have low := column.toInt32.le_toInt
    have high := column.toInt32.toInt_lt
    constructor <;> push_cast <;> omega

end DefaultBackend

end SpellServer
