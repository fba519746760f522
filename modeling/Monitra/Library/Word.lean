import Mathlib.Algebra.Order.Ring.Int

/-!
# Words of 64 bits, unsigned and signed, and counters of 32 bits

An unsigned word is kept as the signed one of the same bits, and read back from it. Below 2^63 nothing changes; from there on the
signed one is negative. A counter of 32 bits that counts up at its largest value starts again from zero.
-/

namespace Word

/-- Two unsigned integers read as the same signed one are equal. -/
theorem toInt64_inj {a b : UInt64} : a.toInt64 = b.toInt64 ↔ a = b := by
  constructor
  · intro h
    have h' := congrArg Int64.toUInt64 h
    rwa [UInt64.toUInt64_toInt64, UInt64.toUInt64_toInt64] at h'
  · rintro rfl
    rfl

/-- What an unsigned integer is read as. -/
theorem toInt_toInt64 (n : UInt64) : n.toInt64.toInt = (n.toNat : Int).bmod (2 ^ 64) := BitVec.toInt_eq_toNat_bmod n.toBitVec

/-- Below 2^63 it is itself. -/
theorem toInt_toInt64_of_lt {n : UInt64} (h : n.toNat < 2 ^ 63) : n.toInt64.toInt = n.toNat := by
  rw [toInt_toInt64, Int.bmod_eq_of_le (by omega) (by omega)]

/-- An unsigned integer below 2^63 is read as one that is not negative. -/
theorem nonneg_toInt64 {n : UInt64} (h : n.toNat < 2 ^ 63) : 0 ≤ n.toInt64 := by
  rw [Int64.le_iff_toInt_le, toInt_toInt64_of_lt h]
  exact Int.natCast_nonneg _

/-- Integers that are not negative read back in their order. -/
theorem toUInt64_le_iff {a b : Int64} (ha : 0 ≤ a) (hb : 0 ≤ b) : a.toUInt64 ≤ b.toUInt64 ↔ a ≤ b := by
  constructor
  · intro h
    by_contra hlt
    have hba := Int64.toUInt64_le hb (Int64.le_of_lt (Int64.not_le.mp hlt))
    have he := congrArg UInt64.toInt64 (UInt64.le_antisymm h hba)
    rw [Int64.toInt64_toUInt64, Int64.toInt64_toUInt64] at he
    exact hlt (he ▸ Int64.le_refl _)
  · exact Int64.toUInt64_le ha

/-- An optional integer that reads back as some integer is what that was read as. -/
theorem map_toUInt64_eq_some {a : Option Int64} {id : UInt64} : a.map (·.toUInt64) = some id ↔ a = some id.toInt64 := by
  rw [Option.map_eq_some_iff]
  constructor
  · rintro ⟨x, rfl, rfl⟩
    rw [Int64.toInt64_toUInt64]
  · rintro rfl
    exact ⟨_, rfl, UInt64.toUInt64_toInt64 id⟩

/-! ## Counters -/

theorem toNat_succ (x : UInt32) : (x + 1).toNat = (x.toNat + 1) % UInt32.size := UInt32.toNat_add x 1

/-- A counter counts at most one up. -/
theorem toNat_succ_le (x : UInt32) : (x + 1).toNat ≤ x.toNat + 1 := by
  rw [toNat_succ]
  exact Nat.mod_le _ _

/-- A counter below its largest value counts on. -/
theorem toNat_succ_of_lt {x : UInt32} (h : x.toNat + 1 < UInt32.size) : (x + 1).toNat = x.toNat + 1 := by
  rw [toNat_succ, Nat.mod_eq_of_lt h]

end Word
