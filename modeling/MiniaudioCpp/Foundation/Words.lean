import Mathlib.Algebra.Ring.Int.Defs
import Mathlib.Algebra.Ring.Nat

/-!
# 64-bit words

What the machine's signed and unsigned 64-bit words are as integers, for code
that adds a signed offset to an unsigned position.  A signed word taken as an
unsigned one is its value mod `2 ^ 64`, so the sum of the two is the exact sum
mod `2 ^ 64`; a difference of unsigned words is exact or it wraps, according to
which of them is larger.

A 64-bit size that goes through a 32-bit `int` and back is its value mod
`2 ^ 32` with the sign extended.
-/

namespace Foundation

/-- A signed word taken as an unsigned one. -/
theorem toNat_toUInt64 (x : Int64) : (x.toUInt64.toNat : ℤ) = x.toInt % 2 ^ 64 := by
  show (x.toBitVec.toNat : ℤ) = x.toBitVec.toInt % 2 ^ 64
  rw [BitVec.toInt_eq_toNat_cond]
  have hlt := x.toBitVec.isLt
  split <;> omega

/-- Adding a signed offset to an unsigned word. -/
theorem toNat_add_toUInt64 (x : UInt64) (y : Int64) :
    ((x + y.toUInt64).toNat : ℤ) = ((x.toNat : ℤ) + y.toInt) % 2 ^ 64 := by
  have hy := toNat_toUInt64 y
  rw [UInt64.toNat_add]
  omega

/-- A negative number that was wrapped comes back. -/
theorem toInt_toInt64_of_wrapped {x : UInt64} {n : ℤ} (hneg : n < 0) (hlow : -2 ^ 63 ≤ n)
    (hx : (x.toNat : ℤ) = n + 2 ^ 64) : x.toInt64.toInt = n := by
  show x.toBitVec.toInt = n
  rw [BitVec.toInt_eq_toNat_cond]
  have hnat : x.toBitVec.toNat = x.toNat := rfl
  split <;> omega

/-- A difference of words does not wrap when it is not negative. -/
theorem toNat_sub_of_le {x y : UInt64} (h : y.toNat ≤ x.toNat) :
    (x - y).toNat = x.toNat - y.toNat := by
  have hx := x.toNat_lt
  rw [UInt64.toNat_sub]
  omega

/-- A difference of words that is negative wraps, and is not `0`. -/
theorem toNat_sub_of_lt {x y : UInt64} (h : x.toNat < y.toNat) :
    (x - y).toNat = 2 ^ 64 - (y.toNat - x.toNat) := by
  have hy := y.toNat_lt
  rw [UInt64.toNat_sub]
  omega

/-- An unsigned 32-bit word taken as a signed one. -/
theorem toInt_toInt32 (x : UInt32) :
    x.toInt32.toInt = if x.toNat < 2 ^ 31 then (x.toNat : ℤ) else x.toNat - 2 ^ 32 := by
  show x.toBitVec.toInt = _
  rw [BitVec.toInt_eq_toNat_cond]
  have hlt := x.toBitVec.isLt
  have hnat : x.toBitVec.toNat = x.toNat := rfl
  split <;> split <;> omega

/-- A size cast to an `int` and back. -/
theorem toNat_toUInt64_toInt32 (x : UInt64) :
    x.toUInt32.toInt32.toInt64.toUInt64.toNat =
      if x.toNat % 2 ^ 32 < 2 ^ 31 then x.toNat % 2 ^ 32
      else x.toNat % 2 ^ 32 + (2 ^ 64 - 2 ^ 32) := by
  have hword := toNat_toUInt64 x.toUInt32.toInt32.toInt64
  rw [Int32.toInt_toInt64, toInt_toInt32, UInt64.toNat_toUInt32] at hword
  by_cases hlow : x.toNat % 2 ^ 32 < 2 ^ 31
  · rw [if_pos hlow] at hword ⊢
    omega
  · rw [if_neg hlow] at hword ⊢
    omega

/-- The low half is not changed. -/
theorem toUInt32_toUInt64_toInt32 (x : UInt64) :
    x.toUInt32.toInt32.toInt64.toUInt64.toUInt32 = x.toUInt32 := by
  rw [← UInt32.toNat_inj, UInt64.toNat_toUInt32, UInt64.toNat_toUInt32, toNat_toUInt64_toInt32]
  split <;> omega

/-- Only the sizes of an `int` survive the cast: the small ones, and those that
are negative ones mod `2 ^ 64`. -/
theorem toUInt64_toInt32_eq_iff (x : UInt64) :
    x.toUInt32.toInt32.toInt64.toUInt64 = x ↔ x.toNat < 2 ^ 31 ∨ 2 ^ 64 - 2 ^ 31 ≤ x.toNat := by
  have hx := x.toNat_lt
  rw [← UInt64.toNat_inj, toNat_toUInt64_toInt32]
  split <;> omega

/-! ## The smaller of two words -/

theorem toNat_min (x y : UInt32) : (min x y).toNat = min x.toNat y.toNat := by
  show (if x ≤ y then x else y).toNat = _
  split
  · exact (Nat.min_eq_left ‹_›).symm
  · rename_i hle
    exact (Nat.min_eq_right (Nat.le_of_not_le hle)).symm

theorem min_word_self (x : UInt32) : min x x = x := by
  rw [← UInt32.toNat_inj, toNat_min, Nat.min_self]

theorem lt_min_word_iff {i x y : UInt32} : i < min x y ↔ i < x ∧ i < y := by
  rw [UInt32.lt_iff_toNat_lt, toNat_min, Nat.lt_min]
  rfl

/-! ## Running totals mod `2 ^ 64` -/

section Totals

variable {counter x old new : UInt64} {total total' : ℕ}

/-- Replacing `old` by `new` in a total: the counter follows exactly when it is
`old` that is taken off. -/
theorem counter_replace_iff (hcounter : counter.toNat = total % 2 ^ 64)
    (htotal : total' + old.toNat = total + new.toNat) :
    (counter + (new - x)).toNat = total' % 2 ^ 64 ↔ x = old := by
  have hx := x.toNat_lt
  have hold := old.toNat_lt
  have hnew := new.toNat_lt
  rw [← UInt64.toNat_inj, UInt64.toNat_add, UInt64.toNat_sub]
  omega

/-- Taking `old` out of a total. -/
theorem counter_remove_iff (hcounter : counter.toNat = total % 2 ^ 64)
    (htotal : total' + old.toNat = total) :
    (counter - x).toNat = total' % 2 ^ 64 ↔ x = old := by
  have hx := x.toNat_lt
  have hold := old.toNat_lt
  rw [← UInt64.toNat_inj, UInt64.toNat_sub]
  omega

end Totals

end Foundation
