import Mathlib.Algebra.Order.Floor.Div
import Mathlib.Tactic.Linarith
import Mathlib.Tactic.Ring

/-! Unsigned arithmetic as Rust offers it: clipped, checked, and rounded-up operations. -/

namespace UInt64

/-- The largest 64-bit value. -/
def MAX : UInt64 := 18446744073709551615

@[simp] theorem toNat_MAX : MAX.toNat = 18446744073709551615 := rfl

/-- No value exceeds the largest one. -/
theorem toNat_le_max (word : UInt64) : word.toNat ≤ 18446744073709551615 := by
  have := word.toNat_lt
  omega

/-- A nonzero value is a positive number. -/
theorem toNat_pos_iff {word : UInt64} : 0 < word.toNat ↔ word ≠ 0 := by
  -- Zero is the only word whose value is zero.
  rw [Nat.pos_iff_ne_zero, ne_eq, ne_eq, ← UInt64.toNat_inj]
  rfl

/-- Addition clipped at the top of the range. -/
def saturatingAdd (left right : UInt64) : UInt64 :=
  if left.toNat + right.toNat < 2 ^ 64 then left + right else MAX

/-- Multiplication clipped at the top of the range. -/
def saturatingMul (left right : UInt64) : UInt64 :=
  if left.toNat * right.toNat < 2 ^ 64 then left * right else MAX

/-- Subtraction clipped at zero. -/
def saturatingSub (left right : UInt64) : UInt64 :=
  if right ≤ left then left - right else 0

/-- Multiplication that reports a result outside the range. -/
def checkedMul (left right : UInt64) : Option UInt64 :=
  if left.toNat * right.toNat < 2 ^ 64 then some (left * right) else none

/-- Addition that reports a result outside the range. -/
def checkedAdd (left right : UInt64) : Option UInt64 :=
  if left.toNat + right.toNat < 2 ^ 64 then some (left + right) else none

/-- Division rounded up, from the quotient and the remainder. -/
def divCeil (left right : UInt64) : UInt64 :=
  let quotient := left / right
  if left % right > 0 then quotient + 1 else quotient

/-- Whether the left value is a multiple of the right one; only zero is a multiple of zero. -/
def isMultipleOf (left right : UInt64) : Bool :=
  if right = 0 then left = 0 else left % right = 0

/-- Clipped addition is the exact sum cut at the largest value. -/
@[simp] theorem toNat_saturatingAdd (left right : UInt64) :
    (left.saturatingAdd right).toNat = min (left.toNat + right.toNat) 18446744073709551615 := by
  -- Below the limit the machine sum does not wrap.
  unfold saturatingAdd
  split
  · rename_i small
    rw [UInt64.toNat_add, Nat.mod_eq_of_lt small]
    omega
  · rw [toNat_MAX]
    omega

/-- Clipped multiplication is the exact product cut at the largest value. -/
@[simp] theorem toNat_saturatingMul (left right : UInt64) :
    (left.saturatingMul right).toNat = min (left.toNat * right.toNat) 18446744073709551615 := by
  -- Below the limit the machine product does not wrap.
  unfold saturatingMul
  split
  · rename_i small
    rw [UInt64.toNat_mul, Nat.mod_eq_of_lt small]
    omega
  · rw [toNat_MAX]
    omega

/-- Clipped subtraction is the subtraction of numbers, which stops at zero. -/
@[simp] theorem toNat_saturatingSub (left right : UInt64) :
    (left.saturatingSub right).toNat = left.toNat - right.toNat := by
  unfold saturatingSub
  split
  · rename_i below
    exact UInt64.toNat_sub_of_le _ _ below
  · rename_i above
    rw [UInt64.le_iff_toNat_le] at above
    exact (Nat.sub_eq_zero_of_le (by omega)).symm

/-- A checked product exists exactly when the exact product fits, and is then that product. -/
theorem checkedMul_eq_some {left right product : UInt64} :
    left.checkedMul right = some product ↔ left.toNat * right.toNat = product.toNat := by
  unfold checkedMul
  constructor
  · intro fits
    -- A product that fits is not reduced.
    split at fits
    · rename_i small
      cases fits
      rw [UInt64.toNat_mul, Nat.mod_eq_of_lt small]
    · simp at fits
  · intro exact_
    -- The given product is itself a word, so it fits.
    have small : left.toNat * right.toNat < 2 ^ 64 := exact_ ▸ product.toNat_lt
    rw [if_pos small, Option.some.injEq, ← UInt64.toNat_inj, UInt64.toNat_mul,
      Nat.mod_eq_of_lt small, exact_]

/-- A checked sum exists exactly when the exact sum fits, and is then that sum. -/
theorem checkedAdd_eq_some {left right sum : UInt64} :
    left.checkedAdd right = some sum ↔ left.toNat + right.toNat = sum.toNat := by
  unfold checkedAdd
  constructor
  · intro fits
    -- A sum that fits is not reduced.
    split at fits
    · rename_i small
      cases fits
      rw [UInt64.toNat_add, Nat.mod_eq_of_lt small]
    · simp at fits
  · intro exact_
    -- The given sum is itself a word, so it fits.
    have small : left.toNat + right.toNat < 2 ^ 64 := exact_ ▸ sum.toNat_lt
    rw [if_pos small, Option.some.injEq, ← UInt64.toNat_inj, UInt64.toNat_add,
      Nat.mod_eq_of_lt small, exact_]

/-- The multiples of a value are the multiples of its number; only zero is a multiple of zero. -/
theorem isMultipleOf_iff {left right : UInt64} :
    left.isMultipleOf right = true ↔ right.toNat ∣ left.toNat := by
  have zero : (0 : UInt64).toNat = 0 := rfl
  unfold isMultipleOf
  split
  · rename_i none_
    rw [none_, decide_eq_true_iff, zero, Nat.zero_dvd, ← zero, UInt64.toNat_inj]
  · rw [decide_eq_true_iff, Nat.dvd_iff_mod_eq_zero, ← UInt64.toNat_mod, ← zero, UInt64.toNat_inj]

/-- Rounded-up division by a nonzero value is the exact rounded-up quotient. -/
theorem toNat_divCeil {right : UInt64} (left : UInt64) (positive : right ≠ 0) :
    (left.divCeil right).toNat = left.toNat ⌈/⌉ right.toNat := by
  -- The remainder decides whether one more whole divisor is needed.
  have divisor : 0 < right.toNat := toNat_pos_iff.mpr positive
  have split_ := Nat.div_add_mod left.toNat right.toNat
  have below := Nat.mod_lt left.toNat divisor
  have bound := left.toNat_lt
  have quotientBound := Nat.div_le_self left.toNat right.toNat
  have remainder : (left % right > 0) ↔ 0 < left.toNat % right.toNat := by
    rw [gt_iff_lt, lt_iff_toNat_lt, UInt64.toNat_mod]
    rfl
  have quotient : left.toNat ⌈/⌉ right.toNat
      = left.toNat / right.toNat + (if 0 < left.toNat % right.toNat then 1 else 0) := by
    apply le_antisymm
    · rw [ceilDiv_le_iff_le_mul divisor, Nat.mul_add]
      split <;> omega
    · split
      · rename_i rest
        by_contra less
        have small : left.toNat ⌈/⌉ right.toNat ≤ left.toNat / right.toNat := by omega
        rw [ceilDiv_le_iff_le_mul divisor] at small
        omega
      · exact Nat.div_le_div_right (by omega)
  rw [quotient]
  unfold divCeil
  simp only [remainder]
  split
  · rename_i rest
    have large : right.toNat ≠ 1 := by
      intro one
      rw [one, Nat.mod_one] at rest
      omega
    have halved : left.toNat / right.toNat < 2 ^ 64 - 1 := by
      have := Nat.div_le_div_left (show 2 ≤ right.toNat by omega) (by omega) (a := left.toNat)
      omega
    rw [UInt64.toNat_add, UInt64.toNat_div]
    exact Nat.mod_eq_of_lt (by simpa using by omega)
  · rw [UInt64.toNat_div]
    rfl

end UInt64

namespace UInt32

/-- The largest 32-bit value. -/
def MAX : UInt32 := 4294967295

/-- No value exceeds the largest one. -/
theorem toNat_le_max (word : UInt32) : word.toNat ≤ 4294967295 := by
  have := word.toNat_lt
  omega

/-- Addition clipped at the top of the range. -/
def saturatingAdd (left right : UInt32) : UInt32 :=
  if left.toNat + right.toNat < 2 ^ 32 then left + right else MAX

/-- Clipped addition is the exact sum cut at the largest value. -/
@[simp] theorem toNat_saturatingAdd (left right : UInt32) :
    (left.saturatingAdd right).toNat = min (left.toNat + right.toNat) 4294967295 := by
  have largest : MAX.toNat = 4294967295 := rfl
  -- Below the limit the machine sum does not wrap.
  unfold saturatingAdd
  split
  · rename_i small
    rw [UInt32.toNat_add, Nat.mod_eq_of_lt small]
    omega
  · rw [largest]
    omega

end UInt32
