import Malleus.Machine.Word64
import Mathlib.Data.Nat.Log

/-! Code compiled with overflow checks: every step either yields a value or aborts. -/

namespace Machine

/-- Why a checked step aborts the program. -/
inductive Panic where
  | overflow
  | divideByZero
  | assertion
  deriving DecidableEq, Repr

/-- A computation that may abort. -/
abbrev Eval (α : Type) : Type := Except Panic α

/-- Returning a value completes. -/
@[simp] theorem pure_eq_ok {ε α : Type} (value : α) : (pure value : Except ε α) = .ok value := rfl

/-- A completed step passes its value to the rest of the computation. -/
@[simp] theorem ok_bind {ε α β : Type} (value : α) (rest : α → Except ε β) :
    (Except.ok value >>= rest) = rest value := rfl

/-- A failed step ends the whole computation. -/
@[simp] theorem error_bind {ε α β : Type} (failure : ε) (rest : α → Except ε β) :
    (Except.error failure >>= rest) = .error failure := rfl

/-- A completed computation completed each of its two parts. -/
theorem bind_eq_ok {ε α β : Type} {first : Except ε α} {rest : α → Except ε β} {result : β} :
    (first >>= rest) = .ok result ↔ ∃ value, first = .ok value ∧ rest value = .ok result := by
  cases first <;> simp

end Machine

namespace UInt64

open Machine

/-- Addition in a profile with overflow checks. -/
def strictAdd (left right : UInt64) : Eval UInt64 :=
  if left.toNat + right.toNat < 2 ^ 64 then .ok (left + right) else .error .overflow

/-- Subtraction in a profile with overflow checks. -/
def strictSub (left right : UInt64) : Eval UInt64 :=
  if right ≤ left then .ok (left - right) else .error .overflow

/-- Multiplication in a profile with overflow checks. -/
def strictMul (left right : UInt64) : Eval UInt64 :=
  if left.toNat * right.toNat < 2 ^ 64 then .ok (left * right) else .error .overflow

/-- Division aborts on a zero divisor in every profile. -/
def strictDiv (left right : UInt64) : Eval UInt64 :=
  if right = 0 then .error .divideByZero else .ok (left / right)

/-- Where the guarded product exists, the unguarded one completes with it. -/
theorem strictMul_eq_ok_of_checkedMul {left right product : UInt64}
    (guarded : left.checkedMul right = some product) : left.strictMul right = .ok product := by
  -- The guard of the one is the completion condition of the other.
  unfold checkedMul at guarded
  unfold strictMul
  split at guarded
  · rename_i small
    rw [if_pos small, Option.some.inj guarded]
  · simp at guarded

/-- One less than the next power of two: every bit below the highest bit of the predecessor. -/
def oneLessThanNextPowerOfTwo (word : UInt64) : UInt64 :=
  if word ≤ 1 then 0 else MAX >>> (63 - (word - 1).log2)

/-- The smallest power of two at or above a value; the final increment is overflow-checked. -/
def nextPowerOfTwo (word : UInt64) : Eval UInt64 :=
  word.oneLessThanNextPowerOfTwo.strictAdd 1

/-- The bits below the next power of two spell its predecessor. -/
theorem toNat_oneLessThanNextPowerOfTwo (word : UInt64) :
    word.oneLessThanNextPowerOfTwo.toNat = 2 ^ Nat.clog 2 word.toNat - 1 := by
  unfold oneLessThanNextPowerOfTwo
  split
  · rename_i small
    rw [UInt64.le_iff_toNat_le] at small
    have none_ : Nat.clog 2 word.toNat = 0 := Nat.clog_of_right_le_one small 2
    rw [none_]
    rfl
  · rename_i large
    have two : 2 ≤ word.toNat := by
      rw [UInt64.le_iff_toNat_le] at large
      have : (1 : UInt64).toNat = 1 := rfl
      omega
    have predecessor : (word - 1).toNat = word.toNat - 1 := by
      rw [UInt64.toNat_sub_of_le _ _ (by rw [UInt64.le_iff_toNat_le]; exact Nat.le_of_lt two)]
      rfl
    have bound := word.toNat_lt
    -- The predecessor's highest bit sits one below the exponent of the next power.
    have exponent : Nat.clog 2 word.toNat = Nat.log2 (word.toNat - 1) + 1 := by
      rw [Nat.log2_eq_log_two]
      apply le_antisymm
      · apply Nat.clog_le_of_le_pow
        have := Nat.lt_pow_succ_log_self (b := 2) (by omega) (word.toNat - 1)
        omega
      · have := Nat.pow_log_le_self 2 (x := word.toNat - 1) (by omega)
        rw [Nat.succ_le_iff, Nat.lt_clog_iff_pow_lt (by omega)]
        omega
    have high : Nat.log2 (word.toNat - 1) < 64 := by
      rw [Nat.log2_lt (by omega)]
      omega
    have shift : (63 - (word - 1).log2).toNat = 63 - Nat.log2 (word.toNat - 1) := by
      have logarithm : ((word - 1).log2).toNat = Nat.log2 (word.toNat - 1) := by
        rw [← predecessor]
        rfl
      rw [UInt64.toNat_sub_of_le _ _ (by
        rw [UInt64.le_iff_toNat_le, logarithm]
        change _ ≤ 63
        omega), logarithm]
      rfl
    rw [UInt64.toNat_shiftRight, shift, exponent, toNat_MAX, Nat.shiftRight_eq_div_pow,
      Nat.mod_eq_of_lt (by omega)]
    -- Dropping the unused high bits of an all-ones word leaves an all-ones prefix.
    have whole : (18446744073709551615 : ℕ) + 1
        = 2 ^ (Nat.log2 (word.toNat - 1) + 1) * 2 ^ (63 - Nat.log2 (word.toNat - 1)) := by
      rw [← Nat.pow_add, show Nat.log2 (word.toNat - 1) + 1 + (63 - Nat.log2 (word.toNat - 1)) = 64
        by omega]
    have positive := Nat.two_pow_pos (63 - Nat.log2 (word.toNat - 1))
    generalize 2 ^ (63 - Nat.log2 (word.toNat - 1)) = divisor at whole positive ⊢
    generalize 2 ^ (Nat.log2 (word.toNat - 1) + 1) = power at whole ⊢
    rw [Nat.div_eq_iff positive]
    have : (power - 1) * divisor = power * divisor - divisor := Nat.sub_one_mul power divisor
    omega

/-- Rounding to a power of two completes exactly up to half the range. -/
theorem nextPowerOfTwo_eq_ok {word rounded : UInt64} :
    word.nextPowerOfTwo = .ok rounded ↔
      word.toNat ≤ 2 ^ 63 ∧ rounded.toNat = 2 ^ Nat.clog 2 word.toNat := by
  have spelled := toNat_oneLessThanNextPowerOfTwo word
  have positive := Nat.two_pow_pos (Nat.clog 2 word.toNat)
  have one : (1 : UInt64).toNat = 1 := rfl
  have exact_ : word.oneLessThanNextPowerOfTwo.toNat + (1 : UInt64).toNat
      = 2 ^ Nat.clog 2 word.toNat := by
    rw [spelled, one]
    omega
  -- The power fits the word exactly when its exponent stays below the width.
  have fits : 2 ^ Nat.clog 2 word.toNat < 2 ^ 64 ↔ word.toNat ≤ 2 ^ 63 := by
    rw [Nat.pow_lt_pow_iff_right (by omega), ← Nat.clog_le_iff_le_pow (by omega)]
    omega
  unfold nextPowerOfTwo strictAdd
  rw [exact_]
  constructor
  · intro completed
    split at completed
    · rename_i small
      cases completed
      refine ⟨fits.mp small, ?_⟩
      rw [UInt64.toNat_add, exact_, Nat.mod_eq_of_lt small]
    · simp at completed
  · intro rounds
    obtain ⟨small, value⟩ := rounds
    rw [if_pos (fits.mpr small), Except.ok.injEq, ← UInt64.toNat_inj, UInt64.toNat_add, exact_,
      Nat.mod_eq_of_lt (fits.mpr small), value]

end UInt64
