import Malleus.Realtime.Response
import Mathlib.Algebra.BigOperators.Ring.Finset
import Mathlib.Algebra.Order.BigOperators.Group.Finset
import Mathlib.Algebra.Order.Field.Rat
import Mathlib.Data.Nat.Cast.Order.Field
import Mathlib.Tactic.FieldSimp
import Mathlib.Tactic.Ring

/-! Exact utilisation: a window that every period divides is filled exactly by the shares of its work. -/

namespace Realtime

variable {κ : Type*} {tasks : Finset κ} {period cost : κ → ℕ} {window : ℕ}

/-- The exact share of time that work of a cost takes when it is repeated every period. -/
def exactShare (cost period : ℕ) : ℚ := (cost : ℚ) / period

/-- Over any window the exact share stays within its activations. -/
theorem mul_exactShare_le (window cost : ℕ) {period : ℕ} (positive : 0 < period) :
    window * exactShare cost period ≤ (window ⌈/⌉ period * cost : ℕ) := by
  have nonzero : (0 : ℚ) < period := Nat.cast_pos.mpr positive
  -- The activations of a window, end to end, are at least as long as the window.
  have covered : (window : ℚ) ≤ period * (window ⌈/⌉ period : ℕ) := by
    exact_mod_cast (ceilDiv_le_iff_le_mul positive).mp (le_refl (window ⌈/⌉ period))
  rw [exactShare, mul_div_assoc', div_le_iff₀ nonzero, Nat.cast_mul]
  calc (window : ℚ) * cost ≤ period * (window ⌈/⌉ period : ℕ) * cost :=
        mul_le_mul_of_nonneg_right covered (Nat.cast_nonneg _)
    _ = (window ⌈/⌉ period : ℕ) * cost * period := by ring

/-- Over a window that its period divides, the exact share is its activations. -/
theorem mul_exactShare_of_dvd (cost : ℕ) {window period : ℕ} (positive : 0 < period)
    (divides : period ∣ window) :
    window * exactShare cost period = (window ⌈/⌉ period * cost : ℕ) := by
  have nonzero : (period : ℚ) ≠ 0 := Nat.cast_ne_zero.mpr positive.ne'
  -- A window of so many periods has so many activations.
  obtain ⟨count, rfl⟩ := divides
  have activations : period * count ⌈/⌉ period = count := by
    rw [← smul_eq_mul, smul_ceilDiv positive]
  rw [activations, exactShare, Nat.cast_mul, Nat.cast_mul]
  field_simp

/-- Work of no more than the whole processor fits a window that every period divides. -/
theorem prefixed_of_dvd {ownCost : ℕ} (nonempty : 0 < window)
    (positive : ∀ task ∈ tasks, 0 < period task) (divides : ∀ task ∈ tasks, period task ∣ window)
    (underloaded : exactShare ownCost window
      + ∑ task ∈ tasks, exactShare (cost task) (period task) ≤ 1) :
    Prefixed (taskDemand ownCost tasks period cost) window := by
  have nonzero : (window : ℚ) ≠ 0 := Nat.cast_ne_zero.mpr nonempty.ne'
  have own : window * exactShare ownCost window = ownCost := by
    rw [exactShare, mul_div_cancel₀ _ nonzero]
  have demand : (taskDemand ownCost tasks period cost window : ℚ) = window
      * (exactShare ownCost window + ∑ task ∈ tasks, exactShare (cost task) (period task)) := by
    rw [mul_add, own, Finset.mul_sum, taskDemand, Nat.cast_add, Nat.cast_sum]
    congr 1
    exact Finset.sum_congr rfl fun task member =>
      (mul_exactShare_of_dvd (cost task) (positive task member) (divides task member)).symm
  -- Shares of no more than one leave the demand within the window.
  have fits : (taskDemand ownCost tasks period cost window : ℚ) ≤ window := by
    rw [demand]
    exact mul_le_of_le_one_right (Nat.cast_nonneg _) underloaded
  exact_mod_cast fits

/-- Work that fits a window no longer than its period takes no more than the whole processor. -/
theorem exactShares_le_one {base ownCost ownPeriod : ℕ} (nonempty : 0 < window)
    (within : window ≤ ownPeriod) (part : ownCost ≤ base)
    (positive : ∀ task ∈ tasks, 0 < period task)
    (enough : Prefixed (taskDemand base tasks period cost) window) :
    exactShare ownCost ownPeriod + ∑ task ∈ tasks, exactShare (cost task) (period task) ≤ 1 := by
  have above : (0 : ℚ) < window := Nat.cast_pos.mpr nonempty
  have longer : (0 : ℚ) < ownPeriod := Nat.cast_pos.mpr (nonempty.trans_le within)
  -- Over less than its period, work does not use up its own share.
  have own : window * exactShare ownCost ownPeriod ≤ ownCost := by
    rw [exactShare, mul_div_assoc', div_le_iff₀ longer, mul_comm]
    exact mul_le_mul_of_nonneg_left (Nat.cast_le.mpr within) (Nat.cast_nonneg _)
  refine le_of_mul_le_mul_left ?_ above
  calc (window : ℚ) * (exactShare ownCost ownPeriod
        + ∑ task ∈ tasks, exactShare (cost task) (period task))
      ≤ ownCost + ∑ task ∈ tasks, ((window ⌈/⌉ period task * cost task : ℕ) : ℚ) := by
        rw [mul_add, Finset.mul_sum]
        exact add_le_add own (Finset.sum_le_sum fun task member =>
          mul_exactShare_le window (cost task) (positive task member))
    _ ≤ (taskDemand base tasks period cost window : ℕ) := by
        rw [taskDemand, Nat.cast_add, Nat.cast_sum]
        exact add_le_add_left (Nat.cast_le.mpr part) _
    _ ≤ window := Nat.cast_le.mpr enough
    _ = window * 1 := (mul_one _).symm

end Realtime
