import Malleus.Realtime.Response
import Mathlib.Algebra.BigOperators.Ring.Finset
import Mathlib.Algebra.Order.BigOperators.Group.Finset
import Mathlib.Tactic.Ring

/-! Utilisation: a window that holds its own demand bounds the share of time all of its work takes. -/

namespace Realtime

/-- The share of time that a cost repeated every period takes, in whole parts of a scale. -/
def share (scale cost period : ℕ) : ℕ :=
  cost * scale / period

/-- Over any window a share stays within its activations. -/
theorem share_mul_le (scale cost window : ℕ) {period : ℕ} (positive : 0 < period) :
    share scale cost period * window ≤ scale * (window ⌈/⌉ period * cost) := by
  -- The window is covered by whole periods, and each of them pays for one activation.
  have covered : window ≤ period * (window ⌈/⌉ period) := (ceilDiv_le_iff_le_mul positive).mp le_rfl
  calc share scale cost period * window
      ≤ share scale cost period * (period * (window ⌈/⌉ period)) := Nat.mul_le_mul_left _ covered
    _ = share scale cost period * period * (window ⌈/⌉ period) := (Nat.mul_assoc _ _ _).symm
    _ ≤ cost * scale * (window ⌈/⌉ period) := Nat.mul_le_mul_right _ (Nat.div_mul_le_self _ _)
    _ = scale * (window ⌈/⌉ period * cost) := by ring

/-- A window no longer than the period holds a share only once. -/
theorem share_mul_le_once (scale cost : ℕ) {window period : ℕ} (within : window ≤ period) :
    share scale cost period * window ≤ scale * cost :=
  calc share scale cost period * window
      ≤ share scale cost period * period := Nat.mul_le_mul_left _ within
    _ ≤ cost * scale := Nat.div_mul_le_self _ _
    _ = scale * cost := Nat.mul_comm _ _

/--
Work that fits a window together with everything repeating above it leaves no overload.

The window must not be longer than the work's own period.
-/
theorem shares_le_scale {κ : Type*} {tasks : Finset κ} {period cost : κ → ℕ}
    {base ownCost ownPeriod window : ℕ} (scale : ℕ) (nonempty : 0 < window)
    (within : window ≤ ownPeriod) (part : ownCost ≤ base)
    (positive : ∀ task ∈ tasks, 0 < period task)
    (enough : taskDemand base tasks period cost window ≤ window) :
    share scale ownCost ownPeriod + ∑ task ∈ tasks, share scale (cost task) (period task)
      ≤ scale := by
  apply Nat.le_of_mul_le_mul_right _ nonempty
  -- Over the window every share is at most the demand of its task, and the demand is served.
  calc (share scale ownCost ownPeriod + ∑ task ∈ tasks, share scale (cost task) (period task)) * window
      = share scale ownCost ownPeriod * window
          + ∑ task ∈ tasks, share scale (cost task) (period task) * window := by
        rw [Nat.add_mul, Finset.sum_mul]
    _ ≤ scale * ownCost + ∑ task ∈ tasks, scale * (window ⌈/⌉ period task * cost task) :=
        Nat.add_le_add (share_mul_le_once scale ownCost within)
          (Finset.sum_le_sum fun task member => share_mul_le scale (cost task) window (positive task member))
    _ ≤ scale * taskDemand base tasks period cost window := by
        rw [← Finset.mul_sum, taskDemand, Nat.mul_add]
        exact Nat.add_le_add_right (Nat.mul_le_mul_left _ part) _
    _ ≤ scale * window := Nat.mul_le_mul_left _ enough

end Realtime
