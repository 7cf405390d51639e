import Mathlib.Algebra.Order.Floor.Div
import Mathlib.Algebra.Order.BigOperators.Group.List
import Mathlib.GroupTheory.GroupAction.Ring
import Mathlib.Data.List.Forall2
import Mathlib.Logic.Function.Iterate
import Mathlib.Tactic.Linarith

/-! Monotone demand over the natural numbers, its least fixed point, and the periodic case. -/

namespace Realtime

/-- A window is self-sufficient when all demand released in it fits in it. -/
def Prefixed (demand : ℕ → ℕ) (window : ℕ) : Prop :=
  demand window ≤ window

/-- A value below every self-sufficient window keeps that property after one more evaluation. -/
theorem Prefixed.le_of_le {demand : ℕ → ℕ} (mono : Monotone demand) {value : ℕ}
    (below : ∀ window, Prefixed demand window → value ≤ window) :
    ∀ window, Prefixed demand window → demand value ≤ window := by
  -- Monotonicity carries the bound through one evaluation, and the window absorbs the result.
  intro window enough
  exact (mono (below window enough)).trans enough

/-- A self-sufficient window contains the least fixed point of the demand. -/
theorem exists_least_fixed {demand : ℕ → ℕ} (mono : Monotone demand) {bound : ℕ}
    (enough : Prefixed demand bound) :
    ∃ response, response ≤ bound ∧ demand response = response ∧
      ∀ window, Prefixed demand window → response ≤ window := by
  classical
  -- The least self-sufficient window cannot strictly contain its own demand.
  have witnessed : ∃ window, Prefixed demand window := ⟨bound, enough⟩
  have least : ∀ window, Prefixed demand window → Nat.find witnessed ≤ window :=
    fun window holds => Nat.find_min' witnessed holds
  have settled : Prefixed demand (Nat.find witnessed) := Nat.find_spec witnessed
  have closed : Prefixed demand (demand (Nat.find witnessed)) := mono settled
  exact ⟨Nat.find witnessed, least bound enough, le_antisymm settled (least _ closed), least⟩

/-- Repeating the demand from within a self-sufficient window stays within it. -/
theorem Prefixed.iterate_le {demand : ℕ → ℕ} (mono : Monotone demand) {start bound : ℕ}
    (enough : Prefixed demand bound) (within : start ≤ bound) (rounds : ℕ) :
    demand^[rounds] start ≤ bound := by
  induction rounds with
  | zero => exact within
  | succ rounds ih =>
    -- The window absorbs one more evaluation.
    rw [Function.iterate_succ_apply']
    exact (mono ih).trans enough

/-- Demand of one unit of work and of periodic interferers, each a period and a cost. -/
def periodicDemand (base : ℕ) (interferers : List (ℕ × ℕ)) (window : ℕ) : ℕ :=
  base + (interferers.map fun interferer => window ⌈/⌉ interferer.1 * interferer.2).sum

/-- A wider window releases no fewer activations. -/
theorem ceilDiv_mono_left (period : ℕ) : Monotone fun window : ℕ => window ⌈/⌉ period := by
  -- Rounding up adds the same amount to both before dividing.
  intro narrow wide wider
  exact Nat.div_le_div_right (by omega)

/-- A nonempty window releases at least one activation. -/
theorem ceilDiv_pos {window period : ℕ} (nonempty : 0 < window) (positive : 0 < period) :
    0 < window ⌈/⌉ period := by
  -- A zero quotient would leave no room for the window.
  by_contra none_
  have zero : window ⌈/⌉ period ≤ 0 := by omega
  rw [ceilDiv_le_iff_le_mul positive] at zero
  omega

/-- Periodic demand grows with the window. -/
theorem periodicDemand_mono (base : ℕ) (interferers : List (ℕ × ℕ)) :
    Monotone (periodicDemand base interferers) := by
  -- Every interferer contributes no less, and the base does not change.
  intro narrow wide wider
  apply Nat.add_le_add_left
  apply List.sum_le_sum
  intro interferer _
  exact Nat.mul_le_mul_right _ (ceilDiv_mono_left interferer.1 wider)

/-- The work itself is part of every demand. -/
theorem base_le_periodicDemand (base : ℕ) (interferers : List (ℕ × ℕ)) (window : ℕ) :
    base ≤ periodicDemand base interferers window :=
  Nat.le_add_right base _

@[simp] theorem periodicDemand_nil (base window : ℕ) : periodicDemand base [] window = base := by
  simp [periodicDemand]

/-- The first interferer's demand can be counted as part of the base. -/
theorem periodicDemand_cons (base : ℕ) (first : ℕ × ℕ) (rest : List (ℕ × ℕ)) (window : ℕ) :
    periodicDemand base (first :: rest) window =
      periodicDemand (base + window ⌈/⌉ first.1 * first.2) rest window := by
  simp [periodicDemand, Nat.add_assoc]

/-- One interferer repeats no more often than another, and costs no more each time. -/
structure Lighter (light heavy : ℕ × ℕ) : Prop where
  positive : 0 < heavy.1
  rarer : heavy.1 ≤ light.1
  cheaper : light.2 ≤ heavy.2

/-- A longer period has no more activations in a window. -/
theorem ceilDiv_anti_right (window : ℕ) {short long : ℕ} (positive : 0 < short)
    (longer : short ≤ long) : window ⌈/⌉ long ≤ window ⌈/⌉ short := by
  -- As many longer periods cover the window, since the shorter ones already do.
  rw [ceilDiv_le_iff_le_mul (positive.trans_le longer)]
  calc window ≤ short * (window ⌈/⌉ short) := (ceilDiv_le_iff_le_mul positive).mp le_rfl
    _ ≤ long * (window ⌈/⌉ short) := Nat.mul_le_mul_right _ longer

/-- Less work of its own and fewer, lighter interferers leave less demand in every window. -/
theorem periodicDemand_le_of_lighter {base base' : ℕ} {interferers interferers' : List (ℕ × ℕ)}
    (less : base' ≤ base) (lighter : interferers'.SublistForall₂ Lighter interferers)
    (window : ℕ) :
    periodicDemand base' interferers' window ≤ periodicDemand base interferers window := by
  induction lighter generalizing base base' with
  | nil => simpa using less.trans (base_le_periodicDemand base _ window)
  | cons head _ ih =>
    -- The first interferers' shares compare period by period and cost by cost.
    rw [periodicDemand_cons, periodicDemand_cons]
    apply ih
    exact Nat.add_le_add less
      (Nat.mul_le_mul (ceilDiv_anti_right window head.positive head.rarer) head.cheaper)
  | cons_right _ ih =>
    rw [periodicDemand_cons]
    exact ih (less.trans (Nat.le_add_right _ _))

/-- How many activations of periodic interferers fall into a window. -/
def activations (interferers : List (ℕ × ℕ)) (window : ℕ) : ℕ :=
  (interferers.map fun interferer => window ⌈/⌉ interferer.1).sum

@[simp] theorem activations_cons (first : ℕ × ℕ) (rest : List (ℕ × ℕ)) (window : ℕ) :
    activations (first :: rest) window = window ⌈/⌉ first.1 + activations rest window := by
  simp [activations]

/-- No activation falls into an empty window. -/
theorem activations_zero (interferers : List (ℕ × ℕ)) : activations interferers 0 = 0 := by
  simp [activations]

/-- A wider window sees no fewer activations. -/
theorem activations_mono (interferers : List (ℕ × ℕ)) : Monotone (activations interferers) := by
  -- Every interferer is activated no less often.
  intro narrow wide wider
  apply List.sum_le_sum
  intro interferer _
  exact ceilDiv_mono_left interferer.1 wider

/-- A wider window without another activation has the same demand. -/
theorem periodicDemand_eq_of_activations_eq {interferers : List (ℕ × ℕ)} {narrow wide : ℕ}
    (base : ℕ) (wider : narrow ≤ wide)
    (same : activations interferers narrow = activations interferers wide) :
    periodicDemand base interferers narrow = periodicDemand base interferers wide := by
  induction interferers generalizing base with
  | nil => simp
  | cons first rest ih =>
    -- Neither count can fall, so an unchanged sum leaves both unchanged.
    have head : narrow ⌈/⌉ first.1 ≤ wide ⌈/⌉ first.1 := ceilDiv_mono_left first.1 wider
    have tail := activations_mono rest wider
    rw [activations_cons, activations_cons] at same
    have count : narrow ⌈/⌉ first.1 = wide ⌈/⌉ first.1 := by omega
    rw [periodicDemand_cons, periodicDemand_cons, count]
    exact ih _ (by omega)

/-- Two windows have the same demand exactly when they see the costly interferers equally often. -/
theorem periodicDemand_eq_iff {base : ℕ} {interferers : List (ℕ × ℕ)} {narrow wide : ℕ}
    (wider : narrow ≤ wide) :
    periodicDemand base interferers narrow = periodicDemand base interferers wide ↔
      ∀ interferer ∈ interferers, interferer.2 ≠ 0 →
        narrow ⌈/⌉ interferer.1 = wide ⌈/⌉ interferer.1 := by
  -- No share falls, so the sums agree only where every single share does.
  have each : ∀ interferer ∈ interferers, narrow ⌈/⌉ interferer.1 * interferer.2
      ≤ wide ⌈/⌉ interferer.1 * interferer.2 :=
    fun interferer _ => Nat.mul_le_mul_right _ (ceilDiv_mono_left interferer.1 wider)
  rw [periodicDemand, periodicDemand, Nat.add_left_cancel_iff]
  constructor
  · intro same interferer member costly
    by_contra differs
    have rises := lt_of_le_of_ne (ceilDiv_mono_left interferer.1 wider) differs
    -- One share that rises would make the whole sum rise.
    have more := List.sum_lt_sum _ _ each
      ⟨interferer, member, Nat.mul_lt_mul_of_pos_right rises (Nat.pos_of_ne_zero costly)⟩
    exact absurd same more.ne
  · intro same
    congr 1
    apply List.map_congr_left
    intro interferer member
    -- An interferer without cost adds nothing to either sum.
    by_cases free : interferer.2 = 0
    · rw [free, Nat.mul_zero, Nat.mul_zero]
    · rw [same interferer member free]

/-- Without an activation only the work itself is demanded. -/
theorem periodicDemand_of_activations_eq_zero {interferers : List (ℕ × ℕ)} {window : ℕ} (base : ℕ)
    (idle : activations interferers window = 0) :
    periodicDemand base interferers window = base := by
  -- An empty window has the same activations, and therefore the same demand.
  rw [← periodicDemand_eq_of_activations_eq base (Nat.zero_le window)
    ((activations_zero interferers).trans idle.symm)]
  simp [periodicDemand]

end Realtime
