import Malleus.Realtime.Demand
import Mathlib.Tactic.Ring

/-! Demand measured in a coarse unit of time and in a fine one: what a coarse window promises. -/

namespace Realtime

/-- Whole divisors pass through a rounded-up division. -/
theorem mul_add_ceilDiv {divisor : ℕ} (positive : 0 < divisor) (whole rest : ℕ) :
    (divisor * whole + rest) ⌈/⌉ divisor = whole + rest ⌈/⌉ divisor := by
  -- Compare the two numbers through the bounds they satisfy.
  apply eq_of_forall_ge_iff
  intro bound
  rw [ceilDiv_le_iff_le_mul positive]
  constructor
  · intro enough
    have inside : whole ≤ bound := by
      by_contra outside
      have := Nat.mul_le_mul_left divisor (show bound + 1 ≤ whole by omega)
      rw [Nat.mul_add] at this
      omega
    have remaining : rest ≤ divisor * (bound - whole) := by
      rw [Nat.mul_sub]
      omega
    have := (ceilDiv_le_iff_le_mul positive).mpr remaining
    omega
  · intro enough
    have remaining := (ceilDiv_le_iff_le_mul positive).mp
      (show rest ⌈/⌉ divisor ≤ bound - whole by omega)
    rw [Nat.mul_sub] at remaining
    have := Nat.mul_le_mul_left divisor (show whole ≤ bound by omega)
    omega

/-- A positive number needs one divisor more than what is left of it after one. -/
theorem ceilDiv_eq_succ {value divisor : ℕ} (positive : 0 < divisor) (nonzero : 0 < value) :
    value ⌈/⌉ divisor = (value - divisor) ⌈/⌉ divisor + 1 := by
  rcases Nat.lt_or_ge value divisor with small | large
  -- Less than one divisor is rounded up to one, and leaves nothing.
  · have once : value ⌈/⌉ divisor ≤ 1 := by
      rw [ceilDiv_le_iff_le_mul positive]
      omega
    have some_ := ceilDiv_pos nonzero positive
    rw [Nat.sub_eq_zero_of_le small.le, zero_ceilDiv]
    omega
  · have taken := mul_add_ceilDiv positive 1 (value - divisor)
    rw [Nat.mul_one, Nat.add_sub_cancel' large] at taken
    omega

/-- A common factor cancels from a rounded-up division. -/
theorem mul_ceilDiv_mul_right {factor divisor : ℕ} (positive : 0 < factor) (divides : 0 < divisor)
    (value : ℕ) : (value * factor) ⌈/⌉ (divisor * factor) = value ⌈/⌉ divisor := by
  -- Both quotients lie under the same bounds.
  apply eq_of_forall_ge_iff
  intro bound
  rw [ceilDiv_le_iff_le_mul (Nat.mul_pos divides positive), ceilDiv_le_iff_le_mul divides,
    Nat.mul_right_comm, Nat.mul_le_mul_right_iff positive]

/-- One interferer's activations are part of every demand. -/
theorem activations_le_periodicDemand {interferers : List (ℕ × ℕ)} {interferer : ℕ × ℕ}
    (listed : interferer ∈ interferers) (base window : ℕ) :
    window ⌈/⌉ interferer.1 * interferer.2 ≤ periodicDemand base interferers window := by
  -- The interferer is one term of the sum.
  have term := List.le_sum_of_mem (List.mem_map_of_mem
    (f := fun interferer : ℕ × ℕ => window ⌈/⌉ interferer.1 * interferer.2) listed)
  exact term.trans (Nat.le_add_left _ base)

section Rescale

variable {ι : Type*} {unit window scaled : ℕ} (rate : ℕ) (fine coarse : ι → ℕ × ℕ)

/-- Rounding periods down and costs up, unit for unit, can only add demand. -/
theorem periodicDemand_rescale (inside : scaled ≤ window * unit) (entries : List ι)
    (nonempty : 0 < unit) (positive : ∀ entry ∈ entries, 0 < (coarse entry).1)
    (periods : ∀ entry ∈ entries, (coarse entry).1 * unit ≤ (fine entry).1)
    (costs : ∀ entry ∈ entries, 0 < window → (fine entry).2 * rate ≤ (coarse entry).2 * unit)
    {fineBase coarseBase : ℕ} (base : fineBase * rate ≤ coarseBase * unit) :
    periodicDemand fineBase (entries.map fine) scaled * rate
      ≤ periodicDemand coarseBase (entries.map coarse) window * unit := by
  -- One interferer at a time joins the base on both sides.
  induction entries generalizing fineBase coarseBase with
  | nil => simpa using base
  | cons entry rest rescaled =>
    obtain ⟨tick, others⟩ := List.forall_mem_cons.mp positive
    obtain ⟨period, restPeriods⟩ := List.forall_mem_cons.mp periods
    obtain ⟨cost, restCosts⟩ := List.forall_mem_cons.mp costs
    rw [List.map_cons, List.map_cons, periodicDemand_cons, periodicDemand_cons]
    apply rescaled others restPeriods restCosts
    -- The longer period is activated no more often in the shorter window.
    have fewer : scaled ⌈/⌉ (fine entry).1 ≤ window ⌈/⌉ (coarse entry).1 := by
      rw [ceilDiv_le_iff_le_mul ((Nat.mul_pos tick nonempty).trans_le period)]
      calc scaled ≤ window * unit := inside
        _ ≤ (coarse entry).1 * (window ⌈/⌉ (coarse entry).1) * unit :=
          Nat.mul_le_mul_right _ ((ceilDiv_le_iff_le_mul tick).mp le_rfl)
        _ = (coarse entry).1 * unit * (window ⌈/⌉ (coarse entry).1) := by ring
        _ ≤ (fine entry).1 * (window ⌈/⌉ (coarse entry).1) := Nat.mul_le_mul_right _ period
    have activations : scaled ⌈/⌉ (fine entry).1 * (fine entry).2 * rate
        ≤ window ⌈/⌉ (coarse entry).1 * (coarse entry).2 * unit := by
      rcases Nat.eq_zero_or_pos window with empty | started
      -- An empty window has no activations on either side.
      · have none_ : scaled ⌈/⌉ (fine entry).1 = 0 := by
          have zero : window ⌈/⌉ (coarse entry).1 = 0 := by simp [empty]
          omega
        simp [none_]
      · calc scaled ⌈/⌉ (fine entry).1 * (fine entry).2 * rate
            = scaled ⌈/⌉ (fine entry).1 * ((fine entry).2 * rate) := by ring
          _ ≤ window ⌈/⌉ (coarse entry).1 * ((coarse entry).2 * unit) :=
            Nat.mul_le_mul fewer (cost started)
          _ = window ⌈/⌉ (coarse entry).1 * (coarse entry).2 * unit := by ring
    calc (fineBase + scaled ⌈/⌉ (fine entry).1 * (fine entry).2) * rate
        = fineBase * rate + scaled ⌈/⌉ (fine entry).1 * (fine entry).2 * rate := by ring
      _ ≤ coarseBase * unit + window ⌈/⌉ (coarse entry).1 * (coarse entry).2 * unit :=
        Nat.add_le_add base activations
      _ = (coarseBase + window ⌈/⌉ (coarse entry).1 * (coarse entry).2) * unit := by ring

end Rescale

end Realtime
