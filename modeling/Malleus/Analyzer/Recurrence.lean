import Malleus.Analyzer.ResponseTime
import Malleus.Realtime.Demand

/-! The bounded search against the exact demand: what each of its three exits establishes. -/

namespace Malleus

open Realtime

/-- The interferers' periods and costs as unbounded numbers. -/
def exactTimes (preempting : List (UInt64 × UInt64)) : List (ℕ × ℕ) :=
  preempting.map fun interferer => (interferer.1.toNat, interferer.2.toNat)

/-- The recurrence's right-hand side over unbounded numbers. -/
def exactDemand (base : UInt64) (preempting : List (UInt64 × UInt64)) : ℕ → ℕ :=
  periodicDemand base.toNat (exactTimes preempting)

/-- Exact demand grows with the window. -/
theorem exactDemand_mono (base : UInt64) (preempting : List (UInt64 × UInt64)) :
    Monotone (exactDemand base preempting) :=
  periodicDemand_mono _ _

/-- No interferer repeats without any time in between. -/
def PositivePeriods (preempting : List (UInt64 × UInt64)) : Prop :=
  ∀ interferer ∈ preempting, interferer.1 ≠ 0

/-- One round computes the exact demand, cut once at the top of the range. -/
theorem toNat_nextResponse {base response : UInt64} {preempting : List (UInt64 × UInt64)}
    (positive : PositivePeriods preempting) :
    (nextResponse base preempting response).toNat =
      min (exactDemand base preempting response.toNat) 18446744073709551615 := by
  -- The running sum is a prefix of the exact one, or already stuck at the top.
  unfold nextResponse exactDemand exactTimes
  have bound := base.toNat_le_max
  induction preempting generalizing base with
  | nil => simpa using bound
  | cons first rest ih =>
    have head : first.1 ≠ 0 := positive first (by simp)
    have tail : PositivePeriods rest := fun interferer member => positive interferer (by simp [member])
    rw [List.foldl_cons, ih tail (UInt64.toNat_le_max _), List.map_cons, periodicDemand_cons]
    simp only [addInterference, UInt64.toNat_saturatingAdd, UInt64.toNat_saturatingMul,
      UInt64.toNat_divCeil response head, periodicDemand]
    omega

/-- One round computes no less from a later response. -/
theorem nextResponse_mono (base : UInt64) {narrow wide : UInt64} {preempting : List (UInt64 × UInt64)}
    (positive : PositivePeriods preempting) (wider : narrow ≤ wide) :
    nextResponse base preempting narrow ≤ nextResponse base preempting wide := by
  -- Cutting both sums at the same value keeps their order.
  have grown := exactDemand_mono base preempting (UInt64.le_iff_toNat_le.mp wider)
  rw [UInt64.le_iff_toNat_le, toNat_nextResponse positive, toNat_nextResponse positive]
  omega

/-- No round computes less than the start. -/
theorem base_le_nextResponse (base response : UInt64) {preempting : List (UInt64 × UInt64)}
    (positive : PositivePeriods preempting) :
    base ≤ nextResponse base preempting response := by
  -- The base is part of every demand, and a value that fits survives the clipping.
  have part : base.toNat ≤ exactDemand base preempting response.toNat :=
    base_le_periodicDemand _ _ _
  have bound := base.toNat_le_max
  rw [UInt64.le_iff_toNat_le, toNat_nextResponse positive]
  omega

/-- Rounding cannot push the search past a window that already holds all demand. -/
theorem nextResponse_le {base response : UInt64} {preempting : List (UInt64 × UInt64)}
    (positive : PositivePeriods preempting)
    (below : ∀ window, Prefixed (exactDemand base preempting) window → response.toNat ≤ window) :
    ∀ window, Prefixed (exactDemand base preempting) window →
      (nextResponse base preempting response).toNat ≤ window := by
  -- The computed value is the exact one, or lower where a sum was cut.
  intro window enough
  have step := Prefixed.le_of_le (exactDemand_mono base preempting) below window enough
  rw [toNat_nextResponse positive]
  omega

/-- What a verdict of the search says about the exact demand. -/
def Established (base deadline : UInt64) (preempting : List (UInt64 × UInt64)) : Verdict → Prop
  | .pass response slack =>
    nextResponse base preempting response = response ∧ response ≤ deadline ∧
      slack = deadline - response ∧
      ∀ window, Prefixed (exactDemand base preempting) window → response.toNat ≤ window
  | .fail response overrun =>
    deadline < response ∧ overrun = response - deadline ∧
      ∀ window, Prefixed (exactDemand base preempting) window → response.toNat ≤ window
  | .unknown reason => reason = Reason.noConvergence

/-- Every exit of the search establishes its verdict. -/
theorem recurrence_established {base deadline : UInt64} {preempting : List (UInt64 × UInt64)}
    (positive : PositivePeriods preempting) (rounds : Nat) {response : UInt64}
    (below : ∀ window, Prefixed (exactDemand base preempting) window → response.toNat ≤ window) :
    Established base deadline preempting
      (recurrence base deadline preempting rounds response) := by
  -- The invariant is that no iterate exceeds any self-sufficient window.
  induction rounds generalizing response with
  | zero => rfl
  | succ rounds ih =>
    have step := nextResponse_le positive below
    simp only [recurrence]
    split
    · rename_i settled
      split
      · rename_i within
        exact ⟨settled, within, rfl, below⟩
      · rename_i late
        exact ⟨UInt64.not_le.mp late, rfl, below⟩
    · split
      · rename_i late
        exact ⟨late, rfl, step⟩
      · exact ih step

/-- The search starts at the task's own demand, which no window can be without. -/
theorem recurrence_start (base deadline : UInt64) {preempting : List (UInt64 × UInt64)}
    (positive : PositivePeriods preempting) (rounds : Nat) :
    Established base deadline preempting (recurrence base deadline preempting rounds base) := by
  -- The base alone is part of every demand.
  apply recurrence_established positive
  intro window enough
  exact (base_le_periodicDemand _ _ _).trans enough

/-- A passing response below the top of the range is the exact least fixed point. -/
theorem Established.fixed {base deadline response slack : UInt64}
    {preempting : List (UInt64 × UInt64)} (positive : PositivePeriods preempting)
    (established : Established base deadline preempting (.pass response slack))
    (unclipped : response.toNat < 18446744073709551615) :
    exactDemand base preempting response.toNat = response.toNat := by
  -- Had the sum been cut, the response would be the largest value.
  have computed : (nextResponse base preempting response).toNat = _ :=
    toNat_nextResponse positive
  rw [established.1] at computed
  omega

end Malleus
