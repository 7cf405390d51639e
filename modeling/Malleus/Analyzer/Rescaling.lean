import Malleus.Analyzer.LeastResponse
import Malleus.Analyzer.Utilisation
import Malleus.Realtime.Rescale

/-! The analysis in a finer unit of time: the same rounds, the same verdicts, larger numbers. -/

namespace Malleus

open Realtime

/-- A task with every time measured in a finer unit. -/
def TaskTiming.scaled (factor : UInt64) (task : TaskTiming) : TaskTiming where
  name := task.name
  priority := task.priority
  period := task.period.map (· * factor)
  deadline := task.deadline.map (· * factor)
  wcet := task.wcet.map (· * factor)
  blocking := task.blocking * factor

@[simp] theorem TaskTiming.name_scaled (factor : UInt64) (task : TaskTiming) :
    (task.scaled factor).name = task.name := rfl

@[simp] theorem TaskTiming.priority_scaled (factor : UInt64) (task : TaskTiming) :
    (task.scaled factor).priority = task.priority := rfl

@[simp] theorem TaskTiming.period_scaled (factor : UInt64) (task : TaskTiming) :
    (task.scaled factor).period = task.period.map (· * factor) := rfl

@[simp] theorem TaskTiming.deadline_scaled (factor : UInt64) (task : TaskTiming) :
    (task.scaled factor).deadline = task.deadline.map (· * factor) := rfl

@[simp] theorem TaskTiming.wcet_scaled (factor : UInt64) (task : TaskTiming) :
    (task.scaled factor).wcet = task.wcet.map (· * factor) := rfl

@[simp] theorem TaskTiming.blocking_scaled (factor : UInt64) (task : TaskTiming) :
    (task.scaled factor).blocking = task.blocking * factor := rfl

/-- A verdict with every time measured in a finer unit. -/
def Verdict.scaled (factor : UInt64) : Verdict → Verdict
  | pass response slack => pass (response * factor) (slack * factor)
  | fail response overrun => fail (response * factor) (overrun * factor)
  | unknown reason => unknown reason

/-- An analysis with every response measured in a finer unit, and the same utilisation. -/
def Analysis.scaled (factor : UInt64) (analysis : Analysis) : Analysis where
  verdicts := analysis.verdicts.map fun entry => (entry.1, entry.2.scaled factor)
  utilisationPpm := analysis.utilisationPpm

/-- A time that can still be represented in the finer unit. -/
def Fits (factor time : UInt64) : Prop := time.toNat * factor.toNat < 18446744073709551616

instance (factor time : UInt64) : Decidable (Fits factor time) :=
  inferInstanceAs (Decidable (_ < _))

section Words

variable {factor first second : UInt64}

/-- A time that fits is multiplied without wrapping. -/
theorem Fits.toNat_mul (fits : Fits factor first) :
    (first * factor).toNat = first.toNat * factor.toNat := by
  rw [UInt64.toNat_mul]
  exact Nat.mod_eq_of_lt fits

/-- A shorter time fits as well. -/
theorem Fits.of_le (fits : Fits factor second) (shorter : first.toNat ≤ second.toNat) :
    Fits factor first := by
  have product := Nat.mul_le_mul_right factor.toNat shorter
  unfold Fits at fits ⊢
  omega

/-- Times that fit compare as they did. -/
theorem Fits.mul_lt_mul (nonzero : factor ≠ 0) (fits : Fits factor first) (fits' : Fits factor second) :
    first * factor < second * factor ↔ first < second := by
  rw [UInt64.lt_iff_toNat_lt, UInt64.lt_iff_toNat_lt, fits.toNat_mul, fits'.toNat_mul]
  exact Nat.mul_lt_mul_right (UInt64.toNat_pos_iff.mpr nonzero)

/-- Times that fit are equal only if they were. -/
theorem Fits.mul_inj (nonzero : factor ≠ 0) (fits : Fits factor first) (fits' : Fits factor second) :
    first * factor = second * factor ↔ first = second := by
  rw [← UInt64.toNat_inj, ← UInt64.toNat_inj, fits.toNat_mul, fits'.toNat_mul]
  exact Nat.mul_left_inj (UInt64.toNat_pos_iff.mpr nonzero).ne'

/-- The difference of two times that fit is measured in the same unit. -/
theorem Fits.sub_mul (fits : Fits factor first) (shorter : second ≤ first) :
    first * factor - second * factor = (first - second) * factor := by
  have order := UInt64.le_iff_toNat_le.mp shorter
  have fits' := fits.of_le order
  have product := Nat.mul_le_mul_right factor.toNat order
  have difference : (first - second).toNat = first.toNat - second.toNat :=
    UInt64.toNat_sub_of_le _ _ shorter
  have rest : Fits factor (first - second) := fits.of_le (by omega)
  -- The products are in the order of the times, so the difference does not wrap around.
  have ordered : second * factor ≤ first * factor := by
    rw [UInt64.le_iff_toNat_le, fits.toNat_mul, fits'.toNat_mul]
    exact product
  rw [← UInt64.toNat_inj, UInt64.toNat_sub_of_le _ _ ordered, fits.toNat_mul, fits'.toNat_mul,
    rest.toNat_mul, difference, Nat.sub_mul]

end Words

/-- Interferers with their times in a finer unit. -/
def scaledTimes (factor : UInt64) (preempting : List (UInt64 × UInt64)) : List (UInt64 × UInt64) :=
  preempting.map fun interferer => (interferer.1 * factor, interferer.2 * factor)

/-- Every period and cost of the interferers fits. -/
def AllFit (factor : UInt64) (preempting : List (UInt64 × UInt64)) : Prop :=
  ∀ interferer ∈ preempting, Fits factor interferer.1 ∧ Fits factor interferer.2

variable {factor base deadline : UInt64} {preempting : List (UInt64 × UInt64)}

/-- Interferers that fit keep their nonzero periods. -/
theorem AllFit.positive (nonzero : factor ≠ 0) (fit : AllFit factor preempting)
    (positive : PositivePeriods preempting) : PositivePeriods (scaledTimes factor preempting) := by
  intro interferer member
  obtain ⟨entry, listed, rfl⟩ := List.mem_map.mp member
  have period := positive entry listed
  rw [← UInt64.toNat_pos_iff] at nonzero period ⊢
  -- A product of two numbers that are not zero is not zero, and it has not been clipped.
  rw [(fit entry listed).1.toNat_mul]
  exact Nat.mul_pos period nonzero

/-- Demand over unbounded numbers is the same number of larger units. -/
theorem periodicDemand_scaled {unit : ℕ} (nonzero : 0 < unit) (start : ℕ)
    {interferers : List (ℕ × ℕ)} (positive : ∀ interferer ∈ interferers, 0 < interferer.1)
    (window : ℕ) :
    periodicDemand (start * unit)
        (interferers.map fun interferer => (interferer.1 * unit, interferer.2 * unit))
        (window * unit)
      = periodicDemand start interferers window * unit := by
  -- The induction is on the interferers; scaling the window and a period keeps the activations.
  induction interferers generalizing start with
  | nil => simp
  | cons first rest ih =>
    obtain ⟨head, tail⟩ := List.forall_mem_cons.mp positive
    rw [List.map_cons, periodicDemand_cons, periodicDemand_cons, ← ih _ tail,
      mul_ceilDiv_mul_right nonzero head, ← Nat.mul_assoc, ← Nat.add_mul]

/-- The exact demand of scaled interferers. -/
theorem exactDemand_scaled (nonzero : factor ≠ 0) (fit : AllFit factor preempting)
    (positive : PositivePeriods preempting) (fits : Fits factor base) (window : ℕ) :
    exactDemand (base * factor) (scaledTimes factor preempting) (window * factor.toNat)
      = exactDemand base preempting window * factor.toNat := by
  -- Nothing is clipped, so the scaled times are products over unbounded numbers.
  have times : exactTimes (scaledTimes factor preempting)
      = (exactTimes preempting).map fun interferer =>
        (interferer.1 * factor.toNat, interferer.2 * factor.toNat) := by
    rw [exactTimes, scaledTimes, exactTimes, List.map_map, List.map_map]
    apply List.map_congr_left
    intro interferer listed
    obtain ⟨period, cost⟩ := fit interferer listed
    simp only [Function.comp_apply, period.toNat_mul, cost.toNat_mul]
  rw [exactDemand, times, fits.toNat_mul, exactDemand]
  apply periodicDemand_scaled (UInt64.toNat_pos_iff.mpr nonzero)
  intro interferer member
  obtain ⟨entry, listed, rfl⟩ := List.mem_map.mp member
  exact UInt64.toNat_pos_iff.mpr (positive entry listed)

/-- One round of the scaled search computes the scaled value of the round. -/
theorem nextResponse_scaled (nonzero : factor ≠ 0) (fit : AllFit factor preempting)
    (positive : PositivePeriods preempting) (fits : Fits factor base) {response : UInt64}
    (fitsResponse : Fits factor response)
    (demand : exactDemand base preempting response.toNat * factor.toNat < 18446744073709551616) :
    nextResponse (base * factor) (scaledTimes factor preempting) (response * factor)
        = nextResponse base preempting response * factor
      ∧ Fits factor (nextResponse base preempting response) := by
  have unit := UInt64.toNat_pos_iff.mpr nonzero
  -- What fits after scaling was not clipped before it.
  have small : exactDemand base preempting response.toNat ≤ 18446744073709551615 := by
    have grown := Nat.le_mul_of_pos_right (exactDemand base preempting response.toNat) unit
    omega
  have computed : (nextResponse base preempting response).toNat
      = exactDemand base preempting response.toNat := by
    rw [toNat_nextResponse positive]
    omega
  have fitsNext : Fits factor (nextResponse base preempting response) := by
    unfold Fits
    rw [computed]
    exact demand
  refine ⟨?_, fitsNext⟩
  rw [← UInt64.toNat_inj, toNat_nextResponse (fit.positive nonzero positive), fitsResponse.toNat_mul,
    exactDemand_scaled nonzero fit positive fits, fitsNext.toNat_mul, computed]
  omega

/-- The search in the finer unit takes the same rounds to the scaled verdict. -/
theorem recurrence_scaled (nonzero : factor ≠ 0) (fit : AllFit factor preempting)
    (positive : PositivePeriods preempting) (fits : Fits factor base)
    (fitsDeadline : Fits factor deadline) {limit : ℕ} (reaches : deadline.toNat ≤ limit)
    (demand : exactDemand base preempting limit * factor.toNat < 18446744073709551616) (rounds : ℕ)
    {response : UInt64} (within : response.toNat ≤ limit) (fitsResponse : Fits factor response) :
    recurrence (base * factor) (deadline * factor) (scaledTimes factor preempting) rounds
        (response * factor)
      = (recurrence base deadline preempting rounds response).scaled factor := by
  induction rounds generalizing response with
  | zero => rfl
  | succ rounds ih =>
    -- Every response the search goes on with is within the limit.
    have grown := Nat.mul_le_mul_right factor.toNat (exactDemand_mono base preempting within)
    obtain ⟨next, fitsNext⟩ := nextResponse_scaled nonzero fit positive fits fitsResponse
      (grown.trans_lt demand)
    simp only [recurrence, next, fitsNext.mul_inj nonzero fitsResponse, gt_iff_lt,
      fitsDeadline.mul_lt_mul nonzero fitsNext, ← UInt64.not_lt,
      fitsDeadline.mul_lt_mul nonzero fitsResponse]
    split
    · split
      · rename_i late
        rw [Verdict.scaled, fitsDeadline.sub_mul (UInt64.not_lt.mp late)]
      · rename_i late
        rw [Verdict.scaled, fitsResponse.sub_mul (UInt64.le_of_lt (not_not.mp late))]
    · split
      · rename_i late
        rw [Verdict.scaled, fitsNext.sub_mul (UInt64.le_of_lt late)]
      · rename_i late
        have below := UInt64.le_iff_toNat_le.mp (UInt64.not_lt.mp late)
        exact ih (below.trans reaches) fitsNext

/-- Every declared time of a task fits in the finer unit, its cost with room for parts per million. -/
structure FitsTimes (factor : UInt64) (task : TaskTiming) : Prop where
  period : ∀ period ∈ task.period, Fits factor period
  deadline : ∀ deadline ∈ task.deadline, Fits factor deadline
  wcet : ∀ wcet ∈ task.wcet, wcet.toNat * 1000000 * factor.toNat < 18446744073709551616

instance (factor : UInt64) (task : TaskTiming) : Decidable (FitsTimes factor task) :=
  @decidable_of_iff _ _
    ⟨fun fits => ⟨fits.1, fits.2.1, fits.2.2⟩, fun fits => ⟨fits.period, fits.deadline, fits.wcet⟩⟩
    -- Named, because a search may try all 64-bit numbers instead of the one that is declared.
    (@instDecidableAnd _ _ (Option.decidableForallMem task.period)
      (@instDecidableAnd _ _ (Option.decidableForallMem task.deadline)
        (Option.decidableForallMem task.wcet)))

/-- What the search for a task's response can add up fits, up to its deadline or its own demand. -/
def FitsDemand (factor : UInt64) (all : List TaskTiming) (task : TaskTiming) : Prop :=
  ∀ deadline ∈ task.effectiveDeadline,
    periodicDemand task.ownDemand (exactTimes ((preempters task all).map TaskTiming.times))
      (max deadline.toNat task.ownDemand) * factor.toNat < 18446744073709551616

instance (factor : UInt64) (all : List TaskTiming) (task : TaskTiming) :
    Decidable (FitsDemand factor all task) :=
  Option.decidableForallMem task.effectiveDeadline

/-- A task set whose analysis can be done in the finer unit. -/
structure Rescalable (factor : UInt64) (tasks : List TaskTiming) : Prop where
  nonzero : factor ≠ 0
  times : ∀ task ∈ tasks, FitsTimes factor task
  demand : ∀ task ∈ tasks, FitsDemand factor tasks task

/-- A task set in a finer unit. -/
def scaledTasks (factor : UInt64) (tasks : List TaskTiming) : List TaskTiming :=
  tasks.map (TaskTiming.scaled factor)

variable {tasks : List TaskTiming} {task : TaskTiming}

/-- A cost that fits with room for parts per million fits. -/
theorem FitsTimes.cost (fits : FitsTimes factor task) {wcet : UInt64} (given : task.wcet = some wcet) :
    Fits factor wcet := by
  have room := fits.wcet wcet given
  -- Room for a million times the product is room for the product.
  rw [Nat.mul_right_comm] at room
  unfold Fits
  omega

/-- The scan over the other tasks reads the scaled times, or stops for the same reason. -/
theorem interferers_scaled (nonzero : factor ≠ 0) (task : TaskTiming) {all : List TaskTiming}
    (fit : ∀ other ∈ all, FitsTimes factor other) :
    interferers (task.scaled factor) (scaledTasks factor all)
      = (interferers task all).map (scaledTimes factor) := by
  -- The induction follows the scan; names and priorities have no unit.
  induction all with
  | nil => rfl
  | cons other rest ih =>
    obtain ⟨head, tail⟩ := List.forall_mem_cons.mp fit
    have others := ih tail
    rw [scaledTasks, List.map_cons, interferers, interferers, TaskTiming.name_scaled,
      TaskTiming.name_scaled, TaskTiming.priority_scaled, TaskTiming.priority_scaled,
      TaskTiming.period_scaled, TaskTiming.wcet_scaled]
    by_cases skipped : other.name = task.name ∨ other.priority ≤ task.priority
    · rw [if_pos skipped, if_pos skipped]
      exact others
    · rw [if_neg skipped, if_neg skipped]
      cases period : other.period with
      | none => simp [Except.map]
      | some interval =>
        -- A period is zero in one unit exactly if it is zero in the other.
        have zero : interval * factor = 0 ↔ interval = 0 := by
          have both := (head.period interval period).mul_inj nonzero
            (show Fits factor 0 by simp [Fits])
          rwa [UInt64.zero_mul] at both
        by_cases same : interval = 0
        · subst same
          simp [Except.map]
        · have same' := zero.not.mpr same
          cases cost : other.wcet with
          | none => simp [Except.map, same, same']
          | some wcet =>
            have scanned : interferers (task.scaled factor) (rest.map (TaskTiming.scaled factor))
                = (interferers task rest).map (scaledTimes factor) := others
            cases found : interferers task rest with
            | error reason => simp [Except.map, scanned, found]
            | ok preempting => simp [Except.map, scanned, found, scaledTimes]

/-- With complete declarations, the search for a task's response runs alike in both units. -/
theorem search_scaled (rescalable : Rescalable factor tasks) (listed : task ∈ tasks)
    (declared : ∀ other ∈ preempters task tasks, other.Declared) {wcet deadline : UInt64}
    (cost : task.wcet = some wcet) (contract : task.effectiveDeadline = some deadline)
    (fitsDeadline : Fits factor deadline) :
    recurrence ((wcet * factor).saturatingAdd (task.blocking * factor)) (deadline * factor)
        (scaledTimes factor ((preempters task tasks).map TaskTiming.times)) maxIterations
        ((wcet * factor).saturatingAdd (task.blocking * factor))
      = (recurrence (wcet.saturatingAdd task.blocking) deadline
        ((preempters task tasks).map TaskTiming.times) maxIterations
        (wcet.saturatingAdd task.blocking)).scaled factor := by
  have fits := rescalable.times task listed
  have demand := rescalable.demand task listed deadline contract
  -- What preempts the task is declared and listed, so its times fit.
  have fit : AllFit factor ((preempters task tasks).map TaskTiming.times) := by
    intro interferer member
    obtain ⟨other, present, rfl⟩ := List.mem_map.mp member
    obtain ⟨costed, timed, -⟩ := declared other present
    obtain ⟨period, interval⟩ := Option.isSome_iff_exists.mp timed
    obtain ⟨cost, given⟩ := Option.isSome_iff_exists.mp costed
    have times := rescalable.times other (List.mem_filter.mp present).1
    rw [TaskTiming.times, interval, given, Option.getD_some, Option.getD_some]
    exact ⟨times.period period interval, times.cost given⟩
  -- The start of the search is part of the demand, so it is clipped in neither unit.
  have own : task.ownDemand = wcet.toNat + task.blocking.toNat := by
    rw [TaskTiming.ownDemand, TaskTiming.wcetTicks, cost, Option.getD_some]
  have part := Nat.mul_le_mul_right factor.toNat (base_le_periodicDemand task.ownDemand
    (exactTimes ((preempters task tasks).map TaskTiming.times)) (max deadline.toNat task.ownDemand))
  have whole := Nat.le_mul_of_pos_right task.ownDemand (UInt64.toNat_pos_iff.mpr rescalable.nonzero)
  have base : (wcet.saturatingAdd task.blocking).toNat = task.ownDemand := by
    rw [UInt64.toNat_saturatingAdd]
    omega
  have fitsBase : Fits factor (wcet.saturatingAdd task.blocking) := by
    unfold Fits
    rw [base]
    omega
  have fitsBlocking : Fits factor task.blocking := fitsBase.of_le (by omega)
  have start : (wcet * factor).saturatingAdd (task.blocking * factor)
      = wcet.saturatingAdd task.blocking * factor := by
    rw [← UInt64.toNat_inj, UInt64.toNat_saturatingAdd, (fits.cost cost).toNat_mul,
      fitsBlocking.toNat_mul, fitsBase.toNat_mul, base, ← Nat.add_mul, ← own]
    omega
  -- The whole search stays below the demand that fits.
  have room : exactDemand (wcet.saturatingAdd task.blocking)
      ((preempters task tasks).map TaskTiming.times) (max deadline.toNat task.ownDemand)
      * factor.toNat < 18446744073709551616 := by
    rw [exactDemand, base]
    exact demand
  rw [start]
  exact recurrence_scaled rescalable.nonzero fit (positivePeriods_of_declared declared) fitsBase
    fitsDeadline (le_max_left _ _) room maxIterations (base.trans_le (le_max_right _ _)) fitsBase

/-- The verdict in the finer unit is the verdict, measured in it. -/
theorem verdictFor_scaled (rescalable : Rescalable factor tasks) (listed : task ∈ tasks) :
    verdictFor (task.scaled factor) (scaledTasks factor tasks)
      = (verdictFor task tasks).scaled factor := by
  have fits := rescalable.times task listed
  -- The deadline is declared or the period, in either unit.
  have contracts : (task.deadline.map (· * factor)).or (task.period.map (· * factor))
      = task.effectiveDeadline.map (· * factor) := by
    rw [TaskTiming.effectiveDeadline]
    cases task.deadline <;> rfl
  rw [verdictFor, verdictFor, TaskTiming.wcet_scaled, TaskTiming.deadline_scaled,
    TaskTiming.period_scaled, TaskTiming.blocking_scaled,
    interferers_scaled rescalable.nonzero task rescalable.times, contracts,
    show task.deadline.or task.period = task.effectiveDeadline from rfl, Option.isNone_map]
  -- Every exit before the search only asks what is declared.
  cases cost : task.wcet with
  | none => rfl
  | some wcet =>
    cases contract : task.effectiveDeadline with
    | none => rfl
    | some deadline =>
      have fitsDeadline : Fits factor deadline := by
        rcases Option.or_eq_some_iff.mp contract with given | ⟨-, given⟩
        · exact fits.deadline deadline given
        · exact fits.period deadline given
      simp only [Option.map_some]
      split
      · rfl
      · cases found : interferers task tasks with
        | error reason => rfl
        | ok preempting =>
          obtain ⟨declared, rfl⟩ := interferers_eq_ok.mp found
          exact search_scaled rescalable listed declared cost contract fitsDeadline

/-- A share of the processor is the same in both units. -/
theorem sharePpm_scaled (nonzero : factor ≠ 0) (fits : FitsTimes factor task) :
    (task.scaled factor).sharePpm = task.sharePpm := by
  rw [TaskTiming.sharePpm, TaskTiming.sharePpm, TaskTiming.period_scaled, TaskTiming.wcet_scaled]
  -- A share is counted of a period and a cost, and only if both are declared.
  cases period : task.period with
  | none => rfl
  | some interval =>
    cases cost : task.wcet with
    | none => simp
    | some wcet =>
      have fitsPeriod := fits.period interval period
      have room := fits.wcet wcet cost
      have fitsWcet := fits.cost cost
      have unit := UInt64.toNat_pos_iff.mpr nonzero
      have zero : interval * factor = 0 ↔ interval = 0 := by
        have both := fitsPeriod.mul_inj nonzero (show Fits factor 0 by simp [Fits])
        rwa [UInt64.zero_mul] at both
      by_cases same : interval = 0
      · subst same
        simp
      · have same' := zero.not.mpr same
        simp only [Option.map_some]
        -- The factor cancels from the quotient, which neither unit clips.
        have shares : (wcet * factor).saturatingMul 1000000 / (interval * factor)
            = wcet.saturatingMul 1000000 / interval := by
          have million : (1000000 : UInt64).toNat = 1000000 := rfl
          have grown := Nat.le_mul_of_pos_right (wcet.toNat * 1000000) unit
          have clipped : min (wcet.toNat * factor.toNat * 1000000) 18446744073709551615
              = wcet.toNat * 1000000 * factor.toNat := by
            rw [Nat.mul_right_comm]
            omega
          rw [← UInt64.toNat_inj, UInt64.toNat_div, UInt64.toNat_div, UInt64.toNat_saturatingMul,
            UInt64.toNat_saturatingMul, fitsWcet.toNat_mul, fitsPeriod.toNat_mul, million, clipped,
            Nat.mul_div_mul_right _ _ unit]
          congr 1
          omega
        exact shares

/-- Analysing a task set in a finer unit gives the same analysis, measured in it. -/
theorem analyse_scaled (rescalable : Rescalable factor tasks) :
    analyse (scaledTasks factor tasks) = (analyse tasks).scaled factor := by
  -- Each verdict is the scaled one.
  have verdicts : (scaledTasks factor tasks).map (fun task =>
      (task.name, verdictFor task (scaledTasks factor tasks)))
      = (tasks.map fun task => (task.name, verdictFor task tasks)).map fun entry =>
        (entry.1, entry.2.scaled factor) := by
    rw [scaledTasks, List.map_map, List.map_map]
    apply List.map_congr_left
    intro task listed
    have same := verdictFor_scaled rescalable listed
    rw [scaledTasks] at same
    simp only [Function.comp_apply, TaskTiming.name_scaled, same]
  -- A share is a ratio, which the unit cancels out of.
  have figure : (scaledTasks factor tasks).foldl addUtilisation 0 = tasks.foldl addUtilisation 0 := by
    rw [← UInt64.toNat_inj, toNat_foldl_addUtilisation, toNat_foldl_addUtilisation, scaledTasks,
      List.map_map]
    congr 3
    apply List.map_congr_left
    intro task listed
    simp only [Function.comp_apply]
    rw [sharePpm_scaled rescalable.nonzero (rescalable.times task listed)]
  rw [analyse, analyse, Analysis.scaled, verdicts, figure]

end Malleus
