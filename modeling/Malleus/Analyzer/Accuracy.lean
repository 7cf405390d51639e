import Malleus.Analyzer.Utilisation
import Mathlib.Data.Rat.Floor
import Mathlib.Tactic.FieldSimp

/-! The utilisation figure against the exact demand: what rounding drops and what clipping hides. -/

namespace Malleus

open Realtime

namespace TaskTiming

/-- A task's exact share of the processor, in parts per million. -/
def exactShare (task : TaskTiming) : ℚ := (task.wcetTicks * 1000000 : ℚ) / task.periodTicks

/-- The whole parts per million the analyser counts, the product clipped at the largest value. -/
def countedShare (task : TaskTiming) : ℕ :=
  min (task.wcetTicks * 1000000) 18446744073709551615 / task.periodTicks

/-- How many multiples of the period lie above the range, up to the scaled execution time. -/
def hiddenShare (task : TaskTiming) : ℕ :=
  task.wholeShare - 18446744073709551615 / task.periodTicks

/-- The scaled execution time reaches no multiple of the period that leaves the range. -/
def FullyCounted (task : TaskTiming) : Prop :=
  ∀ count, 2 ^ 64 ≤ count * task.periodTicks → task.wcetTicks * 1000000 < count * task.periodTicks

/-- The part of the exact share below one part per million. -/
def droppedShare (task : TaskTiming) : ℚ :=
  (task.wcetTicks * 1000000 % task.periodTicks : ℕ) / (task.periodTicks : ℚ)

/-- Nothing is hidden of a task exactly when every multiple of its period is counted. -/
theorem hiddenShare_eq_zero_iff {task : TaskTiming} (declared : task.Declared) :
    task.hiddenShare = 0 ↔ task.FullyCounted := by
  rw [hiddenShare, Nat.sub_eq_zero_iff_le]
  constructor
  -- A multiple outside the range has a factor that the scaled execution time does not reach.
  · intro inside count beyond
    have above : 18446744073709551615 / task.periodTicks < count :=
      (Nat.div_lt_iff_lt_mul declared.period_pos).mpr (by omega)
    exact (Nat.div_lt_iff_lt_mul declared.period_pos).mp (inside.trans_lt above)
  -- The last multiple that the scaled execution time reaches is one inside the range.
  · intro counted
    rw [Nat.le_div_iff_mul_le declared.period_pos]
    by_contra beyond
    have reached : task.wholeShare * task.periodTicks ≤ task.wcetTicks * 1000000 :=
      Nat.div_mul_le_self _ _
    exact absurd (counted task.wholeShare (by omega)) (not_lt.mpr reached)

/-- A product within the range is counted in full. -/
theorem FullyCounted.of_fits {task : TaskTiming} (fits : task.wcetTicks * 1000000 < 2 ^ 64) :
    task.FullyCounted :=
  fun _ beyond => fits.trans_le beyond

/-- What is counted and what is hidden make up the whole share. -/
theorem countedShare_add_hiddenShare (task : TaskTiming) :
    task.countedShare + task.hiddenShare = task.wholeShare := by
  rw [countedShare, hiddenShare, wholeShare, share]
  -- Either the product is in range and nothing is hidden, or the largest value is what is counted.
  rcases Nat.le_total (task.wcetTicks * 1000000) 18446744073709551615 with fits | clipped
  · have below := Nat.div_le_div_right (c := task.periodTicks) fits
    rw [min_eq_left fits, Nat.sub_eq_zero_of_le below, Nat.add_zero]
  · have above := Nat.div_le_div_right (c := task.periodTicks) clipped
    rw [min_eq_right clipped, Nat.add_sub_cancel' above]

/-- Less than one part per million is dropped. -/
theorem droppedShare_lt_one {task : TaskTiming} (declared : task.Declared) : task.droppedShare < 1 := by
  have positive : (0 : ℚ) < task.periodTicks := Nat.cast_pos.mpr declared.period_pos
  -- The remainder is less than the period it is divided by.
  rw [droppedShare, div_lt_one positive]
  exact Nat.cast_lt.mpr (Nat.mod_lt _ declared.period_pos)

/-- Nothing negative is dropped. -/
theorem droppedShare_nonneg (task : TaskTiming) : 0 ≤ task.droppedShare :=
  div_nonneg (Nat.cast_nonneg _) (Nat.cast_nonneg _)

/-- The analyser's share of a declared task is the counted one. -/
theorem toNat_sharePpm {task : TaskTiming} (declared : task.Declared) :
    task.sharePpm.toNat = task.countedShare := by
  obtain ⟨costed, timed, nonzero⟩ := declared
  obtain ⟨wcet, cost⟩ := Option.isSome_iff_exists.mp costed
  obtain ⟨period, interval⟩ := Option.isSome_iff_exists.mp timed
  have million : (1000000 : UInt64).toNat = 1000000 := rfl
  have positive : period ≠ 0 := fun zero => nonzero (zero ▸ interval)
  -- With a period that is not zero, the share is one clipped product over it.
  have computed : task.sharePpm = wcet.saturatingMul 1000000 / period := by
    simp [sharePpm, cost, interval]
  rw [computed, UInt64.toNat_div, UInt64.toNat_saturatingMul, countedShare, wcetTicks, periodTicks, cost,
    interval, Option.getD_some, Option.getD_some, million]

/-- The exact share is what is counted, what is hidden, and what is dropped. -/
theorem exactShare_eq {task : TaskTiming} (declared : task.Declared) :
    task.exactShare = task.countedShare + (task.hiddenShare + task.droppedShare) := by
  have positive : (task.periodTicks : ℚ) ≠ 0 := Nat.cast_ne_zero.mpr declared.period_pos.ne'
  have whole : (task.countedShare : ℚ) + task.hiddenShare = task.wholeShare := by
    rw [← Nat.cast_add, countedShare_add_hiddenShare]
  -- The scaled execution time is whole periods and a rest that rounding drops.
  have split_ : (task.wcetTicks * 1000000 : ℚ) = task.periodTicks * task.wholeShare
      + (task.wcetTicks * 1000000 % task.periodTicks : ℕ) := by
    exact_mod_cast (Nat.div_add_mod (task.wcetTicks * 1000000) task.periodTicks).symm
  rw [← add_assoc, whole, exactShare, droppedShare, split_]
  field_simp

end TaskTiming

/-- The exact utilisation of a task set, in parts per million. -/
def exactUtilisation (tasks : List TaskTiming) : ℚ := (tasks.map TaskTiming.exactShare).sum

/-- The whole parts per million counted for a task set. -/
def countedUtilisation (tasks : List TaskTiming) : ℕ := (tasks.map TaskTiming.countedShare).sum

/-- The multiples of the periods that clipping the products hides of a task set. -/
def hiddenUtilisation (tasks : List TaskTiming) : ℕ := (tasks.map TaskTiming.hiddenShare).sum

/-- The parts below one part per million that rounding drops of a task set. -/
def droppedUtilisation (tasks : List TaskTiming) : ℚ := (tasks.map TaskTiming.droppedShare).sum

/-- The figure is saturated, or below the exact utilisation by less than one part for each task. -/
def UtilisationAccurate (tasks : List TaskTiming) : Prop :=
  (analyse tasks).utilisationPpm = UInt64.MAX
    ∨ exactUtilisation tasks - tasks.length < (analyse tasks).utilisationPpm.toNat
      ∧ ((analyse tasks).utilisationPpm.toNat : ℚ) ≤ exactUtilisation tasks

/-- Nothing negative is dropped. -/
theorem droppedUtilisation_nonneg (tasks : List TaskTiming) : 0 ≤ droppedUtilisation tasks := by
  -- A sum of parts that are not negative is not negative.
  apply List.sum_nonneg
  intro part listed
  obtain ⟨task, -, rfl⟩ := List.mem_map.mp listed
  exact task.droppedShare_nonneg

/-- Periods that exceed the number of tasks keep the figure from saturating by clipped products. -/
theorem countedUtilisation_lt {tasks : List TaskTiming}
    (long : ∀ task ∈ tasks, tasks.length < task.periodTicks) :
    countedUtilisation tasks < 18446744073709551615 := by
  -- A clipped product is divided into more parts than there are tasks.
  have each : ∀ task ∈ tasks, task.countedShare ≤ 18446744073709551615 / (tasks.length + 1) :=
    fun task listed => Nat.div_le_div (min_le_right _ _) (long task listed) (Nat.succ_ne_zero _)
  have total : countedUtilisation tasks
      ≤ tasks.length * (18446744073709551615 / (tasks.length + 1)) := by
    simpa [countedUtilisation] using List.sum_le_card_nsmul _ _ (List.forall_mem_map.mpr each)
  have parts := Nat.mul_div_le 18446744073709551615 (tasks.length + 1)
  rw [Nat.add_mul, Nat.one_mul] at parts
  rcases Nat.eq_zero_or_pos (18446744073709551615 / (tasks.length + 1)) with none_ | some_
  · rw [none_, Nat.mul_zero] at total
    omega
  · omega

section Declared

variable {tasks : List TaskTiming} (declared : ∀ task ∈ tasks, task.Declared)

include declared

/-- Nothing is hidden of tasks that are counted in full. -/
theorem hiddenUtilisation_of_fullyCounted (counted : ∀ task ∈ tasks, task.FullyCounted) :
    hiddenUtilisation tasks = 0 := by
  -- The sum is zero exactly when each of its parts is.
  rw [hiddenUtilisation, List.sum_eq_zero_iff]
  intro part listed
  obtain ⟨task, present, rfl⟩ := List.mem_map.mp listed
  exact (TaskTiming.hiddenShare_eq_zero_iff (declared task present)).mpr (counted task present)

/-- Something is hidden of every task that is not counted in full. -/
theorem length_le_hiddenUtilisation (hidden : ∀ task ∈ tasks, ¬task.FullyCounted) :
    tasks.length ≤ hiddenUtilisation tasks := by
  -- Each task adds at least one to the sum.
  have each : ∀ task ∈ tasks, 1 ≤ task.hiddenShare := by
    intro task listed
    rw [Nat.one_le_iff_ne_zero]
    exact fun none_ => hidden task listed
      ((TaskTiming.hiddenShare_eq_zero_iff (declared task listed)).mp none_)
  simpa [hiddenUtilisation] using List.sum_le_sum (f := fun _ => 1) each

/-- Rounding drops less than one part per million of each task. -/
theorem droppedUtilisation_lt (nonempty : tasks ≠ []) : droppedUtilisation tasks < tasks.length := by
  -- Every task drops less than one, and there is a task.
  have each := List.sum_lt_sum_of_ne_nil nonempty TaskTiming.droppedShare (fun _ => 1)
    fun task listed => TaskTiming.droppedShare_lt_one (declared task listed)
  simpa [droppedUtilisation] using each

/-- The figure of declared tasks is the counted utilisation, clipped. -/
theorem toNat_utilisationPpm_of_declared :
    (analyse tasks).utilisationPpm.toNat = min (countedUtilisation tasks) 18446744073709551615 := by
  -- Every share of the figure is a counted one.
  have shares : (tasks.map fun task => task.sharePpm.toNat) = tasks.map TaskTiming.countedShare :=
    List.map_congr_left fun task listed => TaskTiming.toNat_sharePpm (declared task listed)
  rw [toNat_utilisationPpm, shares, countedUtilisation]

/-- The exact utilisation is what is counted, what is hidden, and what is dropped. -/
theorem exactUtilisation_eq :
    exactUtilisation tasks
      = countedUtilisation tasks + (hiddenUtilisation tasks + droppedUtilisation tasks) := by
  -- The three parts of each share are summed up separately.
  have shares : tasks.map TaskTiming.exactShare
      = tasks.map fun task => (task.countedShare : ℚ) + (task.hiddenShare + task.droppedShare) :=
    List.map_congr_left fun task listed => TaskTiming.exactShare_eq (declared task listed)
  rw [exactUtilisation, shares, List.sum_map_add, List.sum_map_add, countedUtilisation,
    hiddenUtilisation, droppedUtilisation, Nat.cast_list_sum, Nat.cast_list_sum, List.map_map,
    List.map_map]
  rfl

/-- The figure is accurate exactly when it saturates or loses less than one part for each task. -/
theorem utilisationAccurate_iff_lost :
    UtilisationAccurate tasks
      ↔ 18446744073709551615 ≤ countedUtilisation tasks
        ∨ hiddenUtilisation tasks + droppedUtilisation tasks < tasks.length := by
  -- The figure is the counted sum, cut at the largest value.
  have figure := toNat_utilisationPpm_of_declared declared
  rw [UtilisationAccurate, ← UInt64.toNat_inj, UInt64.toNat_MAX, exactUtilisation_eq declared]
  rcases Nat.lt_or_ge (countedUtilisation tasks) 18446744073709551615 with below | full
  -- Below the largest value the figure is what is counted.
  · rw [min_eq_left below.le] at figure
    have hidden : (0 : ℚ) ≤ hiddenUtilisation tasks := Nat.cast_nonneg _
    have dropped := droppedUtilisation_nonneg tasks
    have unsaturated : ¬countedUtilisation tasks = 18446744073709551615 := below.ne
    rw [figure, or_iff_right unsaturated, or_iff_right (not_le.mpr below)]
    constructor
    · intro accurate
      have above := accurate.1
      linarith
    · intro little
      exact ⟨by linarith, by linarith⟩
  · rw [min_eq_right full] at figure
    exact iff_of_true (.inl figure) (.inl full)

/--
The figure is accurate where every product is counted in full, or one saturates it visibly.

Clipping a product hides the multiples of the period above the range, unless each of them is a part
per million.
Where something is hidden of every task and no period is that short, the figure is not accurate.
-/
theorem utilisationAccurate_of_fullyCounted (nonempty : tasks ≠ []) :
    ((∀ task ∈ tasks, task.FullyCounted)
        ∨ (∃ task ∈ tasks, task.periodTicks = 1 ∧ 2 ^ 64 ≤ task.wcetTicks * 1000000) →
      UtilisationAccurate tasks) ∧
    (UtilisationAccurate tasks →
      (∃ task ∈ tasks, task.FullyCounted) ∨ ∃ task ∈ tasks, task.periodTicks ≤ tasks.length) := by
  -- Accuracy is a matter of what the figure loses.
  rw [utilisationAccurate_iff_lost declared]
  constructor
  · intro condition
    rcases condition with counted | ⟨task, listed, short, clipped⟩
    -- Rounding alone never drops one part for each task.
    · right
      rw [hiddenUtilisation_of_fullyCounted declared counted, Nat.cast_zero, zero_add]
      exact droppedUtilisation_lt declared nonempty
    -- A clipped product over a period of one tick fills the figure alone.
    · left
      have full : task.countedShare = 18446744073709551615 := by
        rw [TaskTiming.countedShare, short, Nat.div_one]
        omega
      exact full.symm.trans_le (List.le_sum_of_mem (List.mem_map_of_mem listed))
  · intro accurate
    by_contra neither
    push Not at neither
    obtain ⟨hidden, long⟩ := neither
    have unsaturated := countedUtilisation_lt long
    have lost := length_le_hiddenUtilisation declared hidden
    have dropped := droppedUtilisation_nonneg tasks
    -- At least one part for each task is hidden already.
    have little := accurate.resolve_left (not_le.mpr unsaturated)
    have many : (tasks.length : ℚ) ≤ hiddenUtilisation tasks := Nat.cast_le.mpr lost
    linarith

end Declared

/-- The fast and the slow task are counted in full, so their figure is accurate. -/
theorem fastOverSlow_accurate : UtilisationAccurate fastOverSlow := by
  have declared : ∀ task ∈ fastOverSlow, task.Declared := by decide
  -- Both products are far within the range.
  have fits : ∀ task ∈ fastOverSlow, task.wcetTicks * 1000000 < 2 ^ 64 := by decide
  exact (utilisationAccurate_of_fullyCounted declared (by decide)).1
    (.inl fun task listed => .of_fits (fits task listed))

/-- A task that fills the processor, with an execution time of half the range. -/
def vastTask : TaskTiming := ⟨"vast", 5, some 9223372036854775808, none, some 9223372036854775808, 0⟩

/-- That task is reported with one part per million of the million it takes. -/
theorem vastTask_understated : ¬UtilisationAccurate [vastTask]
    ∧ (analyse [vastTask]).utilisationPpm = 1 ∧ exactUtilisation [vastTask] = 1000000 := by
  -- The product clips, and what is left of it fits the period once.
  have figure : (analyse [vastTask]).utilisationPpm = 1 := by decide
  have one : (1 : UInt64).toNat = 1 := rfl
  have whole : exactUtilisation [vastTask] = 1000000 := by
    have wcet : vastTask.wcetTicks = 9223372036854775808 := rfl
    have period : vastTask.periodTicks = 9223372036854775808 := rfl
    rw [exactUtilisation, List.map_singleton, List.sum_singleton, TaskTiming.exactShare, wcet, period]
    norm_num
  refine ⟨fun accurate => ?_, figure, whole⟩
  -- The figure is neither the largest value nor within one of the exact million.
  rcases accurate with full | close
  · rw [figure] at full
    exact absurd full (by decide)
  · have above := close.1
    rw [whole, figure, one] at above
    norm_num at above

end Malleus
