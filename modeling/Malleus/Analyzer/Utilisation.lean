import Malleus.Analyzer.LeastResponse
import Malleus.Realtime.Utilisation

/-! The utilisation figure as a clipped sum of shares, and what a schedulable set says about it. -/

namespace Malleus

open Realtime

/-- One task's share of the utilisation figure, in parts per million. -/
def TaskTiming.sharePpm (task : TaskTiming) : UInt64 :=
  match task.period, task.wcet with
  | some 0, some _ => UInt64.MAX
  | some period, some wcet => wcet.saturatingMul 1000000 / period
  | _, _ => 0

/-- The figure grows by the clipped share, also when a zero period saturates it. -/
theorem addUtilisation_eq (utilisationPpm : UInt64) (task : TaskTiming) :
    addUtilisation utilisationPpm task = utilisationPpm.saturatingAdd task.sharePpm := by
  -- The branch for a zero period is a share of the largest value, the one without a wcet of zero.
  have full : utilisationPpm.saturatingAdd UInt64.MAX = UInt64.MAX := by
    rw [← UInt64.toNat_inj, UInt64.toNat_saturatingAdd, UInt64.toNat_MAX]
    omega
  have none_ : utilisationPpm.saturatingAdd 0 = utilisationPpm := by
    rw [← UInt64.toNat_inj, UInt64.toNat_saturatingAdd]
    have := utilisationPpm.toNat_le_max
    simpa using this
  unfold addUtilisation TaskTiming.sharePpm
  split <;> simp_all

/-- Summing up the clipped shares does not depend on the order. -/
instance : RightCommutative addUtilisation where
  right_comm utilisationPpm first second := by
    rw [← UInt64.toNat_inj]
    simp only [addUtilisation_eq, UInt64.toNat_saturatingAdd]
    omega

/-- The figure is the exact sum of the shares, cut once at the largest value. -/
theorem toNat_foldl_addUtilisation (tasks : List TaskTiming) (start : UInt64) :
    (tasks.foldl addUtilisation start).toNat =
      min (start.toNat + (tasks.map fun task => task.sharePpm.toNat).sum) 18446744073709551615 := by
  -- By induction on the tasks: a clipped start clips the sum no further.
  induction tasks generalizing start with
  | nil =>
    have := start.toNat_le_max
    simpa using this
  | cons task rest ih =>
    rw [List.foldl_cons, ih, addUtilisation_eq, UInt64.toNat_saturatingAdd, List.map_cons,
      List.sum_cons]
    omega

/-- The figure of an analysis is the clipped sum of the shares. -/
theorem toNat_utilisationPpm (tasks : List TaskTiming) :
    (analyse tasks).utilisationPpm.toNat =
      min (tasks.map fun task => task.sharePpm.toNat).sum 18446744073709551615 := by
  rw [analyse, toNat_foldl_addUtilisation]
  simp

/-- A task's share over unbounded numbers, in whole parts per million. -/
def TaskTiming.wholeShare (task : TaskTiming) : ℕ :=
  share 1000000 task.wcetTicks task.periodTicks

/-- A declared task's share is no more than the exact quotient rounded down. -/
theorem sharePpm_le {task : TaskTiming} (declared : task.Declared) :
    task.sharePpm.toNat ≤ task.wholeShare := by
  obtain ⟨costed, timed, nonzero⟩ := declared
  obtain ⟨wcet, cost⟩ := Option.isSome_iff_exists.mp costed
  obtain ⟨period, interval⟩ := Option.isSome_iff_exists.mp timed
  have positive : period ≠ 0 := fun zero => nonzero (zero ▸ interval)
  have computed : task.sharePpm = wcet.saturatingMul 1000000 / period := by
    simp [TaskTiming.sharePpm, cost, interval]
  -- Clipping the product can only lower the quotient.
  rw [computed, UInt64.toNat_div, UInt64.toNat_saturatingMul, TaskTiming.wholeShare, share,
    TaskTiming.wcetTicks, TaskTiming.periodTicks, cost, interval, Option.getD_some,
    Option.getD_some]
  exact Nat.div_le_div_right (Nat.min_le_left _ _)

/-- A task without work has no share. -/
theorem wholeShare_of_idle {task : TaskTiming} (idle : task.wcetTicks = 0) :
    task.wholeShare = 0 := by
  simp [TaskTiming.wholeShare, share, idle]

variable {tasks : List TaskTiming}

/-- A passing task solves the recurrence within its period, and everything above it is declared. -/
theorem solves_of_pass (distinct : (tasks.map TaskTiming.name).Nodup)
    (periods : ∀ task ∈ tasks, ∀ period, task.period = some period →
      period ≠ 0 ∧ period.toNat < 18446744073709551615)
    (constrained : ∀ task ∈ tasks, ∀ deadline period, task.effectiveDeadline = some deadline →
      task.period = some period → deadline ≤ period)
    {task : TaskTiming} (listed : task ∈ tasks) {response slack : UInt64}
    (passed : verdictFor task tasks = .pass response slack) :
    task.Declared ∧ response.toNat ≤ task.periodTicks ∧
      responseDemand tasks task response.toNat = response.toNat := by
  have decided : (verdictFor task tasks).isDecided = true := by rw [passed]; rfl
  obtain ⟨wcet, deadline, cost, timed, contract, -, -⟩ := verdictFor_decided decided
  obtain ⟨period, interval⟩ := Option.isSome_iff_exists.mp timed
  obtain ⟨nonzero, small⟩ := periods task listed period interval
  obtain ⟨_, established⟩ := verdictFor_establishes distinct listed contract decided
  rw [passed] at established
  have within := UInt64.le_iff_toNat_le.mp established.2.1
  have early := UInt64.le_iff_toNat_le.mp (constrained task listed deadline period contract interval)
  have ticks : task.periodTicks = period.toNat := by
    rw [TaskTiming.periodTicks, interval, Option.getD_some]
  refine ⟨⟨by simp [cost], timed, by simpa [interval] using nonzero⟩, by omega, ?_⟩
  -- The period is below the top of the range, and so is everything up to the deadline.
  exact responseDemand_eq_of_pass distinct listed contract passed (by omega)

/-- Below the least urgent task that works, nothing has a share. -/
theorem sum_share_eq (levels : (tasks.map TaskTiming.priority).Nodup) {low : TaskTiming}
    (listed : low ∈ tasks)
    (lowest : ∀ other ∈ tasks, other.wcetTicks ≠ 0 → low.urgency ≤ other.urgency) :
    ∑ task ∈ tasks.toFinset, task.wholeShare =
      low.wholeShare + ∑ task ∈ (moreUrgent low tasks).toFinset, task.wholeShare := by
  have apart : low ∉ (moreUrgent low tasks).toFinset := by
    rw [mem_toFinset_moreUrgent]
    omega
  rw [← Finset.sum_insert (f := TaskTiming.wholeShare) apart]
  symm
  apply Finset.sum_subset
  · intro task member
    rcases Finset.mem_insert.mp member with rfl | urgent
    · exact List.mem_toFinset.mpr listed
    · exact List.mem_toFinset.mpr (mem_toFinset_moreUrgent.mp urgent).1
  · intro task member outside
    rw [Finset.mem_insert, mem_toFinset_moreUrgent, not_or] at outside
    have present := List.mem_toFinset.mp member
    apply wholeShare_of_idle
    -- A working task outside is neither above the lowest one nor below it, so it would be that task.
    by_contra works
    have above := lowest task present works
    have level : task.urgency = low.urgency := by
      have below : ¬low.urgency < task.urgency := fun urgent => outside.2 ⟨present, urgent⟩
      omega
    exact outside.1 (List.inj_on_of_nodup_map levels present listed (UInt8.toNat_inj.mp level))

/--
A schedulable set of distinct priorities has a utilisation of at most the whole processor.

An overloaded set is never reported as schedulable, whatever the blocking.
-/
theorem utilisation_le_of_isSchedulable (distinct : (tasks.map TaskTiming.name).Nodup)
    (levels : (tasks.map TaskTiming.priority).Nodup)
    (periods : ∀ task ∈ tasks, ∀ period, task.period = some period →
      period ≠ 0 ∧ period.toNat < 18446744073709551615)
    (constrained : ∀ task ∈ tasks, ∀ deadline period, task.effectiveDeadline = some deadline →
      task.period = some period → deadline ≤ period)
    (schedulable : (analyse tasks).isSchedulable = true) :
    (analyse tasks).utilisationPpm ≤ 1000000 := by
  have solved : ∀ task ∈ tasks, task.Declared ∧ ∃ response,
      response ≤ task.periodTicks ∧ responseDemand tasks task response = response := by
    intro task listed
    obtain ⟨response, slack, passed⟩ := pass_of_isSchedulable schedulable listed
    obtain ⟨declared, within, fixed⟩ := solves_of_pass distinct periods constrained listed passed
    exact ⟨declared, response.toNat, within, fixed⟩
  have figure : (tasks.map fun task => task.sharePpm.toNat).sum
      ≤ ∑ task ∈ tasks.toFinset, task.wholeShare := by
    rw [List.sum_toFinset _ distinct.of_map]
    exact List.sum_le_sum fun task listed => sharePpm_le (solved task listed).1
  have whole : ∑ task ∈ tasks.toFinset, task.wholeShare
      ≤ 1000000 := by
    by_cases idle : ∀ task ∈ tasks, task.wcetTicks = 0
    · rw [Finset.sum_eq_zero fun task member => wholeShare_of_idle (idle task (List.mem_toFinset.mp member))]
      omega
    -- The least urgent task that works has everything else with a share above it.
    · have working : (tasks.toFinset.filter fun task => task.wcetTicks ≠ 0).Nonempty := by
        simpa [Finset.filter_nonempty_iff] using idle
      obtain ⟨low, member, lowest⟩ :=
        Finset.exists_min_image _ TaskTiming.urgency working
      obtain ⟨listed, works⟩ := Finset.mem_filter.mp member
      have listed := List.mem_toFinset.mp listed
      rw [sum_share_eq levels listed fun other present working =>
        lowest other (Finset.mem_filter.mpr ⟨List.mem_toFinset.mpr present, working⟩)]
      obtain ⟨_, response, within, fixed⟩ := solved low listed
      have part : low.wcetTicks ≤ low.ownDemand := Nat.le_add_right _ _
      have started := (ownDemand_le_responseDemand tasks low response).trans_eq fixed
      apply shares_le_scale 1000000 (by omega) within part
      · intro other urgent
        exact (solved other (mem_toFinset_moreUrgent.mp urgent).1).1.period_pos
      · have once : (moreUrgent low tasks).Nodup := distinct.of_map.filter _
        rw [taskDemand, List.sum_toFinset _ once]
        exact fixed.le
  rw [UInt64.le_iff_toNat_le, toNat_utilisationPpm]
  exact (min_le_left _ _).trans (figure.trans whole)

/-- The set of the fast and the slow task is schedulable, and leaves a fifth of the processor idle. -/
theorem fastOverSlow_underloaded : (analyse fastOverSlow).utilisationPpm ≤ 1000000 := by
  have schedulable : (analyse fastOverSlow).isSchedulable = true := by decide
  apply utilisation_le_of_isSchedulable (by decide) (by decide) _ _ schedulable
  · intro task listed period interval
    simp only [fastOverSlow, List.mem_cons, List.not_mem_nil, or_false] at listed
    rcases listed with rfl | rfl
    · cases interval
      decide
    · cases interval
      decide
  · intro task listed deadline period contract interval
    simp only [fastOverSlow, List.mem_cons, List.not_mem_nil, or_false] at listed
    rcases listed with rfl | rfl
    · cases contract
      cases interval
      decide
    · cases contract
      cases interval
      decide

end Malleus
