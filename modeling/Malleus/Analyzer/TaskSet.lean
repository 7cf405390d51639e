import Malleus.Analyzer.Interference
import Malleus.Realtime.Response
import Mathlib.Algebra.BigOperators.Group.Finset.Basic

/-! The task set as released work: which runs the analyser's numbers are about. -/

namespace Malleus

open Realtime

/-- Urgency as a number; the kernel serves the highest pending one. -/
def TaskTiming.urgency (task : TaskTiming) : ℕ :=
  task.priority.toNat

/-- The declared period in ticks. -/
def TaskTiming.periodTicks (task : TaskTiming) : ℕ :=
  (task.period.getD 0).toNat

/-- The declared execution time in ticks. -/
def TaskTiming.wcetTicks (task : TaskTiming) : ℕ :=
  (task.wcet.getD 0).toNat

/-- Jobs of the listed tasks, spaced and bounded by whatever their tasks declare. -/
structure LegalReleases {ι : Type*} (tasks : List TaskTiming) (work : Workload ι TaskTiming) :
    Prop where
  listed : ∀ job, work.task job ∈ tasks
  spaced : ∀ {job other period}, work.task job = work.task other → job ≠ other →
    (work.task job).period = some period →
    work.release job + period.toNat ≤ work.release other ∨
      work.release other + period.toNat ≤ work.release job
  bounded : ∀ {job wcet}, (work.task job).wcet = some wcet → work.cost job ≤ wcet.toNat

/-- A task and all more urgent ones start together and repeat exactly with their full cost. -/
structure SynchronousReleases {ι : Type*} (tasks : List TaskTiming) (task : TaskTiming) (start : ℕ)
    (work : Workload ι TaskTiming) : Prop where
  listed : ∀ job, work.task job ∈ tasks
  own : Periodic work task start task.periodTicks task.wcetTicks
  periodic : ∀ other ∈ moreUrgent task tasks,
    Periodic work other start other.periodTicks other.wcetTicks

/-- A declared task's period takes time. -/
theorem TaskTiming.Declared.period_pos {task : TaskTiming} (declared : task.Declared) :
    0 < task.periodTicks := by
  obtain ⟨_, timed, nonzero⟩ := declared
  obtain ⟨period, known⟩ := Option.isSome_iff_exists.mp timed
  rw [TaskTiming.periodTicks, known, Option.getD_some, UInt64.toNat_pos_iff]
  -- A period of zero ticks would be the declared zero.
  intro zero
  exact nonzero (zero ▸ known)

/-- A declared task that works needs time. -/
theorem wcetTicks_pos {task : TaskTiming} (declared : task.Declared) (works : task.wcet ≠ some 0) :
    0 < task.wcetTicks := by
  -- The declared cost is the number of ticks, and it is not zero.
  obtain ⟨wcet, cost⟩ := Option.isSome_iff_exists.mp declared.1
  rw [TaskTiming.wcetTicks, cost, Option.getD_some, UInt64.toNat_pos_iff]
  intro zero
  exact works (zero ▸ cost)

/-- Legal releases of a declared task are spaced by its period and bounded by its cost. -/
theorem LegalReleases.sporadic {ι : Type*} {tasks : List TaskTiming}
    {work : Workload ι TaskTiming} (legal : LegalReleases tasks work) {task : TaskTiming}
    (declared : task.Declared) : Sporadic work task task.periodTicks task.wcetTicks := by
  obtain ⟨costed, timed, _⟩ := declared
  obtain ⟨period, known⟩ := Option.isSome_iff_exists.mp timed
  obtain ⟨wcet, cost⟩ := Option.isSome_iff_exists.mp costed
  -- The declared values are the ones read with a default.
  refine ⟨?_, ?_⟩
  · intro job other ofTask otherOfTask different
    rw [TaskTiming.periodTicks, known, Option.getD_some]
    exact legal.spaced (by rw [ofTask, otherOfTask]) different (by rw [ofTask, known])
  · intro job ofTask
    rw [TaskTiming.wcetTicks, cost, Option.getD_some]
    exact legal.bounded (by rw [ofTask, cost])

/-- Without blocking, the verdict of a declared task is the outcome of the search on its own cost. -/
theorem verdictFor_established {tasks : List TaskTiming} {task : TaskTiming}
    (distinct : (tasks.map TaskTiming.name).Nodup) (listed : task ∈ tasks)
    (declared : task.Declared) (above : ∀ other ∈ moreUrgent task tasks, other.Declared)
    (unblocked : task.blocking = 0) {deadline : UInt64}
    (contract : task.effectiveDeadline = some deadline) :
    ∃ wcet, task.wcet = some wcet ∧
      PositivePeriods ((moreUrgent task tasks).map TaskTiming.times) ∧
      Established wcet deadline ((moreUrgent task tasks).map TaskTiming.times)
        (verdictFor task tasks) := by
  obtain ⟨wcet, cost⟩ := Option.isSome_iff_exists.mp declared.1
  have same := preempters_eq_moreUrgent distinct listed
  -- A blocking term of zero leaves the task's own cost as the start of the search.
  have base : wcet.saturatingAdd task.blocking = wcet := by
    rw [← UInt64.toNat_inj, UInt64.toNat_saturatingAdd, unblocked]
    have := wcet.toNat_le_max
    have zero : (0 : UInt64).toNat = 0 := rfl
    omega
  have positive := positivePeriods_of_declared above
  refine ⟨wcet, cost, positive, ?_⟩
  rw [verdictFor_eq_recurrence cost declared.2.1 contract (same ▸ above), base, same]
  exact recurrence_start wcet deadline positive maxIterations

/-- The analyser's sum over interferers is the sum over the more urgent tasks. -/
theorem exactDemand_eq_taskDemand {tasks : List TaskTiming} (distinct : tasks.Nodup)
    (task : TaskTiming) (base : UInt64) (window : ℕ) :
    exactDemand base ((moreUrgent task tasks).map TaskTiming.times) window =
      taskDemand base.toNat (moreUrgent task tasks).toFinset TaskTiming.periodTicks
        TaskTiming.wcetTicks window := by
  -- No task occurs twice, so the list and the set add the same terms.
  have once : (moreUrgent task tasks).Nodup := distinct.filter _
  rw [exactDemand, periodicDemand, taskDemand, List.sum_toFinset _ once]
  simp [exactTimes, List.map_map, Function.comp_def, TaskTiming.times, TaskTiming.periodTicks,
    TaskTiming.wcetTicks]

/-- Everything more urgent than a task is in its set of more urgent tasks. -/
theorem mem_toFinset_moreUrgent {tasks : List TaskTiming} {task other : TaskTiming} :
    other ∈ (moreUrgent task tasks).toFinset ↔
      other ∈ tasks ∧ task.urgency < other.urgency := by
  -- Urgency is the priority read as a number.
  rw [List.mem_toFinset, mem_moreUrgent, UInt8.lt_iff_toNat_lt, TaskTiming.urgency,
    TaskTiming.urgency]

end Malleus
