import Malleus.Analyzer.Accuracy
import Malleus.Analyzer.Convergence
import Malleus.Analyzer.DeadlineMonotonic
import Malleus.Realtime.Harmonic

/-! Task sets whose periods divide each other: the analysis loses nothing up to a full processor. -/

namespace Malleus

open Realtime

/-- Every period is a multiple of the periods of the more urgent tasks. -/
def HarmonicPeriods (tasks : List TaskTiming) : Prop :=
  ∀ task ∈ tasks, ∀ other ∈ moreUrgent task tasks, other.periodTicks ∣ task.periodTicks

/-- Fewer activations above every task in its period than the search has rounds. -/
def FewActivations (tasks : List TaskTiming) : Prop :=
  ∀ task ∈ tasks, ((moreUrgent task tasks).map fun other =>
    task.periodTicks ⌈/⌉ other.periodTicks).sum < maxIterations

/-- The time a task and everything more urgent ask for, in parts per million. -/
def levelUtilisation (task : TaskTiming) (tasks : List TaskTiming) : ℚ :=
  task.exactShare + exactUtilisation (moreUrgent task tasks)

instance (tasks : List TaskTiming) : Decidable (HarmonicPeriods tasks) :=
  inferInstanceAs (Decidable (∀ task ∈ tasks, ∀ other ∈ moreUrgent task tasks, _))

instance (tasks : List TaskTiming) : Decidable (FewActivations tasks) :=
  inferInstanceAs (Decidable (∀ task ∈ tasks, _ < maxIterations))

variable {tasks : List TaskTiming} {task : TaskTiming}

/-- No share is negative. -/
theorem TaskTiming.exactShare_nonneg (task : TaskTiming) : 0 ≤ task.exactShare :=
  div_nonneg (by positivity) (Nat.cast_nonneg _)

/-- A share in parts per million is the share of the whole, scaled. -/
theorem TaskTiming.exactShare_eq_mul (task : TaskTiming) :
    task.exactShare = 1000000 * Realtime.exactShare task.wcetTicks task.periodTicks := by
  rw [TaskTiming.exactShare, Realtime.exactShare, mul_comm (task.wcetTicks : ℚ), mul_div_assoc]

/-- Nothing is counted twice in the exact utilisation. -/
theorem exactUtilisation_eq_sum (once : tasks.Nodup) :
    exactUtilisation tasks = ∑ task ∈ tasks.toFinset, task.exactShare :=
  (List.sum_toFinset _ once).symm

/-- The tasks of a level are the task and everything more urgent. -/
theorem levelUtilisation_eq_sum (once : tasks.Nodup) (task : TaskTiming) :
    levelUtilisation task tasks
      = ∑ other ∈ insert task (moreUrgent task tasks).toFinset, other.exactShare := by
  -- No task is more urgent than itself, so its share is counted once.
  have apart : task ∉ (moreUrgent task tasks).toFinset := by
    rw [mem_toFinset_moreUrgent]
    omega
  have above : (moreUrgent task tasks).Nodup := once.filter _
  rw [levelUtilisation, exactUtilisation_eq_sum above, Finset.sum_insert apart]

/-- A level is part of the task set. -/
theorem level_subset (listed : task ∈ tasks) :
    insert task (moreUrgent task tasks).toFinset ⊆ tasks.toFinset := by
  intro other member
  rcases Finset.mem_insert.mp member with rfl | urgent
  · exact List.mem_toFinset.mpr listed
  · exact List.mem_toFinset.mpr (mem_toFinset_moreUrgent.mp urgent).1

/-- The load of a level is at most the whole processor exactly if its shares are. -/
theorem levelUtilisation_le_iff (once : tasks.Nodup) (task : TaskTiming) :
    levelUtilisation task tasks ≤ 1000000 ↔
      exactShare task.wcetTicks task.periodTicks + ∑ other ∈ (moreUrgent task tasks).toFinset,
        exactShare other.wcetTicks other.periodTicks ≤ 1 := by
  have above : (moreUrgent task tasks).Nodup := once.filter _
  -- Parts per million are the rational shares times a million.
  have total : exactUtilisation (moreUrgent task tasks)
      = 1000000 * ∑ other ∈ (moreUrgent task tasks).toFinset,
        exactShare other.wcetTicks other.periodTicks := by
    rw [exactUtilisation_eq_sum above, Finset.mul_sum]
    exact Finset.sum_congr rfl fun other _ => other.exactShare_eq_mul
  rw [levelUtilisation, total, TaskTiming.exactShare_eq_mul, ← mul_add]
  constructor
  · intro full
    linarith
  · intro full
    linarith

/-- A working task that passes is on a level with no more load than the processor has. -/
theorem levelUtilisation_le_of_pass (constrained : Constrained tasks) (listed : task ∈ tasks)
    (declared : ∀ other ∈ tasks, other.Declared) (works : task.wcetTicks ≠ 0)
    {response slack : UInt64} (passed : verdictFor task tasks = .pass response slack) :
    levelUtilisation task tasks ≤ 1000000 := by
  have once := constrained.distinct.of_map
  obtain ⟨-, within, fixed⟩ :=
    solves_of_pass constrained.distinct constrained.periods constrained.deadlines listed passed
  -- Its own work makes the response a window of some length, within the period.
  have part : task.wcetTicks ≤ task.ownDemand := Nat.le_add_right _ _
  have started := (ownDemand_le_responseDemand tasks task response.toNat).trans_eq fixed
  rw [levelUtilisation_le_iff once]
  apply exactShares_le_one (by omega) within part
  · intro other urgent
    exact (declared other (mem_toFinset_moreUrgent.mp urgent).1).period_pos
  · have above : (moreUrgent task tasks).Nodup := once.filter _
    have demand : taskDemand task.ownDemand (moreUrgent task tasks).toFinset TaskTiming.periodTicks
        TaskTiming.wcetTicks response.toNat = response.toNat := by
      rw [taskDemand, List.sum_toFinset _ above]
      exact fixed
    exact demand.le

/-- A task whose period is a multiple of those above it fits its period on a level without overload. -/
theorem meets_of_levelUtilisation (once : tasks.Nodup) (harmonic : HarmonicPeriods tasks)
    (declared : ∀ other ∈ tasks, other.Declared) (listed : task ∈ tasks)
    (implicit : task.effectiveDeadline = task.period)
    (underloaded : levelUtilisation task tasks ≤ 1000000) :
    Meets tasks.toFinset TaskTiming.periodTicks TaskTiming.wcetTicks TaskTiming.deadlineTicks
      (fun other => other.priority.toNat) task := by
  have above : tasks.toFinset.filter (fun other => task.priority.toNat < other.priority.toNat)
      = (moreUrgent task tasks).toFinset := by
    ext other
    rw [Finset.mem_filter, List.mem_toFinset, mem_toFinset_moreUrgent]
    rfl
  -- The period itself is the window: the shares fill it exactly.
  refine ⟨task.periodTicks, ?_, ?_⟩
  · rw [TaskTiming.deadlineTicks, implicit, TaskTiming.periodTicks]
  · rw [above]
    apply prefixed_of_dvd (declared task listed).period_pos
    · intro other urgent
      exact (declared other (mem_toFinset_moreUrgent.mp urgent).1).period_pos
    · exact fun other urgent => harmonic task listed other (List.mem_toFinset.mp urgent)
    · exact (levelUtilisation_le_iff once task).mp underloaded

/-- Every level is part of the whole load. -/
theorem levelUtilisation_le (once : tasks.Nodup) (listed : task ∈ tasks) :
    levelUtilisation task tasks ≤ exactUtilisation tasks := by
  rw [levelUtilisation_eq_sum once, exactUtilisation_eq_sum once]
  exact Finset.sum_le_sum_of_subset_of_nonneg (level_subset listed)
    fun other _ _ => other.exactShare_nonneg

/-- With distinct priorities the level of the least urgent task that works carries the whole load. -/
theorem exactUtilisation_le_of_levels (once : tasks.Nodup)
    (levels : (tasks.map TaskTiming.priority).Nodup)
    (underloaded : ∀ task ∈ tasks, task.wcetTicks ≠ 0 → levelUtilisation task tasks ≤ 1000000) :
    exactUtilisation tasks ≤ 1000000 := by
  have idleShare : ∀ other : TaskTiming, other.wcetTicks = 0 → other.exactShare = 0 := by
    intro other idle
    rw [TaskTiming.exactShare, idle, Nat.cast_zero, zero_mul, zero_div]
  by_cases idle : ∀ other ∈ tasks, other.wcetTicks = 0
  · rw [exactUtilisation_eq_sum once, Finset.sum_eq_zero fun other member =>
      idleShare other (idle other (List.mem_toFinset.mp member))]
    norm_num
  · have working : (tasks.toFinset.filter fun other => other.wcetTicks ≠ 0).Nonempty := by
      simpa [Finset.filter_nonempty_iff] using idle
    obtain ⟨low, member, lowest⟩ := Finset.exists_min_image _ TaskTiming.urgency working
    obtain ⟨listed, works⟩ := Finset.mem_filter.mp member
    have listed := List.mem_toFinset.mp listed
    -- What is not on the level of the least urgent working task has no share.
    refine le_of_eq_of_le ?_ (underloaded low listed works)
    rw [levelUtilisation_eq_sum once, exactUtilisation_eq_sum once]
    symm
    apply Finset.sum_subset (level_subset listed)
    intro other present outside
    rw [Finset.mem_insert, mem_toFinset_moreUrgent, not_or] at outside
    apply idleShare
    -- A working task outside would be at the level of the lowest one, and so be that task.
    by_contra busy
    have above := lowest other (Finset.mem_filter.mpr ⟨present, busy⟩)
    have present := List.mem_toFinset.mp present
    have level : other.urgency = low.urgency := by
      have below : ¬low.urgency < other.urgency := fun urgent => outside.2 ⟨present, urgent⟩
      omega
    exact outside.1 (List.inj_on_of_nodup_map levels present listed (UInt8.toNat_inj.mp level))

/-- Few activations leave no task undecided whose deadline is its period. -/
theorem decided_of_fewActivations (distinct : (tasks.map TaskTiming.name).Nodup)
    (few : FewActivations tasks) (declared : ∀ other ∈ tasks, other.Declared) (listed : task ∈ tasks)
    (implicit : task.effectiveDeadline = task.period) : (verdictFor task tasks).isDecided = true := by
  obtain ⟨costed, timed, -⟩ := declared task listed
  obtain ⟨wcet, cost⟩ := Option.isSome_iff_exists.mp costed
  obtain ⟨period, interval⟩ := Option.isSome_iff_exists.mp timed
  have above : ∀ other ∈ moreUrgent task tasks, other.Declared :=
    fun other member => declared other (mem_moreUrgent.mp member).1
  -- The deadline is the period, in which the activations are counted.
  have counted := few task listed
  rw [TaskTiming.periodTicks, interval, Option.getD_some] at counted
  exact decided_of_activations distinct listed cost timed (implicit.trans interval) above counted

/--
With harmonic periods as deadlines, a set without blocking is schedulable exactly up to a full
processor.

A task set never has to leave time idle for its order of priorities.
-/
theorem harmonic_schedulable_iff (constrained : Constrained tasks)
    (levels : (tasks.map TaskTiming.priority).Nodup) (harmonic : HarmonicPeriods tasks)
    (few : FewActivations tasks)
    (implicit : ∀ task ∈ tasks, task.Declared ∧ task.effectiveDeadline = task.period
      ∧ task.blocking = 0) :
    (analyse tasks).isSchedulable = true ↔ exactUtilisation tasks ≤ 1000000 := by
  have once := constrained.distinct.of_map
  have declared : ∀ task ∈ tasks, task.Declared := fun task listed => (implicit task listed).1
  have own : reassigned TaskTiming.priority tasks = tasks := List.map_id tasks
  constructor
  -- A passing task's level has no more load than the processor, and one level carries all of it.
  · intro schedulable
    apply exactUtilisation_le_of_levels once levels
    intro task listed works
    obtain ⟨response, slack, passed⟩ := pass_of_isSchedulable schedulable listed
    exact levelUtilisation_le_of_pass constrained listed declared works passed
  -- The other way every level is part of the whole load, so every task fits its period.
  · intro underloaded
    rw [Analysis.isSchedulable, List.all_eq_true]
    rintro ⟨name, verdict⟩ member
    obtain ⟨task, listed, entry⟩ := List.mem_map.mp member
    obtain ⟨-, rfl⟩ := Prod.mk.inj entry
    have meets := meets_of_levelUtilisation once harmonic declared listed (implicit task listed).2.1
      ((levelUtilisation_le once listed).trans underloaded)
    have outcome := pass_of_meets constrained listed declared (implicit task listed).2.2 meets
    rw [own, show task.prioritised task.priority = task from rfl] at outcome
    rcases outcome with ⟨response, slack, passed⟩ | open_
    · rw [passed]
      rfl
    -- The search cannot give up, for lack of activations.
    · have decided := decided_of_fewActivations constrained.distinct few declared listed
        (implicit task listed).2.1
      rw [open_] at decided
      cases decided

/-- Three loops whose periods double, with no time left over. -/
def doublingLoops : List TaskTiming :=
  [⟨"sample", 9, some 100, none, some 25, 0⟩, ⟨"control", 7, some 200, none, some 100, 0⟩,
    ⟨"log", 5, some 400, some 400, some 100, 0⟩]

/-- The three loops ask for the whole processor, so the analysis finds them schedulable. -/
theorem doublingLoops_schedulable : (analyse doublingLoops).isSchedulable = true := by
  have constrained : Constrained doublingLoops :=
    constrained_of_defaults (by decide) (by decide) (by decide)
  have implicit : ∀ task ∈ doublingLoops,
      task.Declared ∧ task.effectiveDeadline = task.period ∧ task.blocking = 0 := by
    intro task listed
    simp only [doublingLoops, List.mem_cons, List.not_mem_nil, or_false] at listed
    rcases listed with rfl | rfl | rfl <;> exact ⟨⟨rfl, rfl, by decide⟩, rfl, rfl⟩
  -- A half and two quarters are the whole processor.
  have load : exactUtilisation doublingLoops ≤ 1000000 := by decide +kernel
  exact (harmonic_schedulable_iff constrained (by decide) (by decide) (by decide) implicit).mpr load

end Malleus
