import Malleus.Analyzer.Blocking
import Malleus.Analyzer.Sustainability
import Malleus.Realtime.Assignment

/-! Assigning priorities by deadline: the analysis never fails it where another assignment passes. -/

namespace Malleus

open Realtime

/-- A task with another priority and the same contract. -/
def TaskTiming.prioritised (task : TaskTiming) (priority : UInt8) : TaskTiming :=
  { task with priority := priority }

/-- A task set under an assignment of priorities. -/
def reassigned (assign : TaskTiming → UInt8) (tasks : List TaskTiming) : List TaskTiming :=
  tasks.map fun task => task.prioritised (assign task)

/-- The deadline in ticks that the analyser checks. -/
def TaskTiming.deadlineTicks (task : TaskTiming) : ℕ := (task.effectiveDeadline.getD 0).toNat

/-- A shorter deadline never has the lower priority. -/
def DeadlineMonotonic (tasks : List TaskTiming) (assign : TaskTiming → UInt8) : Prop :=
  ∀ task ∈ tasks, ∀ other ∈ tasks, assign task < assign other →
    other.deadlineTicks ≤ task.deadlineTicks

instance (tasks : List TaskTiming) (assign : TaskTiming → UInt8) :
    Decidable (DeadlineMonotonic tasks assign) :=
  inferInstanceAs (Decidable (∀ task ∈ tasks, ∀ other ∈ tasks, _))

@[simp] theorem TaskTiming.periodTicks_prioritised (task : TaskTiming) (priority : UInt8) :
    (task.prioritised priority).periodTicks = task.periodTicks := rfl

@[simp] theorem TaskTiming.wcetTicks_prioritised (task : TaskTiming) (priority : UInt8) :
    (task.prioritised priority).wcetTicks = task.wcetTicks := rfl

@[simp] theorem TaskTiming.effectiveDeadline_prioritised (task : TaskTiming) (priority : UInt8) :
    (task.prioritised priority).effectiveDeadline = task.effectiveDeadline := rfl

variable {tasks : List TaskTiming} {assign : TaskTiming → UInt8}

/-- An assignment of priorities leaves every contract as it was. -/
theorem Constrained.reassigned (constrained : Constrained tasks) (assign : TaskTiming → UInt8) :
    Constrained (reassigned assign tasks) where
  distinct := by
    have same : (Malleus.reassigned assign tasks).map TaskTiming.name
        = tasks.map TaskTiming.name := by
      rw [Malleus.reassigned, List.map_map]
      rfl
    rw [same]
    exact constrained.distinct
  periods := by
    intro task listed
    obtain ⟨base, present, rfl⟩ := List.mem_map.mp listed
    exact constrained.periods base present
  deadlines := by
    intro task listed
    obtain ⟨base, present, rfl⟩ := List.mem_map.mp listed
    exact constrained.deadlines base present

/-- A listed task is listed under its assigned priority. -/
theorem prioritised_mem {task : TaskTiming} (assign : TaskTiming → UInt8) (listed : task ∈ tasks) :
    task.prioritised (assign task) ∈ reassigned assign tasks :=
  List.mem_map_of_mem listed

/-- The tasks above a task in an assignment. -/
theorem moreUrgent_reassigned (assign : TaskTiming → UInt8) (task : TaskTiming) :
    moreUrgent (task.prioritised (assign task)) (reassigned assign tasks)
      = (tasks.filter fun other => assign task < assign other).map
        fun other => other.prioritised (assign other) := by
  rw [moreUrgent, reassigned, List.filter_map]
  rfl

/-- The recurrence under an assignment, without blocking, is the demand of the tasks it puts above. -/
theorem responseDemand_reassigned (once : tasks.Nodup) {task : TaskTiming}
    (unblocked : task.blocking = 0) (window : ℕ) :
    responseDemand (reassigned assign tasks) (task.prioritised (assign task)) window
      = taskDemand task.wcetTicks
        (tasks.toFinset.filter fun other => (assign task).toNat < (assign other).toNat)
        TaskTiming.periodTicks TaskTiming.wcetTicks window := by
  -- Without blocking a task's own demand is its execution time.
  have own : (task.prioritised (assign task)).ownDemand = task.wcetTicks := by
    have none_ : (task.prioritised (assign task)).blocking.toNat = 0 := by
      rw [TaskTiming.prioritised, unblocked]
      rfl
    rw [TaskTiming.ownDemand, none_, TaskTiming.wcetTicks_prioritised, Nat.add_zero]
  have above : tasks.toFinset.filter (fun other => (assign task).toNat < (assign other).toNat)
      = (tasks.filter fun other => assign task < assign other).toFinset := by
    ext other
    simp [UInt8.lt_iff_toNat_lt]
  rw [responseDemand, own, moreUrgent_reassigned, taskDemand, above,
    List.sum_toFinset _ (once.filter _), List.map_map]
  rfl

/-- A task that passes under an assignment meets its deadline in it. -/
theorem meets_of_pass (constrained : Constrained tasks) {task : TaskTiming} (listed : task ∈ tasks)
    (unblocked : task.blocking = 0) {response slack : UInt64}
    (passed : verdictFor (task.prioritised (assign task)) (reassigned assign tasks)
      = .pass response slack) :
    Meets tasks.toFinset TaskTiming.periodTicks TaskTiming.wcetTicks TaskTiming.deadlineTicks
      (fun other => (assign other).toNat) task := by
  have listed' := prioritised_mem assign listed
  have reset := constrained.reassigned assign
  -- The published response is a window that holds its own demand.
  obtain ⟨-, -, fixed⟩ := solves_of_pass reset.distinct reset.periods reset.deadlines listed' passed
  obtain ⟨_, deadline, -, -, contract, -, -⟩ := verdictFor_decided (by rw [passed]; rfl)
  obtain ⟨-, established⟩ := verdictFor_establishes reset.distinct listed' contract (by rw [passed]; rfl)
  rw [passed] at established
  refine ⟨response.toNat, ?_, ?_⟩
  · have known : task.effectiveDeadline = some deadline := contract
    rw [TaskTiming.deadlineTicks, known, Option.getD_some]
    exact UInt64.le_iff_toNat_le.mp established.2.1
  · rw [responseDemand_reassigned constrained.distinct.of_map unblocked] at fixed
    exact fixed.le

/-- A declared task that meets its deadline in an assignment passes, unless the search gives up. -/
theorem pass_of_meets (constrained : Constrained tasks) {task : TaskTiming} (listed : task ∈ tasks)
    (declared : ∀ other ∈ tasks, other.Declared) (unblocked : task.blocking = 0)
    (meets : Meets tasks.toFinset TaskTiming.periodTicks TaskTiming.wcetTicks
      TaskTiming.deadlineTicks (fun other => (assign other).toNat) task) :
    (∃ response slack, verdictFor (task.prioritised (assign task)) (reassigned assign tasks)
        = .pass response slack)
      ∨ verdictFor (task.prioritised (assign task)) (reassigned assign tasks)
        = .unknown Reason.noConvergence := by
  obtain ⟨window, early, enough⟩ := meets
  obtain ⟨costed, timed, -⟩ := declared task listed
  obtain ⟨wcet, cost⟩ := Option.isSome_iff_exists.mp costed
  obtain ⟨deadline, contract⟩ := TaskTiming.exists_effectiveDeadline timed
  rw [TaskTiming.deadlineTicks, contract, Option.getD_some] at early
  have enough : responseDemand (reassigned assign tasks) (task.prioritised (assign task)) window
      ≤ window :=
    (responseDemand_reassigned constrained.distinct.of_map unblocked window).trans_le enough
  have listed' := prioritised_mem assign listed
  have above := preempters_eq_moreUrgent (constrained.reassigned assign).distinct listed'
  have declared' : ∀ other ∈ preempters (task.prioritised (assign task)) (reassigned assign tasks),
      other.Declared := by
    intro other member
    rw [above, mem_moreUrgent] at member
    obtain ⟨base, present, rfl⟩ := List.mem_map.mp member.1
    exact declared base present
  have positive := positivePeriods_of_declared declared'
  have searched := verdictFor_eq_recurrence (show (task.prioritised (assign task)).wcet = some wcet
    from cost) timed (show (task.prioritised (assign task)).effectiveDeadline = some deadline
    from contract) declared'
  have base : wcet.saturatingAdd (task.prioritised (assign task)).blocking
      = (task.prioritised (assign task)).searchBase := by
    rw [TaskTiming.searchBase, show (task.prioritised (assign task)).wcet = some wcet from cost,
      Option.getD_some]
  rw [base] at searched
  -- The window is a 64-bit number, because the deadline is one.
  have small := deadline.toNat_lt
  have ticks : (UInt64.ofNat window).toNat = window := by
    rw [UInt64.toNat_ofNat']
    exact Nat.mod_eq_of_lt (by omega)
  -- From below the window no round of the search leaves it.
  have closed : ∀ response ≤ UInt64.ofNat window,
      nextResponse (task.prioritised (assign task)).searchBase
        ((preempters (task.prioritised (assign task)) (reassigned assign tasks)).map TaskTiming.times)
        response ≤ UInt64.ofNat window := by
    intro response below
    rw [UInt64.le_iff_toNat_le, ticks] at below ⊢
    rw [toNat_nextResponse positive, above]
    have charged := exactDemand_le_responseDemand (reassigned assign tasks)
      (task.prioritised (assign task)) response.toNat
    have grown := responseDemand_mono (reassigned assign tasks) (task.prioritised (assign task)) below
    exact (min_le_left _ _).trans (charged.trans (grown.trans enough))
  have start : (task.prioritised (assign task)).searchBase ≤ UInt64.ofNat window := by
    rw [UInt64.le_iff_toNat_le, ticks, toNat_searchBase]
    have part := ownDemand_le_responseDemand (reassigned assign tasks)
      (task.prioritised (assign task)) window
    omega
  have within : UInt64.ofNat window ≤ deadline := by
    rw [UInt64.le_iff_toNat_le, ticks]
    exact early
  rw [searched]
  rcases recurrence_of_closed closed within maxIterations start with ⟨response, slack, found, -⟩ | open_
  · exact .inl ⟨response, slack, found⟩
  · exact .inr open_

/--
Where some assignment of distinct priorities is schedulable, no task fails in one by deadline.

At worst the search for a response gives up at its bound on rounds.
-/
theorem deadlineMonotonic_never_fails (constrained : Constrained tasks)
    (unblocked : ∀ task ∈ tasks, task.blocking = 0) {byDeadline : TaskTiming → UInt8}
    (injective : Set.InjOn assign {task | task ∈ tasks})
    (schedulable : (analyse (reassigned assign tasks)).isSchedulable = true)
    (monotonic : DeadlineMonotonic tasks byDeadline) {task : TaskTiming} (listed : task ∈ tasks) :
    (∃ response slack, verdictFor (task.prioritised (byDeadline task)) (reassigned byDeadline tasks)
        = .pass response slack)
      ∨ verdictFor (task.prioritised (byDeadline task)) (reassigned byDeadline tasks)
        = .unknown Reason.noConvergence := by
  have passes : ∀ other ∈ tasks, ∃ response slack, verdictFor (other.prioritised (assign other))
      (reassigned assign tasks) = .pass response slack :=
    fun other present => pass_of_isSchedulable schedulable (prioritised_mem assign present)
  have declared : ∀ other ∈ tasks, other.Declared := by
    intro other present
    have declared := (constrained.reassigned assign).declared schedulable
      (prioritised_mem assign present)
    exact declared
  -- A schedulable assignment meets every deadline, and the order by deadline meets them then too.
  have feasible : Feasible tasks.toFinset TaskTiming.periodTicks TaskTiming.wcetTicks
      TaskTiming.deadlineTicks fun other => (assign other).toNat := by
    intro other member
    have present := List.mem_toFinset.mp member
    obtain ⟨response, slack, passed⟩ := passes other present
    exact meets_of_pass constrained present (unblocked other present) passed
  have distinct : Set.InjOn (fun other => (assign other).toNat) tasks.toFinset := by
    intro first firstIn second secondIn same
    exact injective (List.mem_toFinset.mp firstIn) (List.mem_toFinset.mp secondIn)
      (UInt8.toNat_inj.mp same)
  -- The exchange needs deadlines within the periods, as the task set has them.
  have within : ∀ other ∈ tasks.toFinset, other.deadlineTicks ≤ other.periodTicks := by
    intro other member
    have present := List.mem_toFinset.mp member
    obtain ⟨period, interval⟩ := Option.isSome_iff_exists.mp (declared other present).2.1
    obtain ⟨deadline, contract⟩ := TaskTiming.exists_effectiveDeadline (declared other present).2.1
    have order := constrained.deadlines other present deadline period contract interval
    rw [TaskTiming.deadlineTicks, contract, TaskTiming.periodTicks, interval, Option.getD_some,
      Option.getD_some]
    exact UInt64.le_iff_toNat_le.mp order
  have reordered : Feasible tasks.toFinset TaskTiming.periodTicks TaskTiming.wcetTicks
      TaskTiming.deadlineTicks fun other => (byDeadline other).toNat := by
    apply feasible.deadlineMonotonic distinct _ within
    · intro first firstIn second secondIn lower
      exact monotonic first (List.mem_toFinset.mp firstIn) second (List.mem_toFinset.mp secondIn)
        (UInt8.lt_iff_toNat_lt.mpr lower)
    · exact fun other member => (declared other (List.mem_toFinset.mp member)).period_pos
  exact pass_of_meets constrained listed declared (unblocked task listed)
    (reordered task (List.mem_toFinset.mpr listed))

/-- A controller whose logging was put above its control loop. -/
def loggedController : List TaskTiming :=
  [⟨"sample", 9, some 100, none, some 20, 0⟩, ⟨"log", 7, some 1000, none, some 60, 0⟩,
    ⟨"control", 5, some 400, some 250, some 100, 0⟩]

/-- The logging does not fail either once the control loop is put above it, as its deadline asks. -/
theorem loggedController_never_fails :
    (∃ response slack, verdictFor ⟨"log", 3, some 1000, none, some 60, 0⟩
        (reassigned (fun task => if task.name = "log" then 3 else task.priority) loggedController)
        = .pass response slack)
      ∨ verdictFor ⟨"log", 3, some 1000, none, some 60, 0⟩
        (reassigned (fun task => if task.name = "log" then 3 else task.priority) loggedController)
        = .unknown Reason.noConvergence := by
  have constrained : Constrained loggedController :=
    constrained_of_defaults (by decide) (by decide) (by decide)
  have injective : Set.InjOn TaskTiming.priority {task | task ∈ loggedController} := by
    intro first firstIn second secondIn same
    exact List.inj_on_of_nodup_map (by decide) firstIn secondIn same
  have monotonic : DeadlineMonotonic loggedController
      fun task => if task.name = "log" then 3 else task.priority := by decide
  have listed : (⟨"log", 7, some 1000, none, some 60, 0⟩ : TaskTiming) ∈ loggedController := by decide
  exact deadlineMonotonic_never_fails constrained (by decide) injective (by decide) monotonic listed

end Malleus
