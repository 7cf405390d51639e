import Malleus.Analyzer.Convergence

/-! Which declarations a published number rests on, and the one gap the analyser's guards overlook. -/

namespace Malleus

open Realtime

/-- Every published number rests on declared, repeating work alone. -/
def UncertaintyPropagates (tasks : List TaskTiming) : Prop :=
  (∀ task ∈ tasks, (verdictFor task tasks).isDecided = true →
    task.Declared ∧ ∀ other ∈ tasks, task.priority < other.priority → other.Declared) ∧
  ((analyse tasks).isSchedulable = true → ∀ task ∈ tasks, task.Declared)

/-- A task that declares a period of zero lacks something else, or a more urgent task does. -/
def ZeroPeriodGapped (tasks : List TaskTiming) (task : TaskTiming) : Prop :=
  task.period = some 0 → task.wcet = none ∨ ∃ other ∈ moreUrgent task tasks, ¬other.Declared

/-- Within its deadline a task is preempted less often than the search has rounds. -/
def FewPreemptions (tasks : List TaskTiming) (task : TaskTiming) : Prop :=
  ∀ deadline, task.effectiveDeadline = some deadline →
    ((moreUrgent task tasks).map fun other => deadline.toNat ⌈/⌉ other.periodTicks).sum
      < maxIterations

variable {tasks : List TaskTiming} {task : TaskTiming}

/-- A number for a task whose zero period comes with another gap is fully declared. -/
theorem declared_of_decided (distinct : (tasks.map TaskTiming.name).Nodup) (member : task ∈ tasks)
    (gapped : ZeroPeriodGapped tasks task) (decided : (verdictFor task tasks).isDecided = true) :
    task.Declared ∧ ∀ other ∈ tasks, task.priority < other.priority → other.Declared := by
  -- The search runs on what its guards let through: a cost, a period, and declared tasks above.
  obtain ⟨wcet, _, cost, timed, _, declared, _⟩ := verdictFor_decided decided
  rw [preempters_eq_moreUrgent distinct member] at declared
  have above : ∀ other ∈ tasks, task.priority < other.priority → other.Declared :=
    fun other present urgent => declared other (mem_moreUrgent.mpr ⟨present, urgent⟩)
  refine ⟨⟨by simp [cost], timed, ?_⟩, above⟩
  -- The task's own zero period is the one gap that no guard of the search looks at.
  intro zero
  rcases gapped zero with missing | ⟨other, present, gap⟩
  · simp [cost] at missing
  · exact gap (declared other present)

/-- A task with a cost and a zero period gets a number when everything above it is declared. -/
theorem decided_of_zeroPeriod (distinct : (tasks.map TaskTiming.name).Nodup) (member : task ∈ tasks)
    (few : FewPreemptions tasks task) (zero : task.period = some 0) {wcet : UInt64}
    (cost : task.wcet = some wcet) (above : ∀ other ∈ moreUrgent task tasks, other.Declared) :
    (verdictFor task tasks).isDecided = true := by
  -- A period of zero is a period, so there is a deadline to search up to.
  have timed : task.period.isSome = true := by rw [zero]; rfl
  obtain ⟨deadline, contract⟩ := TaskTiming.exists_effectiveDeadline timed
  exact decided_of_activations distinct member cost timed contract above (few deadline contract)

/--
Uncertainty reaches every published number where each zero period comes with another gap.

The analyser guards against a zero period in more urgent tasks only.
A zero-period task without another gap gets a number itself, unless its search runs out of rounds.
-/
theorem uncertaintyPropagates_of_gapped (distinct : (tasks.map TaskTiming.name).Nodup) :
    ((∀ task ∈ tasks, ZeroPeriodGapped tasks task) → UncertaintyPropagates tasks) ∧
      ∀ task ∈ tasks, FewPreemptions tasks task → UncertaintyPropagates tasks →
        ZeroPeriodGapped tasks task := by
  constructor
  -- No zero period gets through, so a number rests on declared work alone.
  · intro gapped
    constructor
    · intro task member decided
      exact declared_of_decided distinct member (gapped task member) decided
    · intro schedulable task member
      exact (declared_of_decided distinct member (gapped task member)
        (decided_of_isSchedulable schedulable member)).1
  · intro task member few propagates zero
    by_contra complete
    rw [not_or, not_exists] at complete
    obtain ⟨costed, above⟩ := complete
    obtain ⟨wcet, cost⟩ := Option.ne_none_iff_exists'.mp costed
    have declared : ∀ other ∈ moreUrgent task tasks, other.Declared := by
      intro other urgent
      by_contra gap
      exact above other ⟨urgent, gap⟩
    -- With nothing else missing, the zero-period task gets a number that rests on itself.
    have decided := decided_of_zeroPeriod distinct member few zero cost declared
    exact (propagates.1 task member decided).1.2.2 zero

/-- A motor loop above a logger nobody has measured, and a poller that is always due. -/
def unmeasuredLogger : List TaskTiming :=
  [⟨"motor", 9, some 1000, none, some 250, 0⟩, ⟨"logger", 3, some 5000, none, none, 0⟩,
    ⟨"poller", 1, some 0, some 100, some 50, 0⟩]

/-- The poller is below the unmeasured logger, so no number rests on its period. -/
theorem unmeasuredLogger_propagates : UncertaintyPropagates unmeasuredLogger := by
  refine (uncertaintyPropagates_of_gapped (by decide)).1 ?_
  intro task listed zero
  simp only [unmeasuredLogger, List.mem_cons, List.not_mem_nil, or_false] at listed
  rcases listed with rfl | rfl | rfl
  · exact absurd zero (by decide)
  · exact absurd zero (by decide)
  -- The poller is silenced by the gap above it.
  · exact .inr ⟨⟨"logger", 3, some 5000, none, none, 0⟩, by decide, by decide⟩

/-- A single task that is due again the instant it starts. -/
def greedyTask : TaskTiming := ⟨"greedy", 5, some 0, some 100, some 50, 0⟩

/-- A task of unbounded demand is passed with a response time, and its set called schedulable. -/
theorem greedyTask_passes :
    ([greedyTask].map TaskTiming.name).Nodup ∧ verdictFor greedyTask [greedyTask] = .pass 50 50
      ∧ (analyse [greedyTask]).isSchedulable = true ∧ ¬UncertaintyPropagates [greedyTask] := by
  -- With nothing above it, the search stops in its first round.
  have schedulable : (analyse [greedyTask]).isSchedulable = true := by decide
  have unbounded : ¬greedyTask.Declared := by decide
  refine ⟨by decide, by decide, schedulable, ?_⟩
  intro propagates
  exact unbounded (propagates.2 schedulable greedyTask (List.mem_singleton_self _))

end Malleus
