import Malleus.Analyzer.LeastResponse

/-! When the bounded search always decides: its rounds are paid for by activations. -/

namespace Malleus

open Realtime

/-- A round that computes something new has seen another activation. -/
theorem activations_lt {base narrow wide : UInt64} {preempting : List (UInt64 × UInt64)}
    (positive : PositivePeriods preempting) (wider : narrow ≤ wide)
    (moved : nextResponse base preempting wide ≠ nextResponse base preempting narrow) :
    activations (exactTimes preempting) narrow.toNat
      < activations (exactTimes preempting) wide.toNat := by
  have wider := UInt64.le_iff_toNat_le.mp wider
  apply lt_of_le_of_ne (activations_mono _ wider)
  -- With the same activations both rounds would add up the same demand.
  intro same
  apply moved
  rw [← UInt64.toNat_inj, toNat_nextResponse positive, toNat_nextResponse positive, exactDemand,
    periodicDemand_eq_of_activations_eq _ wider same]

/-- A round that leaves the search undecided moved, stayed within the deadline, and was not the last. -/
theorem undecided_succ {base deadline : UInt64} {preempting : List (UInt64 × UInt64)}
    {rounds : Nat} {response : UInt64}
    (undecided : (recurrence base deadline preempting (rounds + 1) response).isDecided = false) :
    nextResponse base preempting response ≠ response ∧
      nextResponse base preempting response ≤ deadline ∧
      (recurrence base deadline preempting rounds
        (nextResponse base preempting response)).isDecided = false := by
  simp only [recurrence] at undecided
  split at undecided
  -- Both answers on a repeated value are decided.
  · split at undecided <;> cases undecided
  · rename_i moved
    split at undecided
    · cases undecided
    · rename_i within
      exact ⟨moved, UInt64.not_lt.mp within, undecided⟩

/-- Every undecided round after a rising one adds an activation within the deadline. -/
theorem rounds_le_activations {base deadline : UInt64} {preempting : List (UInt64 × UInt64)}
    (positive : PositivePeriods preempting) (rounds : Nat) {response : UInt64}
    (rising : response ≤ nextResponse base preempting response)
    (early : nextResponse base preempting response ≤ deadline)
    (undecided : (recurrence base deadline preempting rounds
      (nextResponse base preempting response)).isDecided = false) :
    activations (exactTimes preempting) response.toNat + rounds
      ≤ activations (exactTimes preempting) deadline.toNat := by
  induction rounds generalizing response with
  | zero =>
    exact activations_mono _ (UInt64.le_iff_toNat_le.mp (UInt64.le_trans rising early))
  | succ rounds ih =>
    -- The round itself pays with one activation, the remaining ones with theirs.
    obtain ⟨moved, within, open_⟩ := undecided_succ undecided
    have later := ih (nextResponse_mono base positive rising) within open_
    have gained := activations_lt positive rising moved
    omega

/-- The search decides whenever its rounds outnumber the activations within the deadline. -/
theorem recurrence_decided_of_activations_lt {base deadline : UInt64}
    {preempting : List (UInt64 × UInt64)} (positive : PositivePeriods preempting) {rounds : Nat}
    (few : activations (exactTimes preempting) deadline.toNat < rounds) :
    (recurrence base deadline preempting rounds base).isDecided = true := by
  by_contra undecided
  rw [Bool.not_eq_true] at undecided
  cases rounds with
  | zero => omega
  | succ rounds =>
    obtain ⟨moved, within, open_⟩ := undecided_succ undecided
    have later :=
      rounds_le_activations positive rounds (base_le_nextResponse base base positive) within open_
    -- The first round moves only when something preempts the start, which is one more activation.
    have busy : activations (exactTimes preempting) base.toNat ≠ 0 := by
      intro idle
      have bound := base.toNat_le_max
      apply moved
      rw [← UInt64.toNat_inj, toNat_nextResponse positive, exactDemand,
        periodicDemand_of_activations_eq_zero _ idle]
      omega
    omega

variable {tasks : List TaskTiming} {task : TaskTiming}

/-- With everything above it declared, a task that is preempted few times enough gets a number. -/
theorem decided_of_activations (distinct : (tasks.map TaskTiming.name).Nodup) (listed : task ∈ tasks)
    {wcet deadline : UInt64} (cost : task.wcet = some wcet) (timed : task.period.isSome = true)
    (contract : task.effectiveDeadline = some deadline)
    (above : ∀ other ∈ moreUrgent task tasks, other.Declared)
    (few : ((moreUrgent task tasks).map fun other =>
      deadline.toNat ⌈/⌉ other.periodTicks).sum < maxIterations) :
    (verdictFor task tasks).isDecided = true := by
  -- The preempting tasks are the more urgent ones, so the verdict is the outcome of the search.
  rw [← preempters_eq_moreUrgent distinct listed] at above
  rw [verdictFor_eq_recurrence cost timed contract above]
  -- The counted activations are the ones the search sees.
  apply recurrence_decided_of_activations_lt (positivePeriods_of_declared above)
  rw [preempters_eq_moreUrgent distinct listed]
  simpa [activations, exactTimes, Function.comp_def, TaskTiming.times, TaskTiming.periodTicks]
    using few

/-- Fewer activations in a deadline window than the search has rounds always lead to a number. -/
theorem verdictFor_decided_of_few_activations (distinct : (tasks.map TaskTiming.name).Nodup)
    (listed : task ∈ tasks) (cost : task.wcet.isSome = true) (timed : task.period.isSome = true)
    {deadline : UInt64} (contract : task.effectiveDeadline = some deadline)
    (above : ∀ other ∈ tasks, task.priority < other.priority → other.Declared)
    (few : ((moreUrgent task tasks).map fun other =>
      deadline.toNat ⌈/⌉ other.periodTicks).sum < maxIterations) :
    (verdictFor task tasks).isDecided = true := by
  obtain ⟨wcet, known⟩ := Option.isSome_iff_exists.mp cost
  apply decided_of_activations distinct listed known timed contract _ few
  -- Membership above the task is what the declarations are promised for.
  intro other member
  obtain ⟨present, urgent⟩ := mem_moreUrgent.mp member
  exact above other present urgent

/-- A slow task preempted five times within its deadline gets a number. -/
theorem slowTask_decided : (verdictFor slowTask fastOverSlow).isDecided = true := by
  have contract : slowTask.effectiveDeadline = some 1000 := by decide
  exact verdictFor_decided_of_few_activations (by decide) (by decide) (by decide) (by decide)
    contract (by decide) (by decide)

end Malleus
