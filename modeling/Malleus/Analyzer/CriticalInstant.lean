import Malleus.Analyzer.TaskSet

/-! The verdict against every run: a pass bounds all of them, and the critical instant attains it. -/

namespace Malleus

open Realtime

/-- A task set on which the verdict for one task is exact. -/
structure ExactlyAnalysable (tasks : List TaskTiming) (task : TaskTiming) (deadline : UInt64) :
    Prop where
  distinct : (tasks.map TaskTiming.name).Nodup
  listed : task ∈ tasks
  declared : task.Declared
  above : ∀ other ∈ tasks, task.priority < other.priority → other.Declared
  works : task.wcet ≠ some 0
  unblocked : task.blocking = 0
  contract : task.effectiveDeadline = some deadline
  constrained : deadline.toNat ≤ task.periodTicks
  representable : deadline.toNat < 18446744073709551615
  alone : ∀ other ∈ tasks, other.priority = task.priority → other = task

variable {tasks : List TaskTiming} {task : TaskTiming} {deadline : UInt64}

/-- The verdict of an analysable task is the outcome of the search on its own cost. -/
theorem ExactlyAnalysable.established (analysable : ExactlyAnalysable tasks task deadline) :
    ∃ wcet, task.wcet = some wcet ∧
      PositivePeriods ((moreUrgent task tasks).map TaskTiming.times) ∧
      Established wcet deadline ((moreUrgent task tasks).map TaskTiming.times)
        (verdictFor task tasks) := by
  -- Only the more urgent tasks have to be declared besides the task itself.
  apply verdictFor_established analysable.distinct analysable.listed analysable.declared _
    analysable.unblocked analysable.contract
  intro other member
  obtain ⟨present, urgent⟩ := mem_moreUrgent.mp member
  exact analysable.above other present urgent

/-- A task's own jobs and all more urgent ones are spaced and bounded as declared. -/
structure SpacedFrom {ι : Type*} (tasks : List TaskTiming) (task : TaskTiming)
    (work : Workload ι TaskTiming) : Prop where
  listed : ∀ job, work.task job ∈ tasks
  own : Sporadic work task task.periodTicks task.wcetTicks
  above : ∀ other ∈ moreUrgent task tasks,
    Sporadic work other other.periodTicks other.wcetTicks

/-- Legal releases are spaced at and above every analysable task. -/
theorem ExactlyAnalysable.spacedFrom (analysable : ExactlyAnalysable tasks task deadline)
    {ι : Type*} {work : Workload ι TaskTiming} (releases : LegalReleases tasks work) :
    SpacedFrom tasks task work where
  listed := releases.listed
  own := releases.sporadic analysable.declared
  above := by
    -- A more urgent task is declared, so its releases are spaced too.
    intro other member
    obtain ⟨present, urgent⟩ := mem_moreUrgent.mp member
    exact releases.sporadic (analysable.above other present urgent)

/-- Synchronous releases are spaced at and above their task. -/
theorem SynchronousReleases.spacedFrom {ι : Type*} {work : Workload ι TaskTiming} {start : ℕ}
    (releases : SynchronousReleases tasks task start work) : SpacedFrom tasks task work where
  listed := releases.listed
  own := releases.own.sporadic
  above := fun other member => (releases.periodic other member).sporadic

/-- Every job of a passing task finishes within the response, whatever the spaced releases. -/
theorem ExactlyAnalysable.finished_of_pass (analysable : ExactlyAnalysable tasks task deadline)
    {response slack : UInt64} (passed : verdictFor task tasks = .pass response slack)
    {ι : Type*} {work : Workload ι TaskTiming} {run : Run ι} (releases : SpacedFrom tasks task work)
    (legal : Preemptive work TaskTiming.urgency run) {job : ι} (ofTask : work.task job = task) :
    Finished work run job (work.release job + response.toNat) := by
  obtain ⟨wcet, cost, positive, established⟩ := analysable.established
  rw [passed] at established
  have within : response.toNat ≤ deadline.toNat := UInt64.le_iff_toNat_le.mp established.2.1
  have representable := analysable.representable
  have constrained := analysable.constrained
  -- Below the top of the range the response is an exact fixed point of the demand.
  have fixed := established.fixed positive (by omega)
  rw [exactDemand_eq_taskDemand analysable.distinct.of_map] at fixed
  have own : task.wcetTicks = wcet.toNat := by rw [TaskTiming.wcetTicks, cost, Option.getD_some]
  apply task_finished_within legal (moreUrgent task tasks).toFinset TaskTiming.periodTicks
    TaskTiming.wcetTicks _ _ _ _ releases.own (by omega) (own ▸ fixed.le) job ofTask
  · intro other member
    exact (mem_toFinset_moreUrgent.mp member).2
  · intro other urgent
    exact mem_toFinset_moreUrgent.mpr ⟨releases.listed other, urgent⟩
  · intro other member
    have present := List.mem_toFinset.mp member
    obtain ⟨listed, urgent⟩ := mem_moreUrgent.mp present
    exact ⟨(analysable.above other listed urgent).period_pos, releases.above other present⟩
  · intro other level
    exact analysable.alone _ (releases.listed other) (UInt8.toNat_inj.mp level)

/-- In synchronous releases a finished first job leaves behind a window that holds all demand. -/
theorem ExactlyAnalysable.prefixed_of_first_finished
    (analysable : ExactlyAnalysable tasks task deadline) {wcet : UInt64}
    (cost : task.wcet = some wcet) {ι : Type*}
    {work : Workload ι TaskTiming} {run : Run ι} {start window : ℕ}
    (releases : SynchronousReleases tasks task start work)
    (legal : Preemptive work TaskTiming.urgency run) {job : ι} (ofTask : work.task job = task)
    (first : work.release job = start) (done : Finished work run job (start + window)) :
    ∃ length ≤ window,
      Prefixed (exactDemand wcet ((moreUrgent task tasks).map TaskTiming.times)) length := by
  -- The first job needs the full cost of its task, which is not zero.
  have own : work.cost job = wcet.toNat := by
    rw [releases.own.full ofTask, TaskTiming.wcetTicks, cost, Option.getD_some]
  have needed : 0 < work.cost job := by
    rw [releases.own.full ofTask]
    exact wcetTicks_pos analysable.declared analysable.works
  subst first
  -- All the work above it repeats from the same instant.
  have periodic : ∀ other ∈ (moreUrgent task tasks).toFinset, 0 < other.periodTicks ∧
      Periodic work other (work.release job) other.periodTicks other.wcetTicks := by
    intro other member
    have present := List.mem_toFinset.mp member
    obtain ⟨listed, urgent⟩ := mem_moreUrgent.mp present
    exact ⟨(analysable.above other listed urgent).period_pos, releases.periodic other present⟩
  obtain ⟨length, below, _, enough⟩ := prefixed_of_finished legal (moreUrgent task tasks).toFinset
    TaskTiming.periodTicks TaskTiming.wcetTicks needed
    (fun other member => ofTask ▸ (mem_toFinset_moreUrgent.mp member).2) periodic done
  -- The demand of that window is the one the analyser computes.
  refine ⟨length, below, ?_⟩
  unfold Prefixed at enough ⊢
  rw [exactDemand_eq_taskDemand analysable.distinct.of_map, ← own]
  exact enough

/--
The verdict is exact for preemptive fixed priorities.

A pass bounds every job of every legal run, and the synchronous start attains the bound.

After a failure the first job of the synchronous start is late.
-/
theorem verdictFor_exact (analysable : ExactlyAnalysable tasks task deadline) :
    (∀ response slack, verdictFor task tasks = .pass response slack →
      (∀ (ι : Type) (work : Workload ι TaskTiming) (run : Run ι), LegalReleases tasks work →
        Preemptive work TaskTiming.urgency run →
        ∀ job, work.task job = task →
          Finished work run job (work.release job + response.toNat)) ∧
      (∀ (ι : Type) (work : Workload ι TaskTiming) (run : Run ι) (start : ℕ),
        SynchronousReleases tasks task start work →
        Preemptive work TaskTiming.urgency run →
        ∀ job, work.task job = task → work.release job = start →
          Finished work run job (start + response.toNat) ∧
            ∀ earlier < start + response.toNat, ¬Finished work run job earlier)) ∧
    (∀ response overrun, verdictFor task tasks = .fail response overrun →
      ∀ (ι : Type) (work : Workload ι TaskTiming) (run : Run ι) (start : ℕ),
        SynchronousReleases tasks task start work →
        Preemptive work TaskTiming.urgency run →
        ∀ job, work.task job = task → work.release job = start →
          ¬Finished work run job (start + deadline.toNat)) := by
  obtain ⟨wcet, cost, positive, established⟩ := analysable.established
  refine ⟨fun response slack passed => ⟨?_, ?_⟩, ?_⟩
  · intro ι work run releases legal job ofTask
    exact analysable.finished_of_pass passed (analysable.spacedFrom releases) legal ofTask
  -- The synchronous start is one of the legal patterns, so the upper bound applies.
  · intro ι work run start releases legal job ofTask first
    rw [passed] at established
    refine ⟨first ▸ analysable.finished_of_pass passed releases.spacedFrom legal ofTask, ?_⟩
    -- Finishing earlier would leave a self-sufficient window shorter than the least one.
    intro earlier below done
    have later : earlier ≤ start + (response.toNat - 1) := by omega
    obtain ⟨length, short, enough⟩ := analysable.prefixed_of_first_finished cost releases legal
      ofTask first (done.mono later)
    have least := established.2.2.2 length enough
    have needed := (base_le_periodicDemand wcet.toNat _ length).trans enough
    have works := wcetTicks_pos analysable.declared analysable.works
    rw [TaskTiming.wcetTicks, cost, Option.getD_some] at works
    omega
  -- Finishing by the deadline would need a window the failed search has ruled out.
  · intro response overrun failed ι work run start releases legal job ofTask first done
    rw [failed] at established
    obtain ⟨length, short, enough⟩ := analysable.prefixed_of_first_finished cost releases legal
      ofTask first done
    have least := established.2.2 length enough
    have late := UInt64.lt_iff_toNat_lt.mp established.1
    omega

/-- A sampler that repeats twice as often as the filter below it. -/
def sampledFilter : List TaskTiming :=
  [⟨"sampler", 8, some 500, none, some 100, 0⟩, ⟨"filter", 3, some 1000, none, some 200, 0⟩]

/-- The filter of the sampled filter. -/
def filterTask : TaskTiming := ⟨"filter", 3, some 1000, none, some 200, 0⟩

/-- The filter's response of 300 ticks bounds all of its jobs, and is attained. -/
theorem filterTask_exact :
    (∀ (ι : Type) (work : Workload ι TaskTiming) (run : Run ι), LegalReleases sampledFilter work →
        Preemptive work TaskTiming.urgency run →
        ∀ job, work.task job = filterTask → Finished work run job (work.release job + 300)) ∧
      ∀ (ι : Type) (work : Workload ι TaskTiming) (run : Run ι) (start : ℕ),
        SynchronousReleases sampledFilter filterTask start work →
        Preemptive work TaskTiming.urgency run →
        ∀ job, work.task job = filterTask → work.release job = start →
          Finished work run job (start + 300) ∧
            ∀ earlier < start + 300, ¬Finished work run job earlier := by
  have analysable : ExactlyAnalysable sampledFilter filterTask 1000 := by
    refine ⟨by decide, by decide, by decide, by decide, by decide, by decide, by decide, by decide,
      by decide, ?_⟩
    -- The sampler has another priority.
    intro other listed level
    simp only [sampledFilter, List.mem_cons, List.not_mem_nil, or_false] at listed
    rcases listed with rfl | rfl
    · exact absurd level (by decide)
    · rfl
  -- One activation of the sampler falls into the window of 300 ticks.
  have passed : verdictFor filterTask sampledFilter = .pass 300 700 := by decide
  exact (verdictFor_exact analysable).1 300 700 passed

end Malleus
