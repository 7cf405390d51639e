import Malleus.Analyzer.SharedPriority
import Malleus.Analyzer.Utilisation
import Malleus.Realtime.Blocking

/-! The blocking term: what it has to cover for a pass to hold of runs with held or shared levels. -/

namespace Malleus

open Realtime

/-- The tasks at or above a task's priority. -/
def levelTasks (task : TaskTiming) (all : List TaskTiming) : List TaskTiming :=
  all.filter fun other => task.priority ≤ other.priority

variable {tasks : List TaskTiming} {task : TaskTiming}

/-- Membership in a level is a comparison of urgencies. -/
theorem mem_toFinset_levelTasks {other : TaskTiming} :
    other ∈ (levelTasks task tasks).toFinset ↔ other ∈ tasks ∧ task.urgency ≤ other.urgency := by
  rw [List.mem_toFinset, levelTasks, List.mem_filter, decide_eq_true_eq, UInt8.le_iff_toNat_le,
    TaskTiming.urgency, TaskTiming.urgency]

/-- A level is its task, the task's peers, and everything more urgent. -/
theorem levelTasks_perm (once : tasks.Nodup) (listed : task ∈ tasks) :
    (levelTasks task tasks).Perm (task :: (peers task tasks ++ moreUrgent task tasks)) := by
  have distinct : (task :: (peers task tasks ++ moreUrgent task tasks)).Nodup := by
    rw [List.nodup_cons, List.nodup_append]
    refine ⟨?_, once.filter _, once.filter _, ?_⟩
    · simp [mem_peers, mem_moreUrgent]
    · intro peer beside other above same
      exact not_mem_moreUrgent_of_mem_peers beside (same ▸ above)
  have level : (levelTasks task tasks).Nodup := once.filter _
  rw [List.perm_ext_iff_of_nodup level distinct]
  intro other
  -- Priorities compare in one of three ways, and equal ones belong to the task or to a peer.
  simp only [levelTasks, List.mem_filter, decide_eq_true_eq, List.mem_cons, List.mem_append,
    mem_peers, mem_moreUrgent, UInt8.le_iff_toNat_le, UInt8.lt_iff_toNat_lt, ← UInt8.toNat_inj]
  constructor
  · intro member
    obtain ⟨present, order⟩ := member
    by_cases same : other = task
    · exact .inl same
    · rcases Nat.lt_or_eq_of_le order with above | level
      · exact .inr (.inr ⟨present, above⟩)
      · exact .inr (.inl ⟨present, same, level.symm⟩)
  · intro member
    rcases member with rfl | ⟨present, -, level⟩ | ⟨present, above⟩
    · exact ⟨listed, le_rfl⟩
    · exact ⟨present, level.ge⟩
    · exact ⟨present, above.le⟩

/-- A window that no job of the level repeats in holds each of its costs once. -/
theorem taskDemand_levelTasks (once : tasks.Nodup) (listed : task ∈ tasks) (hold : ℕ) {window : ℕ}
    (nonempty : 0 < window)
    (slow : ∀ other ∈ task :: peers task tasks, window ≤ other.periodTicks) :
    taskDemand hold (levelTasks task tasks).toFinset TaskTiming.periodTicks TaskTiming.wcetTicks
        window
      = hold + sharedDemand tasks task window := by
  have single : ∀ other ∈ task :: peers task tasks,
      window ⌈/⌉ other.periodTicks * other.wcetTicks = other.wcetTicks := by
    intro other member
    have within := slow other member
    have activations : window ⌈/⌉ other.periodTicks = 1 := by
      apply le_antisymm
      · rw [ceilDiv_le_iff_le_mul (by omega), Nat.mul_one]
        exact within
      · exact ceilDiv_pos nonempty (by omega)
    rw [activations, Nat.one_mul]
  have beside : (peers task tasks).map (fun other => window ⌈/⌉ other.periodTicks * other.wcetTicks)
      = (peers task tasks).map TaskTiming.wcetTicks :=
    List.map_congr_left fun other member => single other (List.mem_cons_of_mem _ member)
  have level : (levelTasks task tasks).Nodup := once.filter _
  rw [taskDemand, List.sum_toFinset _ level]
  -- The level is summed as its task, its peers and what is above them.
  rw [((levelTasks_perm once listed).map _).sum_eq, List.map_cons, List.map_append, List.sum_cons,
    List.sum_append, single task List.mem_cons_self, beside, sharedDemand]
  omega

/-- The blocking terms cover what may hold each level up, and one job of every peer. -/
def CoversHolds (tasks : List TaskTiming) (hold : UInt8 → ℕ) : Prop :=
  ∀ task ∈ tasks,
    hold task.priority + ((peers task tasks).map TaskTiming.wcetTicks).sum ≤ task.blocking.toNat

/-- A covering blocking term puts everything a task can wait for into its recurrence. -/
theorem CoversHolds.sharedDemand_le {hold : UInt8 → ℕ} (covers : CoversHolds tasks hold)
    (listed : task ∈ tasks) (window : ℕ) :
    hold task.priority + sharedDemand tasks task window ≤ responseDemand tasks task window := by
  have covered := covers task listed
  rw [sharedDemand, responseDemand, TaskTiming.ownDemand]
  omega

/-- Tasks of one priority wait for the same work. -/
theorem sharedDemand_peer (once : tasks.Nodup) {peer : TaskTiming} (listed : task ∈ tasks)
    (beside : peer ∈ peers task tasks) (window : ℕ) :
    sharedDemand tasks peer window = sharedDemand tasks task window := by
  obtain ⟨present, different, level⟩ := mem_peers.mp beside
  have above : moreUrgent peer tasks = moreUrgent task tasks := by
    rw [moreUrgent, moreUrgent, level]
  have ranks : levelTasks peer tasks = levelTasks task tasks := by
    rw [levelTasks, levelTasks, level]
  -- Both levels are the same list, from either task's point of view.
  have same := (levelTasks_perm once present).symm.trans (ranks ▸ levelTasks_perm once listed)
  rw [above, ← List.cons_append, ← List.cons_append, List.perm_append_right_iff] at same
  have costs := (same.map TaskTiming.wcetTicks).sum_eq
  rw [List.map_cons, List.map_cons, List.sum_cons, List.sum_cons] at costs
  rw [sharedDemand, sharedDemand, above]
  omega

/-- The demand a level waits for grows with the window. -/
theorem sharedDemand_mono (tasks : List TaskTiming) (task : TaskTiming) :
    Monotone (sharedDemand tasks task) := by
  -- Every summand counts activations, which a wider window sees no fewer of.
  intro narrow wide wider
  apply Nat.add_le_add_left
  apply List.sum_le_sum
  intro other _
  exact Nat.mul_le_mul_right _ (ceilDiv_mono_left other.periodTicks wider)

/-- A task set whose periods are nonzero and in range, with deadlines no longer than them. -/
structure Constrained (tasks : List TaskTiming) : Prop where
  distinct : (tasks.map TaskTiming.name).Nodup
  periods : ∀ task ∈ tasks, ∀ period, task.period = some period →
    period ≠ 0 ∧ period.toNat < 18446744073709551615
  deadlines : ∀ task ∈ tasks, ∀ deadline period, task.effectiveDeadline = some deadline →
    task.period = some period → deadline ≤ period

/-- Periods and deadlines may be checked as read with a default. -/
theorem constrained_of_defaults (distinct : (tasks.map TaskTiming.name).Nodup)
    (periods : ∀ task ∈ tasks,
      task.period.getD 1 ≠ 0 ∧ (task.period.getD 1).toNat < 18446744073709551615)
    (deadlines : ∀ task ∈ tasks, task.effectiveDeadline.getD 0 ≤ task.period.getD 0) :
    Constrained tasks := by
  refine ⟨distinct, ?_, ?_⟩
  · intro task listed period given
    have both := periods task listed
    rw [given, Option.getD_some] at both
    exact both
  · intro task listed deadline period contract given
    have within := deadlines task listed
    rw [contract, given, Option.getD_some, Option.getD_some] at within
    exact within

/-- In a schedulable set with covering blocking terms, one window bounds a whole level. -/
theorem exists_level_window (constrained : Constrained tasks) {hold : UInt8 → ℕ}
    (covers : CoversHolds tasks hold) (schedulable : (analyse tasks).isSchedulable = true)
    (listed : task ∈ tasks) {response slack : UInt64}
    (passed : verdictFor task tasks = .pass response slack) :
    ∃ window ≤ response.toNat, hold task.priority + sharedDemand tasks task window ≤ window
      ∧ ∀ other ∈ task :: peers task tasks, window ≤ other.periodTicks := by
  have once := constrained.distinct.of_map
  have settled : ∀ {other response slack}, other ∈ tasks →
      verdictFor other tasks = .pass response slack →
      other.Declared ∧ response.toNat ≤ other.periodTicks ∧
        responseDemand tasks other response.toNat = response.toNat := fun present outcome =>
    solves_of_pass constrained.distinct constrained.periods constrained.deadlines present outcome
  have mono : Monotone fun window => hold task.priority + sharedDemand tasks task window :=
    fun _ _ wider => Nat.add_le_add_left (sharedDemand_mono tasks task wider) _
  obtain ⟨-, within, fixed⟩ := settled listed passed
  -- The task's own response holds the demand of its level, and so does every peer's response.
  have enough : Prefixed (fun window => hold task.priority + sharedDemand tasks task window)
      response.toNat := (covers.sharedDemand_le listed _).trans fixed.le
  obtain ⟨window, below, solved, least⟩ := exists_least_fixed mono enough
  refine ⟨window, below, solved.le, ?_⟩
  intro other member
  rcases List.mem_cons.mp member with rfl | beside
  · exact below.trans within
  · obtain ⟨present, -, level⟩ := mem_peers.mp beside
    obtain ⟨response', slack', passed'⟩ := pass_of_isSchedulable schedulable present
    obtain ⟨-, within', fixed'⟩ := settled present passed'
    have covered := covers.sharedDemand_le present response'.toNat
    rw [level, sharedDemand_peer once listed beside] at covered
    exact (least _ (covered.trans fixed'.le)).trans within'

/-- Every task of a schedulable set declares what the analysis needs. -/
theorem Constrained.declared (constrained : Constrained tasks)
    (schedulable : (analyse tasks).isSchedulable = true) (listed : task ∈ tasks) :
    task.Declared := by
  obtain ⟨_, _, passed⟩ := pass_of_isSchedulable schedulable listed
  exact (solves_of_pass constrained.distinct constrained.periods constrained.deadlines listed
    passed).1

/-- A published response bounds every job of its task in every run the blocking terms cover. -/
theorem finished_of_pass (constrained : Constrained tasks) {hold : UInt8 → ℕ}
    (covers : CoversHolds tasks hold) (schedulable : (analyse tasks).isSchedulable = true)
    {ι : Type} {work : Workload ι TaskTiming} {run : Run ι} (releases : LegalReleases tasks work)
    (conserving : WorkConserving work run)
    (held : ∀ task ∈ tasks,
      HeldAtMost work TaskTiming.urgency run task.urgency (hold task.priority))
    {job : ι} {response slack : UInt64}
    (passed : verdictFor (work.task job) tasks = .pass response slack) :
    Finished work run job (work.release job + response.toNat) := by
  have listed := releases.listed job
  have once := constrained.distinct.of_map
  have declared : ∀ other ∈ tasks, other.Declared :=
    fun other present => constrained.declared schedulable present
  obtain ⟨window, below, enough, single⟩ :=
    exists_level_window constrained covers schedulable listed passed
  rcases Nat.eq_zero_or_pos window with empty | nonempty
  -- Only a job without work fits an empty window, and it has nothing to wait for.
  · have own : (work.task job).wcetTicks = 0 := by
      rw [sharedDemand] at enough
      omega
    have cost := (releases.sporadic (declared _ listed)).bounded (rfl : work.task job = work.task job)
    unfold Finished
    omega
  · have members : ∀ other, work.task other ∈ (levelTasks (work.task job) tasks).toFinset
        ↔ (work.task job).urgency ≤ (work.task other).urgency := by
      intro other
      rw [mem_toFinset_levelTasks]
      exact and_iff_right (releases.listed other)
    have sporadic : SporadicTasks work (levelTasks (work.task job) tasks).toFinset
        TaskTiming.periodTicks TaskTiming.wcetTicks := by
      intro other member
      have present := (mem_toFinset_levelTasks.mp member).1
      exact ⟨(declared other present).period_pos, releases.sporadic (declared other present)⟩
    have demanded : Prefixed (taskDemand (hold (work.task job).priority)
        (levelTasks (work.task job) tasks).toFinset TaskTiming.periodTicks TaskTiming.wcetTicks)
        window := by
      unfold Prefixed
      rw [taskDemand_levelTasks once listed _ nonempty single]
      exact enough
    have finished := finished_within_level conserving _ _ _ nonempty members sporadic
      (held _ listed) demanded ((members job).mpr le_rfl)
    exact finished.mono (by omega)

/--
A schedulable set meets its published responses in every run its blocking terms cover.

Less urgent work may hold a level up, and tasks may share a priority in any order of service.
-/
theorem schedulable_bounds_held_runs (constrained : Constrained tasks) {hold : UInt8 → ℕ}
    (covers : CoversHolds tasks hold) (schedulable : (analyse tasks).isSchedulable = true)
    {ι : Type} {work : Workload ι TaskTiming} {run : Run ι} (releases : LegalReleases tasks work)
    (conserving : WorkConserving work run)
    (held : ∀ task ∈ tasks,
      HeldAtMost work TaskTiming.urgency run task.urgency (hold task.priority))
    (job : ι) :
    ∃ response slack, verdictFor (work.task job) tasks = .pass response slack
      ∧ Finished work run job (work.release job + response.toNat) := by
  obtain ⟨response, slack, passed⟩ := pass_of_isSchedulable schedulable (releases.listed job)
  exact ⟨response, slack, passed,
    finished_of_pass constrained covers schedulable releases conserving held passed⟩

/-- A bank of pollers under an alarm, each charged one job of the two others as blocking. -/
def chargedBank : List TaskTiming :=
  [⟨"alarm", 12, some 400, none, some 40, 0⟩, ⟨"pump", 4, some 1000, none, some 100, 200⟩,
    ⟨"valve", 4, some 1000, none, some 100, 200⟩, ⟨"gauge", 4, some 2000, some 900, some 100, 200⟩]

/-- One of the charged pollers. -/
def chargedPump : TaskTiming := ⟨"pump", 4, some 1000, none, some 100, 200⟩

/-- The bank has distinct names, and no deadline is longer than its period. -/
theorem chargedBank_constrained : Constrained chargedBank :=
  constrained_of_defaults (by decide) (by decide) (by decide)

/-- In the run that serves the pump last of its level, its first job meets the published response. -/
theorem chargedBank_bounds_held_run : ∃ response slack,
    verdictFor chargedPump chargedBank = .pass response slack
      ∧ Finished (synchronousWork chargedBank) (adverseRun chargedBank chargedPump)
        (⟨chargedPump, by decide⟩, 0)
        ((synchronousWork chargedBank).release (⟨chargedPump, by decide⟩, 0) + response.toNat) := by
  -- The adverse run is legal, and without blocking nothing holds a level up.
  have legal := adverseRun_preemptive chargedBank chargedPump
  exact schedulable_bounds_held_runs chargedBank_constrained
    (show CoversHolds chargedBank fun _ => 0 from by unfold CoversHolds; decide) (by decide)
    (synchronousWork_legal (by decide)) legal.conserving
    (fun task _ => legal.heldAtMost_zero task.urgency) (⟨chargedPump, by decide⟩, 0)

/-- With one job of every peer as blocking, what a task waits for is what its recurrence charges. -/
theorem responseDemand_eq_sharedDemand
    (charged : task.blocking.toNat = ((peers task tasks).map TaskTiming.wcetTicks).sum)
    (window : ℕ) : responseDemand tasks task window = sharedDemand tasks task window := by
  rw [responseDemand, sharedDemand, TaskTiming.ownDemand, charged]

/--
Charged with one job of every peer, a task's published response is exact on shared priorities.

It bounds every first-in-first-out run, and the run to the task's disadvantage attains it.
-/
theorem charged_peers_exact (constrained : Constrained tasks)
    (works : ∀ task ∈ tasks, task.wcet ≠ some 0)
    (charged : ∀ task ∈ tasks,
      task.blocking.toNat = ((peers task tasks).map TaskTiming.wcetTicks).sum)
    (schedulable : (analyse tasks).isSchedulable = true) (listed : task ∈ tasks) :
    ∃ response slack, verdictFor task tasks = .pass response slack
      ∧ IsLeast {bound | BoundsEveryRun tasks task bound} response.toNat := by
  obtain ⟨response, slack, passed⟩ := pass_of_isSchedulable schedulable listed
  refine ⟨response, slack, passed, ?_, ?_⟩
  · intro ι work run releases legal _ job ofTask
    have covers : CoversHolds tasks fun _ => 0 :=
      fun other present => (Nat.zero_add _).trans_le (charged other present).ge
    rw [← ofTask] at passed
    exact finished_of_pass constrained covers schedulable releases legal.conserving
      (fun task _ => legal.heldAtMost_zero task.urgency) passed
  -- A bound of every run bounds the adverse one, whose window holds the whole recurrence.
  · intro bound bounds
    have declared : ∀ other ∈ tasks, other.Declared :=
      fun other present => constrained.declared schedulable present
    have done := bounds _ _ _ (synchronousWork_legal declared) (adverseRun_preemptive tasks task)
      (adverseRun_firstInFirstOut tasks task) (⟨task, listed⟩, 0) rfl
    have opening : (synchronousWork tasks).release (⟨task, listed⟩, 0) = 0 := by
      simp [synchronousWork]
    rw [opening, Nat.zero_add] at done
    obtain ⟨length, below, enough⟩ := sharedDemand_le_of_adverse constrained.distinct.of_map declared
      (works task listed) listed done
    obtain ⟨_, deadline, _, _, contract, _, _⟩ := verdictFor_decided (by rw [passed]; rfl)
    obtain ⟨_, established⟩ := verdictFor_establishes constrained.distinct listed contract
      (by rw [passed]; rfl)
    rw [passed] at established
    rw [← responseDemand_eq_sharedDemand (charged task listed)] at enough
    exact (le_of_responseDemand_le established.2.2.2 enough).trans below

/-- The pump of the charged bank can be kept waiting for its whole response of 340 ticks. -/
theorem chargedPump_exact : ∃ response slack, verdictFor chargedPump chargedBank = .pass response slack
    ∧ IsLeast {bound | BoundsEveryRun chargedBank chargedPump bound} response.toNat :=
  charged_peers_exact chargedBank_constrained (by decide) (by decide) (by decide) (by decide)

end Malleus
