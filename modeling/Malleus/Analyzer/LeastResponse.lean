import Malleus.Analyzer.TaskSet
import Malleus.Analyzer.Decided
import Mathlib.Order.Iterate

/-! The recurrence over unbounded numbers: which of its solutions a verdict publishes. -/

namespace Malleus

open Realtime

/-- The work that starts a task's window: its own cost and its worst blocking. -/
def TaskTiming.ownDemand (task : TaskTiming) : ℕ :=
  task.wcetTicks + task.blocking.toNat

/-- The recurrence's right-hand side over unbounded numbers, for one task among all of them. -/
def responseDemand (tasks : List TaskTiming) (task : TaskTiming) (window : ℕ) : ℕ :=
  task.ownDemand + ((moreUrgent task tasks).map fun other =>
    window ⌈/⌉ other.periodTicks * other.wcetTicks).sum

/-- The windows that solve the recurrence. -/
def responses (tasks : List TaskTiming) (task : TaskTiming) : Set ℕ :=
  {window | task.ownDemand ≤ window ∧ responseDemand tasks task window = window}

variable {tasks : List TaskTiming} {task : TaskTiming}

/-- The right-hand side is the periodic demand of the more urgent tasks on top of the task's own. -/
theorem responseDemand_eq_periodicDemand (tasks : List TaskTiming) (task : TaskTiming) (window : ℕ) :
    responseDemand tasks task window = periodicDemand task.ownDemand
      (exactTimes ((moreUrgent task tasks).map TaskTiming.times)) window := by
  simp [responseDemand, periodicDemand, exactTimes, Function.comp_def, TaskTiming.times,
    TaskTiming.periodTicks, TaskTiming.wcetTicks]

/-- The right-hand side grows with the window. -/
theorem responseDemand_mono (tasks : List TaskTiming) (task : TaskTiming) :
    Monotone (responseDemand tasks task) := by
  -- It is a periodic demand, which grows with the window.
  intro narrow wide wider
  rw [responseDemand_eq_periodicDemand, responseDemand_eq_periodicDemand]
  exact periodicDemand_mono _ _ wider

/-- A task's own work is part of the right-hand side. -/
theorem ownDemand_le_responseDemand (tasks : List TaskTiming) (task : TaskTiming) (window : ℕ) :
    task.ownDemand ≤ responseDemand tasks task window :=
  Nat.le_add_right _ _

/-- The 64-bit value at which the search for a task's response starts. -/
def TaskTiming.searchBase (task : TaskTiming) : UInt64 :=
  (task.wcet.getD 0).saturatingAdd task.blocking

/-- The search starts at the task's own work, cut at the largest value. -/
theorem toNat_searchBase (task : TaskTiming) :
    task.searchBase.toNat = min task.ownDemand 18446744073709551615 := by
  rw [TaskTiming.searchBase, UInt64.toNat_saturatingAdd, TaskTiming.ownDemand,
    TaskTiming.wcetTicks]

/-- The demand the search computes with is no more than the exact one. -/
theorem exactDemand_le_responseDemand (tasks : List TaskTiming) (task : TaskTiming) (window : ℕ) :
    exactDemand task.searchBase ((moreUrgent task tasks).map TaskTiming.times) window
      ≤ responseDemand tasks task window := by
  -- Only the start of the search can have been cut.
  have cut := toNat_searchBase task
  rw [responseDemand_eq_periodicDemand, exactDemand, periodicDemand, periodicDemand]
  omega

/-- A start that was not cut makes both demands the same. -/
theorem exactDemand_eq_responseDemand (fits : task.ownDemand ≤ 18446744073709551615)
    (tasks : List TaskTiming) (window : ℕ) :
    exactDemand task.searchBase ((moreUrgent task tasks).map TaskTiming.times) window
      = responseDemand tasks task window := by
  have cut := toNat_searchBase task
  rw [responseDemand_eq_periodicDemand, exactDemand, periodicDemand, periodicDemand]
  omega

/-- A numeric verdict is what the search over the more urgent tasks answers. -/
theorem verdictFor_eq_search (distinct : (tasks.map TaskTiming.name).Nodup) (listed : task ∈ tasks)
    {deadline : UInt64} (contract : task.effectiveDeadline = some deadline)
    (decided : (verdictFor task tasks).isDecided = true) :
    PositivePeriods ((moreUrgent task tasks).map TaskTiming.times) ∧
      verdictFor task tasks = recurrence task.searchBase deadline
        ((moreUrgent task tasks).map TaskTiming.times) maxIterations task.searchBase := by
  obtain ⟨wcet, given, cost, _, known, declared, searched⟩ := verdictFor_decided decided
  -- The deadline and the interferers of the search are the declared ones.
  obtain rfl : given = deadline := Option.some.inj (known.symm.trans contract)
  rw [preempters_eq_moreUrgent distinct listed] at declared searched
  have base : task.searchBase = wcet.saturatingAdd task.blocking := by
    rw [TaskTiming.searchBase, cost, Option.getD_some]
  exact ⟨positivePeriods_of_declared declared, base ▸ searched⟩

/-- What a published number says about the exact demand of the search. -/
theorem verdictFor_establishes (distinct : (tasks.map TaskTiming.name).Nodup)
    (listed : task ∈ tasks) {deadline : UInt64}
    (contract : task.effectiveDeadline = some deadline)
    (decided : (verdictFor task tasks).isDecided = true) :
    PositivePeriods ((moreUrgent task tasks).map TaskTiming.times) ∧
      Established task.searchBase deadline ((moreUrgent task tasks).map TaskTiming.times)
        (verdictFor task tasks) := by
  obtain ⟨positive, searched⟩ := verdictFor_eq_search distinct listed contract decided
  exact ⟨positive, searched ▸ recurrence_start _ _ positive _⟩

/-- What no window short of the search's own demand undercuts, no window short of the exact one does. -/
theorem le_of_responseDemand_le {response : UInt64}
    (least : ∀ window,
      Prefixed (exactDemand task.searchBase ((moreUrgent task tasks).map TaskTiming.times)) window →
        response.toNat ≤ window)
    {window : ℕ} (enough : responseDemand tasks task window ≤ window) :
    response.toNat ≤ window :=
  -- The computed demand is no more than the exact one, so it fits in the window too.
  least window ((exactDemand_le_responseDemand tasks task window).trans enough)

/-- A response below the top of the range solves the recurrence without any clipping. -/
theorem responseDemand_eq_of_pass (distinct : (tasks.map TaskTiming.name).Nodup)
    (listed : task ∈ tasks) {deadline : UInt64}
    (contract : task.effectiveDeadline = some deadline) {response slack : UInt64}
    (passed : verdictFor task tasks = .pass response slack)
    (unclipped : response.toNat < 18446744073709551615) :
    responseDemand tasks task response.toNat = response.toNat := by
  obtain ⟨positive, established⟩ :=
    verdictFor_establishes distinct listed contract (by rw [passed]; rfl)
  rw [passed] at established
  have fixed := established.fixed positive unclipped
  -- The start is part of the response, so it was not cut either.
  have start := (base_le_periodicDemand _ _ _).trans_eq fixed
  have cut := toNat_searchBase task
  rw [← exactDemand_eq_responseDemand (by omega), fixed]

/--
A verdict under a representable deadline publishes the least solution of the recurrence, or rules out
every solution up to the deadline.

Neither the clipped arithmetic nor the early exit changes that.
-/
theorem verdictFor_leastFixed (distinct : (tasks.map TaskTiming.name).Nodup) (listed : task ∈ tasks)
    {deadline : UInt64} (contract : task.effectiveDeadline = some deadline)
    (representable : deadline.toNat < 18446744073709551615) :
    (∀ response slack, verdictFor task tasks = .pass response slack →
      IsLeast (responses tasks task) response.toNat ∧ response.toNat ≤ deadline.toNat ∧
        slack.toNat = deadline.toNat - response.toNat) ∧
    (∀ response overrun, verdictFor task tasks = .fail response overrun →
      ∀ window ≤ deadline.toNat, window ∉ responses tasks task) := by
  constructor
  · intro response slack passed
    obtain ⟨_, established⟩ :=
      verdictFor_establishes distinct listed contract (by rw [passed]; rfl)
    rw [passed] at established
    obtain ⟨_, within, margin, least⟩ := established
    have bound : response.toNat ≤ deadline.toNat := UInt64.le_iff_toNat_le.mp within
    have fixed := responseDemand_eq_of_pass distinct listed contract passed (by omega)
    refine ⟨⟨⟨?_, fixed⟩, ?_⟩, bound, ?_⟩
    · exact (ownDemand_le_responseDemand tasks task _).trans_eq fixed
    -- Every solution holds its own demand, so the search cannot have passed it.
    · intro window solution
      exact le_of_responseDemand_le least solution.2.le
    · rw [margin, UInt64.toNat_sub_of_le _ _ within]
  · intro response overrun failed window early solution
    obtain ⟨_, established⟩ :=
      verdictFor_establishes distinct listed contract (by rw [failed]; rfl)
    rw [failed] at established
    obtain ⟨late, _, least⟩ := established
    -- A solution up to the deadline would bound the number that is past it.
    have below := le_of_responseDemand_le least solution.2.le
    have past := UInt64.lt_iff_toNat_lt.mp late
    omega

/-- A fast interferer above a task that it delays twice over. -/
def fastOverSlow : List TaskTiming :=
  [⟨"fast", 9, some 200, some 200, some 100, 0⟩, ⟨"slow", 2, some 1000, some 1000, some 300, 0⟩]

/-- The delayed task. -/
def slowTask : TaskTiming := ⟨"slow", 2, some 1000, some 1000, some 300, 0⟩

/-- Three activations of the fast task fit in the slow one's least window of 600 ticks. -/
theorem slowTask_leastFixed :
    IsLeast (responses fastOverSlow slowTask) 600 ∧ 600 ≤ 1000 ∧ 400 = 1000 - 600 := by
  have contract : slowTask.effectiveDeadline = some 1000 := by decide
  have passed : verdictFor slowTask fastOverSlow = .pass 600 400 := by decide
  exact (verdictFor_leastFixed (by decide) (by decide) contract (by decide)).1 600 400 passed

/-- A failure publishes the least solution of the recurrence, and its distance to the deadline. -/
def PublishesWorstCase (tasks : List TaskTiming) (task : TaskTiming)
    (deadline response overrun : UInt64) : Prop :=
  ∀ worst ≤ 18446744073709551615, IsLeast (responses tasks task) worst →
    response.toNat = worst ∧ overrun.toNat = worst - deadline.toNat

/-- No more urgent task that costs time is activated again between two windows. -/
def Quiet (tasks : List TaskTiming) (task : TaskTiming) (window later : ℕ) : Prop :=
  ∀ other ∈ moreUrgent task tasks, other.wcetTicks ≠ 0 →
    window ⌈/⌉ other.periodTicks = later ⌈/⌉ other.periodTicks

/-- What a window of the deadline holds beyond the deadline is served before anything else arrives. -/
def QuietPastDeadline (tasks : List TaskTiming) (task : TaskTiming) (deadline : UInt64) : Prop :=
  ∀ window, task.ownDemand ≤ window → window ≤ max task.ownDemand deadline.toNat →
    deadline.toNat < responseDemand tasks task window →
      Quiet tasks task window (responseDemand tasks task window)

/-- No 64-bit window solves the recurrence. -/
def Unsolvable (tasks : List TaskTiming) (task : TaskTiming) : Prop :=
  ∀ window ≤ 18446744073709551615, window ∉ responses tasks task

/-- Two windows have the same demand exactly when nothing that costs time arrives between them. -/
theorem responseDemand_eq_iff_quiet {window later : ℕ} (wider : window ≤ later) :
    responseDemand tasks task window = responseDemand tasks task later ↔
      Quiet tasks task window later := by
  -- The costly interferers of the periodic demand are the more urgent tasks with a cost.
  rw [responseDemand_eq_periodicDemand, responseDemand_eq_periodicDemand,
    periodicDemand_eq_iff wider]
  simp [Quiet, exactTimes, TaskTiming.times, TaskTiming.periodTicks, TaskTiming.wcetTicks]

/-- As long as a solution fits in 64 bits, the clipped iterates of the search are the exact ones. -/
theorem clipped_iterate_eq {worst : ℕ} (fits : worst ≤ 18446744073709551615)
    (solution : worst ∈ responses tasks task) (rounds : ℕ) :
    (clippedDemand task.searchBase ((moreUrgent task tasks).map TaskTiming.times))^[rounds]
        task.searchBase.toNat
      = (responseDemand tasks task)^[rounds] task.ownDemand := by
  have start : task.searchBase.toNat = task.ownDemand := by
    rw [toNat_searchBase]
    have := solution.1
    omega
  induction rounds with
  | zero => exact start
  | succ rounds ih =>
    -- The next exact iterate is still no more than the solution, so nothing is cut from it.
    have bounded := Prefixed.iterate_le (responseDemand_mono tasks task) solution.2.le solution.1
      (rounds + 1)
    rw [Function.iterate_succ_apply'] at bounded ⊢
    rw [Function.iterate_succ_apply', ih, clippedDemand,
      exactDemand_eq_responseDemand (solution.1.trans fits)]
    omega

/-- The iterates of the recurrence never come back down. -/
theorem responseDemand_iterate_mono (tasks : List TaskTiming) (task : TaskTiming) :
    Monotone fun round => (responseDemand tasks task)^[round] task.ownDemand :=
  (responseDemand_mono tasks task).monotone_iterate_of_le_map
    (ownDemand_le_responseDemand tasks task _)

/-- A solution that fits has a least one below it. -/
theorem exists_isLeast_responses {window : ℕ} (solution : window ∈ responses tasks task) :
    ∃ worst ≤ window, IsLeast (responses tasks task) worst := by
  obtain ⟨worst, below, fixed, least⟩ :=
    exists_least_fixed (responseDemand_mono tasks task) solution.2.le
  -- A fixed point contains the task's own work.
  exact ⟨worst, below, ⟨(ownDemand_le_responseDemand tasks task _).trans_eq fixed, fixed⟩,
    fun other otherSolution => least other otherSolution.2.le⟩

/-- The windows the search looks at before it fails start at the task's work and end by the deadline. -/
theorem exists_exit {worst : ℕ} (fits : worst ≤ 18446744073709551615)
    (solution : worst ∈ responses tasks task) {deadline response overrun : UInt64}
    (positive : PositivePeriods ((moreUrgent task tasks).map TaskTiming.times))
    (failed : recurrence task.searchBase deadline ((moreUrgent task tasks).map TaskTiming.times)
      maxIterations task.searchBase = .fail response overrun) :
    ∃ window, task.ownDemand ≤ window ∧ window ≤ max task.ownDemand deadline.toNat
      ∧ response.toNat = responseDemand tasks task window ∧ response.toNat ≤ worst := by
  -- The published number is the first iterate past the deadline, and no iterate has been clipped.
  obtain ⟨round, found, before⟩ := recurrence_eq_fail positive _ failed
  rw [clipped_iterate_eq fits solution] at found
  have capped := Prefixed.iterate_le (responseDemand_mono tasks task) solution.2.le solution.1
    (round + 1)
  refine ⟨(responseDemand tasks task)^[round] task.ownDemand,
    responseDemand_iterate_mono tasks task (Nat.zero_le round), ?_, ?_, found.trans_le capped⟩
  -- The window before it is the start, or an iterate that was still within the deadline.
  · cases round with
    | zero => exact le_max_left _ _
    | succ earlier =>
      have still := before earlier (Nat.lt_succ_self earlier)
      rw [clipped_iterate_eq fits solution] at still
      exact still.trans (le_max_right _ _)
  · rw [found, Function.iterate_succ_apply']

/--
A failure publishes the real numbers where nothing arrives between the deadline and the response.

The early exit answers with the first demand past the deadline, whatever arrives before it is served.
So the numbers are real if no window up to the deadline is followed by another arrival, and only if
the longest of them is not.
-/
theorem fail_publishes_of_quiet (distinct : (tasks.map TaskTiming.name).Nodup)
    (listed : task ∈ tasks) {deadline : UInt64} (contract : task.effectiveDeadline = some deadline)
    {response overrun : UInt64} (failed : verdictFor task tasks = .fail response overrun) :
    (Unsolvable tasks task ∨ QuietPastDeadline tasks task deadline →
      PublishesWorstCase tasks task deadline response overrun) ∧
    (PublishesWorstCase tasks task deadline response overrun →
      Unsolvable tasks task ∨ Quiet tasks task (max task.ownDemand deadline.toNat)
        (responseDemand tasks task (max task.ownDemand deadline.toNat))) := by
  have decided : (verdictFor task tasks).isDecided = true := by rw [failed]; rfl
  obtain ⟨positive, searched⟩ := verdictFor_eq_search distinct listed contract decided
  obtain ⟨_, established⟩ := verdictFor_establishes distinct listed contract decided
  rw [failed] at searched established
  obtain ⟨late, margin, _⟩ := established
  have past := UInt64.lt_iff_toNat_lt.mp late
  have distance : overrun.toNat = response.toNat - deadline.toNat := by
    rw [margin, UInt64.toNat_sub_of_le _ _ (UInt64.le_of_lt late)]
  constructor
  · intro condition worst fits least
    have quiet := condition.resolve_left fun unsolvable => unsolvable worst fits least.1
    obtain ⟨window, started, within, found, below⟩ := exists_exit fits least.1 positive searched.symm
    -- Nothing arrives while the demand of the last window is served, so that demand is a solution.
    have still := quiet window started within (found ▸ past)
    have rising : window ≤ responseDemand tasks task window := by
      rcases le_max_iff.mp within with own | early
      · exact own.trans (ownDemand_le_responseDemand tasks task window)
      · omega
    have fixed := (responseDemand_eq_iff_quiet rising).mpr still
    have solution : response.toNat ∈ responses tasks task := by
      rw [found]
      exact ⟨ownDemand_le_responseDemand tasks task window, fixed.symm⟩
    -- The least solution is no later, and the search never passes it.
    have first := least.2 solution
    omega
  · intro publishes
    by_cases unsolvable : Unsolvable tasks task
    · exact .inl unsolvable
    right
    obtain ⟨top, small, solvable⟩ : ∃ top ≤ 18446744073709551615, top ∈ responses tasks task := by
      simpa [Unsolvable] using unsolvable
    obtain ⟨worst, below, least⟩ := exists_isLeast_responses solvable
    have fits := below.trans small
    have named := (publishes worst fits least).1
    obtain ⟨window, _, within, found, _⟩ := exists_exit fits least.1 positive searched.symm
    -- The longest window lies between the last one looked at and the least solution.
    have inside : max task.ownDemand deadline.toNat ≤ worst := max_le least.1.1 (by omega)
    have above := responseDemand_mono tasks task within
    have capped := (responseDemand_mono tasks task inside).trans_eq least.1.2
    have reached : responseDemand tasks task (max task.ownDemand deadline.toNat) = worst := by omega
    rw [reached, ← responseDemand_eq_iff_quiet inside, reached, least.1.2]

/-- A pump that misses its deadline to a valve above it, which is activated once. -/
def crowdedPump : List TaskTiming :=
  [⟨"valve", 9, some 10, some 10, some 4, 0⟩, ⟨"pump", 3, some 100, some 8, some 5, 0⟩]

/-- The task that fails. -/
def latePump : TaskTiming := ⟨"pump", 3, some 100, some 8, some 5, 0⟩

/-- The valve is not activated again in the pump's 9 ticks, so the failure carries them. -/
theorem latePump_publishes : PublishesWorstCase crowdedPump latePump 8 9 1 := by
  have contract : latePump.effectiveDeadline = some 8 := by decide
  have failed : verdictFor latePump crowdedPump = .fail 9 1 := by decide
  refine (fail_publishes_of_quiet (by decide) (by decide) contract failed).1 (.inr ?_)
  -- Windows of 5 to 8 ticks all hold one activation of the valve.
  intro window started within _
  have windows : ∀ window ≤ 8, 5 ≤ window → ∀ other ∈ moreUrgent latePump crowdedPump,
      other.wcetTicks ≠ 0 → window ⌈/⌉ other.periodTicks
        = responseDemand crowdedPump latePump window ⌈/⌉ other.periodTicks := by decide
  exact windows window within started

/-- A log that misses its deadline to a controller above it, once more than the search looks. -/
def crowdedLog : List TaskTiming :=
  [⟨"control", 9, some 10, some 10, some 4, 0⟩, ⟨"log", 3, some 100, some 8, some 7, 0⟩]

/-- The task that fails. -/
def logTask : TaskTiming := ⟨"log", 3, some 100, some 8, some 7, 0⟩

/-- The failure publishes 11 ticks, which a second activation of the controller turns into 15. -/
theorem logTask_understated :
    (crowdedLog.map TaskTiming.name).Nodup ∧ logTask ∈ crowdedLog
      ∧ logTask.effectiveDeadline = some 8
      ∧ verdictFor logTask crowdedLog = .fail 11 3
      ∧ IsLeast (responses crowdedLog logTask) 15
      ∧ ¬PublishesWorstCase crowdedLog logTask 8 11 3 := by
  have least : IsLeast (responses crowdedLog logTask) 15 := by
    refine ⟨⟨by decide, by decide⟩, ?_⟩
    intro window solution
    -- No shorter window solves the recurrence.
    by_contra short
    have none_ : ∀ window < 15, ¬(logTask.ownDemand ≤ window
      ∧ responseDemand crowdedLog logTask window = window) := by decide
    exact none_ window (by omega) solution
  refine ⟨by decide, by decide, by decide, by decide, least, ?_⟩
  intro publishes
  exact absurd (publishes 15 (by omega) least).1 (by decide)

/-- Some window of 64-bit length holds all the work released in it. -/
def FitsSomeWindow (tasks : List TaskTiming) (task : TaskTiming) : Prop :=
  ∃ window ≤ 18446744073709551615, responseDemand tasks task window ≤ window

/--
Under the largest deadline a pass is free of clipping exactly when some 64-bit window holds its demand.

Otherwise the largest value is a fixed point of the clipped sum alone.
-/
theorem pass_unclipped_iff (distinct : (tasks.map TaskTiming.name).Nodup) (listed : task ∈ tasks)
    (contract : task.effectiveDeadline = some UInt64.MAX) {response slack : UInt64}
    (passed : verdictFor task tasks = .pass response slack) :
    responseDemand tasks task response.toNat = response.toNat ↔ FitsSomeWindow tasks task := by
  constructor
  · intro fixed
    exact ⟨response.toNat, response.toNat_le_max, fixed.le⟩
  · intro fits
    obtain ⟨window, small, enough⟩ := fits
    by_cases unclipped : response.toNat < 18446744073709551615
    · exact responseDemand_eq_of_pass distinct listed contract passed unclipped
    -- The search ran to the top, which the window then reaches, so no window below it has room.
    · obtain ⟨_, established⟩ :=
        verdictFor_establishes distinct listed contract (by rw [passed]; rfl)
      rw [passed] at established
      obtain ⟨_, _, _, least⟩ := established
      have bound := response.toNat_le_max
      obtain ⟨worst, below, fixed, _⟩ :=
        exists_least_fixed (responseDemand_mono tasks task) enough
      have reached := le_of_responseDemand_le least fixed.le
      have top : worst = response.toNat := by omega
      exact top ▸ fixed

/-- A task whose cost is the clamp value, and that nothing delays. -/
def endlessTask : TaskTiming := ⟨"endless", 5, some 1000, some UInt64.MAX, some UInt64.MAX, 0⟩

/-- Alone on the processor the endless task needs exactly the largest value. -/
theorem endlessTask_unclipped :
    responseDemand [endlessTask] endlessTask 18446744073709551615 = 18446744073709551615 := by
  have passed : verdictFor endlessTask [endlessTask] = .pass UInt64.MAX 0 := by decide
  have fits : FitsSomeWindow [endlessTask] endlessTask := ⟨18446744073709551615, le_rfl, le_rfl⟩
  exact (pass_unclipped_iff (by decide) (by decide) (by decide) passed).mpr fits

/-- The same task, blocked for one tick more. -/
def clippedTask : TaskTiming := { endlessTask with blocking := 1 }

/-- The blocked task passes although its work exceeds every 64-bit deadline. -/
theorem clippedTask_passes :
    ([clippedTask].map TaskTiming.name).Nodup
      ∧ clippedTask.effectiveDeadline = some UInt64.MAX
      ∧ verdictFor clippedTask [clippedTask] = .pass UInt64.MAX 0
      ∧ responseDemand [clippedTask] clippedTask UInt64.MAX.toNat = 18446744073709551616
      ∧ responseDemand [clippedTask] clippedTask UInt64.MAX.toNat ≠ UInt64.MAX.toNat := by
  have demand : responseDemand [clippedTask] clippedTask UInt64.MAX.toNat = 18446744073709551616 :=
    rfl
  exact ⟨by decide, by decide, by decide, demand, by rw [demand]; decide⟩

end Malleus
