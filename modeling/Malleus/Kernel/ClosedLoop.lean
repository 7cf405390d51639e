import Malleus.Analyzer.Blocking
import Malleus.Kernel.Period
import Mathlib.Order.Lattice.Nat

/-! Periodic loops in closed loop: each completion decides the next release, and the analysis the rest. -/

namespace Malleus

open Realtime

/-- The schedule a task's loop holds before its activation of some index. -/
def loopPeriod (start : TaskTiming → Instant) (completed : TaskTiming → ℕ → Instant)
    (task : TaskTiming) (index : ℕ) : Period :=
  (Period.startingAt (start task) (task.period.getD 0)).after
    ((List.range index).map (completed task))

/-- An activation of a listed task, by its index among as many as are considered. -/
abbrev Activation (tasks : List TaskTiming) (count : TaskTiming → ℕ) : Type :=
  (task : {task // task ∈ tasks}) × Fin (count task.1)

/--
Every task waits for its next activation, works, and advances its schedule when it is done.

A job that another one follows is completed, at the first instant from its release when it is finished.
-/
structure ClosedLoop (tasks : List TaskTiming) (count : TaskTiming → ℕ)
    (start : TaskTiming → Instant) (completed : TaskTiming → ℕ → Instant)
    (work : Workload (Activation tasks count) TaskTiming) (run : Run (Activation tasks count)) :
    Prop where
  task : ∀ job, work.task job = job.1
  released : ∀ job, work.release job
    = (loopPeriod start completed job.1 job.2).nextActivation.ticks.toNat
  budget : ∀ job, work.cost job ≤ job.1.1.wcetTicks
  completes : ∀ job, job.2.1 + 1 < count job.1 →
    IsLeast {instant | work.release job ≤ instant ∧ Finished work run job instant}
      (completed job.1 job.2).ticks.toNat

variable {tasks : List TaskTiming} {count : TaskTiming → ℕ} {start : TaskTiming → Instant}
  {completed : TaskTiming → ℕ → Instant}

/-- The completions a loop has seen, without the end of the timeline. -/
def loopSchedule (start : TaskTiming → Instant) (completed : TaskTiming → ℕ → Instant)
    (task : TaskTiming) (index : ℕ) : Schedule :=
  Period.unbounded (start task) (task.period.getD 0) ((List.range index).map (completed task))

/-- One more completion advances the schedule once more. -/
theorem loopSchedule_succ (task : TaskTiming) (index : ℕ) :
    loopSchedule start completed task (index + 1)
      = (loopSchedule start completed task index).advance task.periodTicks
        (completed task index).ticks.toNat := by
  simp only [loopSchedule, Period.unbounded, Period.tickCounts, List.range_succ, List.map_append,
    List.map_cons, List.map_nil, Schedule.after_append]
  rfl

/-- A loop's schedule is where its period is, as far as the timeline reaches. -/
theorem loopPeriod_follows {task : TaskTiming} (declared : task.Declared) (index : ℕ) :
    Period.Follows (task.period.getD 0) (loopSchedule start completed task index)
      (loopPeriod start completed task index) := by
  have positive : task.period.getD 0 ≠ 0 := UInt64.toNat_pos_iff.mp declared.period_pos
  exact Period.after_follows (start task) positive _

/-- Later activations of a schedule are at least as many intervals later. -/
theorem loopSchedule_spaced (task : TaskTiming) (index steps : ℕ) :
    (loopSchedule start completed task index).target + steps * task.periodTicks
      ≤ (loopSchedule start completed task (index + steps)).target := by
  -- Each completion moves the target by an interval or more.
  induction steps with
  | zero => simp
  | succ steps ih =>
    rw [← Nat.add_assoc, loopSchedule_succ, Schedule.target_advance, catchUp, gridCeil, Nat.succ_mul]
    omega

/-- A later activation of a schedule is at least one interval later. -/
theorem loopSchedule_le (task : TaskTiming) {index rank : ℕ} (before : index < rank) :
    (loopSchedule start completed task index).target + task.periodTicks
      ≤ (loopSchedule start completed task rank).target := by
  -- The one index is a number of steps after the other.
  have steps : (loopSchedule start completed task index).target + (rank - index) * task.periodTicks
      ≤ (loopSchedule start completed task (index + (rank - index))).target :=
    loopSchedule_spaced task index (rank - index)
  rw [Nat.add_sub_cancel' before.le] at steps
  have one := Nat.mul_le_mul_right task.periodTicks (show 1 ≤ rank - index by omega)
  omega

/-- While every completion is before the slot after its own, no slot is passed over. -/
theorem loopSchedule_onTime {task : TaskTiming} {index : ℕ}
    (inTime : ∀ earlier < index, (completed task earlier).ticks.toNat
      ≤ (loopSchedule start completed task earlier).target + task.periodTicks) :
    loopSchedule start completed task index
      = ⟨(start task).ticks.toNat + (index + 1) * task.periodTicks, 0⟩ := by
  induction index with
  | zero =>
    rw [Nat.zero_add, Nat.one_mul]
    rfl
  | succ index ih =>
    have here := ih fun earlier below => inTime earlier (by omega)
    have late := inTime index (by omega)
    rw [here] at late
    simp only at late
    -- A completion that is not late skips no slot.
    have none_ : (completed task index).ticks.toNat
        - ((start task).ticks.toNat + (index + 1) * task.periodTicks + task.periodTicks) = 0 := by
      omega
    rw [loopSchedule_succ, here, Schedule.advance]
    simp only [none_, zero_ceilDiv, Nat.zero_mul, Nat.add_zero]
    rw [Nat.succ_mul (index + 1), Nat.add_assoc]

/-- While every completion is before the slot after its own, the schedule is on its grid. -/
theorem loopSchedule_onGrid {task : TaskTiming} {index : ℕ}
    (inTime : ∀ earlier < index, (completed task earlier).ticks.toNat
      ≤ (start task).ticks.toNat + (earlier + 1) * task.periodTicks + task.periodTicks) :
    loopSchedule start completed task index
      = ⟨(start task).ticks.toNat + (index + 1) * task.periodTicks, 0⟩ := by
  induction index using Nat.strong_induction_on with
  | _ index ih =>
    apply loopSchedule_onTime
    intro earlier below
    -- The schedule was on the grid at every earlier completion.
    rw [ih earlier below fun before sooner => inTime before (sooner.trans below)]
    exact inTime earlier below

variable {work : Workload (Activation tasks count) TaskTiming} {run : Run (Activation tasks count)}

/-- On the timeline, a job is released at the target of its loop's schedule. -/
theorem ClosedLoop.release_eq (loop : ClosedLoop tasks count start completed work run)
    (declared : ∀ task ∈ tasks, task.Declared)
    (inside : ∀ job, work.release job < 18446744073709551615)
    (job : Activation tasks count) :
    work.release job = (loopSchedule start completed job.1 job.2).target := by
  have follows : Period.Follows _ (loopSchedule start completed job.1 job.2)
      (loopPeriod start completed job.1 job.2) := loopPeriod_follows (declared _ job.1.2) job.2
  -- The loop follows the unbounded schedule, cut at the end of the timeline.
  have clipped := follows.clipped
  have before := inside job
  rw [loop.released, Period.nextActivation, clipped] at before ⊢
  omega

/-- The releases of closed loops respect every declaration. -/
theorem ClosedLoop.legal (loop : ClosedLoop tasks count start completed work run)
    (declared : ∀ task ∈ tasks, task.Declared)
    (inside : ∀ job, work.release job < 18446744073709551615) : LegalReleases tasks work where
  listed := fun job => loop.task job ▸ job.1.2
  spaced := by
    intro job other period sameTask different known
    rw [loop.task] at known
    rw [loop.task, loop.task] at sameTask
    have interval : job.1.1.periodTicks = period.toNat := by
      rw [TaskTiming.periodTicks, known, Option.getD_some]
    -- Two activations of one task have different indices.
    obtain ⟨⟨task, listed⟩, index⟩ := job
    obtain ⟨⟨rival, present⟩, rank⟩ := other
    obtain rfl : task = rival := sameTask
    have first : work.release ⟨⟨task, listed⟩, index⟩
        = (loopSchedule start completed task index).target := loop.release_eq declared inside _
    have second : work.release ⟨⟨task, present⟩, rank⟩
        = (loopSchedule start completed task rank).target := loop.release_eq declared inside _
    rw [first, second, ← interval]
    have apart : index.1 ≠ rank.1 := by
      intro same
      exact different (by rw [Fin.ext same])
    rcases Nat.lt_or_gt_of_ne apart with before | after_
    · exact .inl (loopSchedule_le task before)
    · exact .inr (loopSchedule_le task after_)
  bounded := by
    intro job wcet known
    rw [loop.task] at known
    have cost := loop.budget job
    rw [TaskTiming.wcetTicks, known, Option.getD_some] at cost
    exact cost

/-- A published response is within the period. -/
theorem Constrained.response_le_period (constrained : Constrained tasks) {task : TaskTiming}
    (listed : task ∈ tasks) {response slack : UInt64}
    (passed : verdictFor task tasks = .pass response slack) :
    response.toNat ≤ task.periodTicks :=
  (solves_of_pass constrained.distinct constrained.periods constrained.deadlines listed passed).2.1

/-- Where every job meets its published response, a loop loses no slot of its grid. -/
theorem ClosedLoop.schedule_eq (loop : ClosedLoop tasks count start completed work run)
    (constrained : Constrained tasks) (declared : ∀ task ∈ tasks, task.Declared)
    (inside : ∀ job, work.release job < 18446744073709551615)
    (meets : ∀ job, ∃ response slack, verdictFor job.1 tasks = .pass response slack
      ∧ Finished work run job (work.release job + response.toNat))
    (job : Activation tasks count) :
    loopSchedule start completed job.1 job.2
      = ⟨(start job.1).ticks.toNat + (job.2 + 1) * job.1.1.periodTicks, 0⟩ := by
  apply loopSchedule_onTime
  intro earlier below
  -- The job before an activation was completed, and not later than its response.
  obtain ⟨response, slack, passed, done⟩ := meets ⟨job.1, earlier, below.trans job.2.2⟩
  have least := loop.completes ⟨job.1, earlier, below.trans job.2.2⟩
    (Nat.lt_of_le_of_lt below job.2.2)
  have within := constrained.response_le_period job.1.2 passed
  have reached := loop.release_eq declared inside ⟨job.1, earlier, below.trans job.2.2⟩
  have atMost := least.2 ⟨Nat.le_add_right _ _, done⟩
  simp only at reached atMost
  omega

/-- Every job of a schedulable set's loops meets its published response. -/
theorem ClosedLoop.meets (loop : ClosedLoop tasks count start completed work run)
    (constrained : Constrained tasks) {hold : UInt8 → ℕ} (covers : CoversHolds tasks hold)
    (schedulable : (analyse tasks).isSchedulable = true)
    (inside : ∀ job, work.release job < 18446744073709551615)
    (conserving : WorkConserving work run)
    (held : ∀ task ∈ tasks,
      HeldAtMost work TaskTiming.urgency run task.urgency (hold task.priority))
    (job : Activation tasks count) :
    ∃ response slack, verdictFor job.1 tasks = .pass response slack
      ∧ Finished work run job (work.release job + response.toNat) := by
  have declared : ∀ task ∈ tasks, task.Declared :=
    fun task listed => constrained.declared schedulable listed
  obtain ⟨response, slack, passed⟩ := pass_of_isSchedulable schedulable job.1.2
  refine ⟨response, slack, passed, ?_⟩
  -- The loops release legally, so the bound of the analysis covers them.
  rw [← loop.task job] at passed
  exact finished_of_pass constrained covers schedulable (loop.legal declared inside) conserving held
    passed

/-- A loop that loses no slot releases its jobs on the grid. -/
theorem ClosedLoop.release_onGrid (loop : ClosedLoop tasks count start completed work run)
    (constrained : Constrained tasks) (declared : ∀ task ∈ tasks, task.Declared)
    (inside : ∀ job, work.release job < 18446744073709551615)
    (meets : ∀ job, ∃ response slack, verdictFor job.1 tasks = .pass response slack
      ∧ Finished work run job (work.release job + response.toNat))
    (job : Activation tasks count) :
    work.release job = (start job.1).ticks.toNat + (job.2 + 1) * job.1.1.periodTicks := by
  rw [loop.release_eq declared inside, loop.schedule_eq constrained declared inside meets job]

/--
Loops of a schedulable set stay on their grids for as long as the timeline lasts.

The schedule counts no missed activation, every release is the next slot of the grid, and every job
meets the published response.
-/
theorem schedulable_loops_keep_grid (constrained : Constrained tasks) {hold : UInt8 → ℕ}
    (covers : CoversHolds tasks hold) (schedulable : (analyse tasks).isSchedulable = true)
    (loop : ClosedLoop tasks count start completed work run)
    (inside : ∀ job, work.release job < 18446744073709551615)
    (conserving : WorkConserving work run)
    (held : ∀ task ∈ tasks,
      HeldAtMost work TaskTiming.urgency run task.urgency (hold task.priority))
    (job : Activation tasks count) :
    (loopPeriod start completed job.1 job.2).missedActivations = 0
      ∧ work.release job = (start job.1).ticks.toNat + (job.2 + 1) * job.1.1.periodTicks
      ∧ ∃ response slack, verdictFor job.1 tasks = .pass response slack
        ∧ Finished work run job (work.release job + response.toNat) := by
  have declared : ∀ task ∈ tasks, task.Declared :=
    fun task listed => constrained.declared schedulable listed
  -- With every job done within its period, no slot is passed over.
  have meets := loop.meets constrained covers schedulable inside conserving held
  refine ⟨?_, loop.release_onGrid constrained declared inside meets job, meets job⟩
  have follows : Period.Follows _ (loopSchedule start completed job.1 job.2)
      (loopPeriod start completed job.1 job.2) := loopPeriod_follows (declared _ job.1.2) job.2
  have counted := follows.counted
  rw [loop.schedule_eq constrained declared inside meets job, Nat.zero_min] at counted
  exact UInt32.toNat_inj.mp counted

section Existence

/-- Every activation on its slot, each job with its full cost. -/
def slottedWork (tasks : List TaskTiming) (count : TaskTiming → ℕ) (start : TaskTiming → Instant) :
    Workload (Activation tasks count) TaskTiming where
  task job := job.1
  release job := (start job.1).ticks.toNat + (job.2 + 1) * job.1.1.periodTicks
  cost job := job.1.1.wcetTicks

/-- Urgent jobs first, then earlier ones. -/
def slottedRank (tasks : List TaskTiming) (count : TaskTiming → ℕ)
    (job : Activation tasks count) : ℕ ×ₗ ℕ :=
  toLex (255 - job.1.1.urgency, job.2.1)

/-- The run that serves the slotted work by urgency. -/
noncomputable def slottedRun (tasks : List TaskTiming) (count : TaskTiming → ℕ)
    (start : TaskTiming → Instant) : Run (Activation tasks count) :=
  greedy (slottedWork tasks count start) (slottedRank tasks count)

/-- The slotted run is a fixed-priority run. -/
theorem slottedRun_preemptive (tasks : List TaskTiming) (count : TaskTiming → ℕ)
    (start : TaskTiming → Instant) :
    Preemptive (slottedWork tasks count start) TaskTiming.urgency (slottedRun tasks count start) := by
  apply (greedy_ranked _ _).preemptive
  -- The rank puts the more urgent task first, whatever the index of the job.
  intro job other urgent
  have urgent : job.1.1.urgency < other.1.1.urgency := urgent
  have bound : other.1.1.urgency < 256 := other.1.1.priority.toNat_lt
  rw [slottedRank, slottedRank, Prod.Lex.toLex_lt_toLex]
  exact .inl (by simp only; omega)

/-- The first instant at which an activation of the slotted run is done. -/
noncomputable def slottedCompletion (tasks : List TaskTiming) (count : TaskTiming → ℕ)
    (start : TaskTiming → Instant) (task : TaskTiming) (index : ℕ) : Instant :=
  open scoped Classical in
  if member : task ∈ tasks ∧ index < count task then
    let job : Activation tasks count := ⟨⟨task, member.1⟩, index, member.2⟩
    ⟨.ofNat (sInf {instant | (slottedWork tasks count start).release job ≤ instant
      ∧ Finished (slottedWork tasks count start) (slottedRun tasks count start) job instant})⟩
  else ⟨0⟩

/-- The slotted work respects every declaration. -/
theorem slottedWork_legal (tasks : List TaskTiming) (count : TaskTiming → ℕ)
    (start : TaskTiming → Instant) :
    LegalReleases tasks (slottedWork tasks count start) where
  listed := fun job => job.1.2
  spaced := by
    intro job other period sameTask different known
    obtain ⟨⟨task, listed⟩, index⟩ := job
    obtain ⟨⟨rival, present⟩, rank⟩ := other
    obtain rfl : task = rival := sameTask
    have known : task.period = some period := known
    have interval : task.periodTicks = period.toNat := by
      rw [TaskTiming.periodTicks, known, Option.getD_some]
    have apart : index.1 ≠ rank.1 := by
      intro same
      exact different (by rw [Fin.ext same])
    simp only [slottedWork, ← interval]
    -- Of two jobs of a task, the later one is a slot or more behind.
    rcases Nat.lt_or_gt_of_ne apart with before | after_
    · have steps := Nat.mul_le_mul_right task.periodTicks (show index.1 + 1 + 1 ≤ rank.1 + 1 by omega)
      rw [Nat.succ_mul (index.1 + 1)] at steps
      omega
    · have steps := Nat.mul_le_mul_right task.periodTicks (show rank.1 + 1 + 1 ≤ index.1 + 1 by omega)
      rw [Nat.succ_mul (rank.1 + 1)] at steps
      omega
  bounded := by
    intro job wcet known
    have known : job.1.1.wcet = some wcet := known
    simp [slottedWork, TaskTiming.wcetTicks, known]

/-- A completion of the slotted run is the first instant at which its job is done, and in time. -/
theorem slottedCompletion_spec (constrained : Constrained tasks)
    (covers : CoversHolds tasks fun _ => 0) (schedulable : (analyse tasks).isSchedulable = true)
    (room : ∀ task ∈ tasks,
      (start task).ticks.toNat + (count task + 1) * task.periodTicks < 18446744073709551615)
    (job : Activation tasks count) :
    IsLeast {instant | (slottedWork tasks count start).release job ≤ instant
        ∧ Finished (slottedWork tasks count start) (slottedRun tasks count start) job instant}
      (slottedCompletion tasks count start job.1 job.2).ticks.toNat
    ∧ (slottedCompletion tasks count start job.1 job.2).ticks.toNat
      ≤ (slottedWork tasks count start).release job + job.1.1.periodTicks := by
  have legal := slottedRun_preemptive tasks count start
  obtain ⟨response, slack, passed⟩ := pass_of_isSchedulable schedulable job.1.2
  have done : Finished (slottedWork tasks count start) (slottedRun tasks count start) job
      ((slottedWork tasks count start).release job + response.toNat) := finished_of_pass constrained covers schedulable (slottedWork_legal tasks count start)
    legal.conserving (fun task _ => legal.heldAtMost_zero task.urgency) passed
  have within := constrained.response_le_period job.1.2 passed
  set instants := {instant | (slottedWork tasks count start).release job ≤ instant
    ∧ Finished (slottedWork tasks count start) (slottedRun tasks count start) job instant} with named
  have member : (slottedWork tasks count start).release job + response.toNat ∈ instants :=
    ⟨Nat.le_add_right _ _, done⟩
  have least : IsLeast instants (sInf instants) :=
    ⟨Nat.sInf_mem ⟨_, member⟩, fun instant other => Nat.sInf_le other⟩
  have below := least.2 member
  -- The last slot is on the timeline, and so is every completion.
  have last := room job.1 job.1.2
  have slot : (slottedWork tasks count start).release job
      = (start job.1).ticks.toNat + (job.2 + 1) * job.1.1.periodTicks := rfl
  have steps := Nat.mul_le_mul_right job.1.1.periodTicks (show job.2.1 + 1 + 1 ≤ count job.1 + 1 by omega)
  rw [Nat.succ_mul (job.2.1 + 1)] at steps
  have ticks : (slottedCompletion tasks count start job.1 job.2).ticks.toNat = sInf instants := by
    rw [slottedCompletion, dif_pos ⟨job.1.2, job.2.2⟩]
    simp only [Fin.eta, UInt64.toNat_ofNat', ← named]
    exact Nat.mod_eq_of_lt (by omega)
  rw [ticks]
  exact ⟨least, by omega⟩

/-- A schedulable set has a closed loop: the slotted run, with its own completions. -/
theorem slottedRun_closedLoop (constrained : Constrained tasks)
    (covers : CoversHolds tasks fun _ => 0) (schedulable : (analyse tasks).isSchedulable = true)
    (room : ∀ task ∈ tasks,
      (start task).ticks.toNat + (count task + 1) * task.periodTicks < 18446744073709551615) :
    ClosedLoop tasks count start (slottedCompletion tasks count start)
      (slottedWork tasks count start) (slottedRun tasks count start) where
  task := fun _ => rfl
  released := by
    intro job
    have follows : Period.Follows _
        (loopSchedule start (slottedCompletion tasks count start) job.1 job.2)
        (loopPeriod start (slottedCompletion tasks count start) job.1 job.2) :=
      loopPeriod_follows (constrained.declared schedulable job.1.2) job.2
    -- No completion is late, so the schedule is on the slot of the job.
    have kept : loopSchedule start (slottedCompletion tasks count start) job.1 job.2
        = ⟨(start job.1).ticks.toNat + (job.2 + 1) * job.1.1.periodTicks, 0⟩ :=
      loopSchedule_onGrid fun earlier below => (slottedCompletion_spec constrained covers
        schedulable room ⟨job.1, earlier, below.trans job.2.2⟩).2
    have slots := Nat.mul_le_mul_right job.1.1.periodTicks
      (show job.2.1 + 1 ≤ count job.1 + 1 by omega)
    have last := room job.1 job.1.2
    rw [Period.nextActivation, follows.clipped, kept]
    simp only [slottedWork]
    omega
  budget := fun _ => le_rfl
  completes := fun job _ => (slottedCompletion_spec constrained covers schedulable room job).1

end Existence

/-- In three activations of the charged bank's loops, the pump's third one is on its slot. -/
theorem chargedBank_loops_keep_grid :
    (loopPeriod (fun _ => ⟨50⟩) (slottedCompletion chargedBank (fun _ => 3) fun _ => ⟨50⟩)
        chargedPump 2).missedActivations = 0
      ∧ (slottedWork chargedBank (fun _ => 3) fun _ => ⟨50⟩).release
          ⟨⟨chargedPump, by decide⟩, 2⟩ = 50 + (2 + 1) * 1000
      ∧ ∃ response slack, verdictFor chargedPump chargedBank = .pass response slack
        ∧ Finished (slottedWork chargedBank (fun _ => 3) fun _ => ⟨50⟩)
          (slottedRun chargedBank (fun _ => 3) fun _ => ⟨50⟩) ⟨⟨chargedPump, by decide⟩, 2⟩
          (50 + (2 + 1) * 1000 + response.toNat) := by
  have covers : CoversHolds chargedBank fun _ => 0 := by
    unfold CoversHolds
    decide
  have room : ∀ task ∈ chargedBank,
      50 + (3 + 1) * task.periodTicks < 18446744073709551615 := by decide
  -- The slotted run is a closed loop of the bank.
  have loop : ClosedLoop chargedBank (fun _ => 3) (fun _ => ⟨50⟩) _ _ _ :=
    slottedRun_closedLoop chargedBank_constrained covers (by decide) room
  have legal := slottedRun_preemptive chargedBank (fun _ => 3) fun _ => ⟨50⟩
  have inside : ∀ job, (slottedWork chargedBank (fun _ => 3) fun _ => ⟨50⟩).release job
      < 18446744073709551615 := by
    intro job
    have last := room job.1 job.1.2
    have below : job.2.1 < 3 := job.2.2
    have slots := Nat.mul_le_mul_right job.1.1.periodTicks (show job.2.1 + 1 ≤ 3 + 1 by omega)
    simp only [slottedWork]
    have fifty : (50 : UInt64).toNat = 50 := rfl
    omega
  exact schedulable_loops_keep_grid chargedBank_constrained covers (by decide) loop inside
    legal.conserving (fun task _ => legal.heldAtMost_zero task.urgency) ⟨⟨chargedPump, by decide⟩, 2⟩

end Malleus
