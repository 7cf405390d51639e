import Malleus.Realtime.Response
import Mathlib.Data.Finset.Option

/-! Response times when less urgent work may hold the processor: the busy window of a whole level. -/

namespace Realtime

open scoped Classical

variable {ι κ π : Type*} {work : Workload ι κ} {run : Run ι}

/-- Only pending jobs run, and none waits on an idle processor. -/
structure WorkConserving (work : Workload ι κ) (run : Run ι) : Prop where
  pending : ∀ {instant job}, run instant = some job → Pending work run job instant
  busy : ∀ {instant job}, Pending work run job instant → ∃ running, run instant = some running

/-- Where all work is equally urgent, conserving work is all that a preemptive run owes. -/
theorem WorkConserving.preemptive (conserving : WorkConserving work run) :
    Preemptive work (fun _ => 0) run where
  pending := conserving.pending
  busy := conserving.busy
  urgent := fun _ _ => Nat.le_refl 0

/-- A preemptive run conserves work. -/
theorem Preemptive.conserving [LE π] {priority : κ → π} (legal : Preemptive work priority run) :
    WorkConserving work run where
  pending := legal.pending
  busy := legal.busy

/-- If every job of one kind served in a window is of another kind, that kind has as many ticks. -/
theorem ticks_le_of_served {kind other : ι → Prop} {start length : ℕ}
    (broader : ∀ offset < length, ∀ job, run (start + offset) = some job → kind job → other job) :
    ticks run kind start length ≤ ticks run other start length := by
  apply Nat.count_mono_left
  intro offset below serving
  obtain ⟨job, running, holds⟩ := serving
  exact ⟨job, running, broader offset below job running holds⟩

/-- The jobs of one task that are served in a window. -/
noncomputable def servedJobs (work : Workload ι κ) (run : Run ι) (task : κ) (start length : ℕ) :
    Finset ι :=
  (((Finset.range length).image fun offset => run (start + offset)).eraseNone).filter
    fun job => work.task job = task

/-- A job is served in a window if some tick of it runs the job. -/
theorem mem_servedJobs {task : κ} {start length : ℕ} {job : ι} :
    job ∈ servedJobs work run task start length
      ↔ (∃ offset < length, run (start + offset) = some job) ∧ work.task job = task := by
  simp [servedJobs]

/-- Jobs of one task that arrive in a window are no more than its period slots. -/
theorem card_le_slots {task : κ} {period cost start length : ℕ} (positive : 0 < period)
    (sporadic : Sporadic work task period cost) {jobs : Finset ι}
    (ofTask : ∀ job ∈ jobs, work.task job = task)
    (arrived : ∀ job ∈ jobs, start ≤ work.release job ∧ work.release job < start + length) :
    jobs.card ≤ length ⌈/⌉ period := by
  rw [← Finset.card_range (length ⌈/⌉ period)]
  -- Each job is sent to the slot of its release.
  apply Finset.card_le_card_of_injOn fun job => (work.release job - start) / period
  · intro job member
    have window := arrived job member
    have room := (ceilDiv_le_iff_le_mul positive).mp (le_refl (length ⌈/⌉ period))
    simp only [Finset.coe_range, Set.mem_Iio]
    rw [Nat.div_lt_iff_lt_mul positive, Nat.mul_comm]
    omega
  · intro job member other otherMember same
    exact slot_injective sporadic positive (ofTask job member) (ofTask other otherMember)
      (arrived job member).1 (arrived other otherMember).1 same

/-- A job that arrives in a window and is not done at its end leaves part of the demand unclaimed. -/
theorem ticks_task_lt (conserving : WorkConserving work run) {task : κ}
    {period cost start length : ℕ} (positive : 0 < period)
    (sporadic : Sporadic work task period cost)
    (fresh : ∀ job, work.task job = task → work.release job < start → Finished work run job start)
    {job : ι} (ofTask : work.task job = task) (arrived : start ≤ work.release job)
    (inside : work.release job < start + length)
    (unfinished : ¬Finished work run job (start + length)) :
    ticks run (fun other => work.task other = task) start length < length ⌈/⌉ period * cost := by
  have legal := conserving.preemptive
  set jobs := insert job (servedJobs work run task start length) with jobsDef
  have ofTasks : ∀ other ∈ jobs, work.task other = task := by
    intro other member
    rcases Finset.mem_insert.mp member with rfl | served
    · exact ofTask
    · exact (mem_servedJobs.mp served).2
  have arrivals : ∀ other ∈ jobs, start ≤ work.release other ∧ work.release other < start + length := by
    intro other member
    rcases Finset.mem_insert.mp member with rfl | served
    · exact ⟨arrived, inside⟩
    · obtain ⟨⟨offset, below, running⟩, same⟩ := mem_servedJobs.mp served
      exact release_in_window legal (fresh other same) below running
  -- Every tick of the task belongs to one of these jobs.
  have shared : ticks run (fun other => work.task other = task) start length
      ≤ ticks run (· ∈ jobs) start length := by
    apply ticks_le_of_served
    intro offset below other running same
    exact Finset.mem_insert_of_mem (mem_servedJobs.mpr ⟨⟨offset, below, running⟩, same⟩)
  let identity : Workload ι ι := ⟨id, work.release, work.cost⟩
  have split : ticks run (· ∈ jobs) start length
      = ∑ other ∈ jobs, ticks run (· = other) start length :=
    ticks_tasks run start identity jobs length
  -- The job that is not done has received less than its cost.
  have lacking : ticks run (· = job) start length < cost := by
    have total := served_add run job start length
    have short : served run job (start + length) < work.cost job := not_le.mp unfinished
    have most := sporadic.bounded ofTask
    omega
  have claimed : ∑ other ∈ jobs, ticks run (· = other) start length < ∑ _other ∈ jobs, cost := by
    apply Finset.sum_lt_sum
    · intro other member
      exact (ticks_job_le_cost legal other start length).trans (sporadic.bounded (ofTasks other member))
    · exact ⟨job, Finset.mem_insert_self _ _, lacking⟩
  calc ticks run (fun other => work.task other = task) start length
      ≤ ∑ other ∈ jobs, ticks run (· = other) start length := shared.trans_eq split
    _ < ∑ _other ∈ jobs, cost := claimed
    _ = jobs.card * cost := by rw [Finset.sum_const, smul_eq_mul]
    _ ≤ length ⌈/⌉ period * cost :=
      Nat.mul_le_mul_right cost (card_le_slots positive sporadic ofTasks arrivals)

/-- Every instant has a last quiet one up to it. -/
theorem exists_greatest_quiet (work : Workload ι κ) (run : Run ι) (tasks : Finset κ) (instant : ℕ) :
    ∃ start ≤ instant, Quiet work run tasks start ∧
      ∀ later, start < later → later ≤ instant → ¬Quiet work run tasks later := by
  -- At the origin nothing has arrived before, so a quiet instant is always found.
  have origin : Quiet work run tasks 0 := fun job _ early => absurd early (by omega)
  refine ⟨Nat.findGreatest (Quiet work run tasks) instant, Nat.findGreatest_le instant,
    Nat.findGreatest_spec (Nat.zero_le instant) origin, ?_⟩
  intro later after_ within
  exact Nat.findGreatest_is_greatest after_ within

/-- Just before an instant that is not quiet, some work was waiting. -/
theorem exists_pending_of_not_quiet {tasks : Finset κ} {tick : ℕ}
    (loud : ¬Quiet work run tasks (tick + 1)) :
    ∃ job, work.task job ∈ tasks ∧ Pending work run job tick := by
  -- A level is loud when something that arrived before has not finished yet.
  unfold Quiet at loud
  push Not at loud
  obtain ⟨job, ofTasks, arrived, unfinished⟩ := loud
  refine ⟨job, ofTasks, pending_of_not_finished (by omega) ?_⟩
  intro done
  exact unfinished (done.mono (by omega))

variable [LinearOrder π] {priority : κ → π}

/-- While work of a level waits throughout, less urgent work runs for no more ticks than a bound. -/
def HeldAtMost (work : Workload ι κ) (priority : κ → π) (run : Run ι) (level : π) (hold : ℕ) : Prop :=
  ∀ start length,
    (∀ tick, start ≤ tick → tick < start + length →
      ∃ job, level ≤ priority (work.task job) ∧ Pending work run job tick) →
    ticks run (fun job => priority (work.task job) < level) start length ≤ hold

/-- In a preemptive run nothing is held. -/
theorem Preemptive.heldAtMost_zero (legal : Preemptive work priority run) (level : π) :
    HeldAtMost work priority run level 0 := by
  intro start length waiting
  -- A tick of less urgent work would pass over the work of the level that waits.
  have never : ∀ offset < length, ∀ job, run (start + offset) = some job →
      priority (work.task job) < level → False := by
    intro offset below job running lower
    obtain ⟨other, upper, pending⟩ := waiting (start + offset) (by omega) (by omega)
    have order := upper.trans (legal.urgent running pending)
    exact absurd lower (not_lt.mpr order)
  calc ticks run (fun job => priority (work.task job) < level) start length
      ≤ ticks run (fun _ => False) start length := ticks_le_of_served never
    _ = 0 := by simp [ticks]

/--
Every job of a level finishes within any window that holds the level's demand and what may hold it up.

The argument starts at the last instant before its release with no work of the level left over.
-/
theorem finished_within_level (conserving : WorkConserving work run) (tasks : Finset κ)
    (period cost : κ → ℕ) {level : π} {hold window : ℕ} (nonempty : 0 < window)
    (members : ∀ job, work.task job ∈ tasks ↔ level ≤ priority (work.task job))
    (sporadic : SporadicTasks work tasks period cost)
    (held : HeldAtMost work priority run level hold)
    (enough : Prefixed (taskDemand hold tasks period cost) window) {job : ι}
    (ofTasks : work.task job ∈ tasks) : Finished work run job (work.release job + window) := by
  by_contra unfinished
  obtain ⟨start, before, quiet, loud⟩ := exists_greatest_quiet work run tasks (work.release job)
  -- From the quiet instant on, work of the level waits in every tick of a window.
  have waiting : ∀ tick, start ≤ tick → tick < start + window →
      ∃ other, work.task other ∈ tasks ∧ Pending work run other tick := by
    intro tick from_ until_
    by_cases early : tick < work.release job
    · exact exists_pending_of_not_quiet (loud (tick + 1) (by omega) (by omega))
    · refine ⟨job, ofTasks, pending_of_not_finished (by omega) ?_⟩
      intro done
      exact unfinished (done.mono (by omega))
  -- At the end of the window some job that arrived in it is not done.
  have left : ∃ other, work.task other ∈ tasks ∧ start ≤ work.release other ∧
      work.release other < start + window ∧ ¬Finished work run other (start + window) := by
    by_cases late : start + window ≤ work.release job
    -- Before the release, the end of the window is not quiet.
    · have noisy := loud (start + window) (by omega) late
      unfold Quiet at noisy
      push Not at noisy
      obtain ⟨other, member, arrived, open_⟩ := noisy
      refine ⟨other, member, ?_, arrived, open_⟩
      by_contra older
      exact open_ ((quiet other member (by omega)).mono (by omega))
    · refine ⟨job, ofTasks, before, by omega, ?_⟩
      intro done
      exact unfinished (done.mono (by omega))
  obtain ⟨other, member, arrived, inside, open_⟩ := left
  have claimed : ticks run (fun job => work.task job ∈ tasks) start window
      < ∑ task ∈ tasks, window ⌈/⌉ period task * cost task := by
    rw [ticks_tasks]
    apply Finset.sum_lt_sum
    · intro task listed
      obtain ⟨positive, spaced⟩ := sporadic task listed
      apply ticks_task_le conserving.preemptive positive spaced
      intro older ofTask early
      exact quiet older (ofTask ▸ listed) early
    · obtain ⟨positive, spaced⟩ := sporadic _ member
      refine ⟨_, member, ticks_task_lt conserving positive spaced ?_ rfl arrived inside open_⟩
      intro older ofTask early
      exact quiet older (ofTask ▸ member) early
  have holding := held start window fun tick from_ until_ => by
    obtain ⟨waits, upper, pending⟩ := waiting tick from_ until_
    exact ⟨waits, (members waits).mp upper, pending⟩
  -- Every tick serves the level or holds it up, but together they do not fill the window.
  have filled : window ≤ ticks run (fun job => work.task job ∈ tasks) start window
      + ticks run (fun job => priority (work.task job) < level) start window := by
    apply length_le_ticks_add
    intro offset below
    obtain ⟨waits, -, pending⟩ := waiting (start + offset) (by omega) (by omega)
    obtain ⟨running, serving⟩ := conserving.busy pending
    refine ⟨running, serving, ?_⟩
    rw [members running]
    exact le_or_gt level _
  unfold Prefixed taskDemand at enough
  omega

end Realtime
