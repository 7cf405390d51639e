import Malleus.Realtime.Sporadic

/-! Response times under preemptive priorities: the busy window above, the critical instant below. -/

namespace Realtime

open scoped Classical

variable {ι κ π : Type*} [LinearOrder π] {work : Workload ι κ} {priority : κ → π} {run : Run ι}

/-- Spaced work of a finite set of tasks, each with its own period and cost. -/
def SporadicTasks (work : Workload ι κ) (tasks : Finset κ) (period cost : κ → ℕ) : Prop :=
  ∀ task ∈ tasks, 0 < period task ∧ Sporadic work task (period task) (cost task)

/-- Demand of one job and of the activations that a set of tasks can release in a window. -/
def taskDemand (base : ℕ) (tasks : Finset κ) (period cost : κ → ℕ) (window : ℕ) : ℕ :=
  base + ∑ task ∈ tasks, window ⌈/⌉ period task * cost task

/-- No work of the given tasks that arrived before an instant is left over at it. -/
def Quiet (work : Workload ι κ) (run : Run ι) (tasks : Finset κ) (instant : ℕ) : Prop :=
  ∀ job, work.task job ∈ tasks → work.release job < instant → Finished work run job instant

/-- Every instant has a last quiet one before it, after which the tasks keep some work waiting. -/
theorem exists_last_quiet (work : Workload ι κ) (run : Run ι) (tasks : Finset κ) (instant : ℕ) :
    ∃ start ≤ instant, Quiet work run tasks start ∧
      ∀ tick, start ≤ tick → tick < instant →
        ∃ job, work.task job ∈ tasks ∧ Pending work run job tick := by
  -- Going back from the instant, the induction stops at the first quiet moment it meets.
  induction instant with
  | zero => exact ⟨0, le_rfl, fun job _ early => absurd early (by omega), fun tick _ _ => by omega⟩
  | succ instant ih =>
    by_cases quiet : Quiet work run tasks (instant + 1)
    · exact ⟨instant + 1, le_rfl, quiet, fun tick _ _ => by omega⟩
    · obtain ⟨start, before, calm, waiting⟩ := ih
      refine ⟨start, by omega, calm, ?_⟩
      intro tick from_ until_
      by_cases last : tick < instant
      · exact waiting tick from_ last
      -- The job that spoils quiet at the next instant was already waiting at this one.
      · have same : tick = instant := by omega
        subst same
        obtain ⟨job, ofTask, arrived, unfinished⟩ : ∃ job, work.task job ∈ tasks ∧
            work.release job < tick + 1 ∧ ¬Finished work run job (tick + 1) := by
          simpa [Quiet] using quiet
        refine ⟨job, ofTask, pending_of_not_finished (by omega) ?_⟩
        intro done
        exact unfinished (done.mono (by omega))

/-- While a more urgent task has work waiting, the processor serves a more urgent task. -/
theorem serves_urgent (legal : Preemptive work priority run) {tasks : Finset κ} {level : π}
    (above : ∀ task ∈ tasks, level < priority task)
    (complete : ∀ job, level < priority (work.task job) → work.task job ∈ tasks)
    {tick : ℕ} {waiting : ι} (ofTask : work.task waiting ∈ tasks)
    (pending : Pending work run waiting tick) :
    ∃ job, run tick = some job ∧ work.task job ∈ tasks := by
  -- Whatever is served is at least as urgent as the waiting job.
  obtain ⟨running, serving⟩ := legal.busy pending
  have urgent := legal.urgent serving pending
  exact ⟨running, serving, complete running (lt_of_lt_of_le (above _ ofTask) urgent)⟩

/-- While a job waits alone at its level, the processor serves it or a more urgent task. -/
theorem serves_job_or_urgent (legal : Preemptive work priority run) {tasks : Finset κ} {job : ι}
    (complete : ∀ other, priority (work.task job) < priority (work.task other) →
      work.task other ∈ tasks)
    {tick : ℕ} (pending : Pending work run job tick)
    (alone : ∀ other, other ≠ job → priority (work.task other) = priority (work.task job) →
      ¬Pending work run other tick) :
    ∃ running, run tick = some running ∧ (work.task running ∈ tasks ∨ running = job) := by
  obtain ⟨running, serving⟩ := legal.busy pending
  refine ⟨running, serving, ?_⟩
  -- Either something more urgent runs, or something of the same level does.
  rcases lt_or_eq_of_le (legal.urgent serving pending) with more | equal
  · exact Or.inl (complete running more)
  · right
    -- The job is the only pending one of its level.
    by_contra different
    exact alone running different equal.symm (legal.pending serving)

/--
A job finishes within any window that holds its own demand and that of the more urgent tasks.

The argument starts at the last instant before its release with no more urgent work left over.
-/
theorem finished_within (legal : Preemptive work priority run) (tasks : Finset κ)
    (period cost : κ → ℕ) {job : ι} {window : ℕ}
    (above : ∀ task ∈ tasks, priority (work.task job) < priority task)
    (complete : ∀ other, priority (work.task job) < priority (work.task other) →
      work.task other ∈ tasks)
    (sporadic : SporadicTasks work tasks period cost)
    (alone : ∀ tick, work.release job ≤ tick → tick < work.release job + window →
      ∀ other, other ≠ job → priority (work.task other) = priority (work.task job) →
        ¬Pending work run other tick)
    (enough : Prefixed (taskDemand (work.cost job) tasks period cost) window) :
    Finished work run job (work.release job + window) := by
  by_contra unfinished
  obtain ⟨start, before, quiet, waiting⟩ :=
    exists_last_quiet work run tasks (work.release job)
  -- From the quiet instant on, every tick of a window goes to the job or to more urgent tasks.
  have covered : ∀ offset < window, ∃ running, run (start + offset) = some running ∧
      (work.task running ∈ tasks ∨ running = job) := by
    intro offset below
    by_cases early : start + offset < work.release job
    · obtain ⟨other, ofTask, pending⟩ := waiting (start + offset) (by omega) early
      obtain ⟨running, serving, ofTasks⟩ := serves_urgent legal above complete ofTask pending
      exact ⟨running, serving, Or.inl ofTasks⟩
    · have pending : Pending work run job (start + offset) :=
        pending_of_not_finished (by omega) fun done => unfinished (done.mono (by omega))
      exact serves_job_or_urgent legal complete pending
        (alone (start + offset) (by omega) (by omega))
  have filled := length_le_ticks_add run start window covered
  -- The more urgent tasks claim at most their demand.
  have interference : ticks run (fun other => work.task other ∈ tasks) start window ≤
      ∑ task ∈ tasks, window ⌈/⌉ period task * cost task := by
    rw [ticks_tasks]
    apply Finset.sum_le_sum
    intro task member
    obtain ⟨positive, spaced⟩ := sporadic task member
    apply ticks_task_le legal positive spaced
    intro other ofTask older
    exact quiet other (ofTask ▸ member) older
  -- The job itself still lacks service at the end.
  have lacking : ticks run (· = job) start window < work.cost job := by
    have total := served_add run job start window
    have later := served_mono run job (show start + window ≤ work.release job + window by omega)
    have short : served run job (work.release job + window) < work.cost job :=
      not_le.mp unfinished
    omega
  unfold Prefixed taskDemand at enough
  omega

/-- Every job of a task that is alone at its priority finishes within its response window. -/
theorem task_finished_within (legal : Preemptive work priority run) (tasks : Finset κ)
    (period cost : κ → ℕ) {task : κ} {window : ℕ}
    (above : ∀ other ∈ tasks, priority task < priority other)
    (complete : ∀ other, priority task < priority (work.task other) → work.task other ∈ tasks)
    (sporadic : SporadicTasks work tasks period cost)
    (unique : ∀ job, priority (work.task job) = priority task → work.task job = task)
    (spaced : Sporadic work task (period task) (cost task)) (fits : window ≤ period task)
    (enough : Prefixed (taskDemand (cost task) tasks period cost) window) :
    ∀ job, work.task job = task → Finished work run job (work.release job + window) := by
  -- Earlier jobs of the task finish first, so each job of it finds its level empty.
  intro job ofTask
  induction release : work.release job using Nat.strongRecOn generalizing job with
  | ind instant ih =>
    subst release
    apply finished_within legal tasks period cost (ofTask ▸ above) (ofTask ▸ complete) sporadic
    · intro tick from_ until_ other different level pending
      have otherOfTask : work.task other = task := unique other (by rw [level, ofTask])
      rcases spaced.spaced otherOfTask ofTask different with before | after
      · by_cases earlier : work.release other < work.release job
        · have done := ih (work.release other) earlier other otherOfTask rfl
          exact (done.mono (by omega)).not_pending pending
        -- A window of no length leaves no tick to wait in.
        · omega
      · have arrived := pending.1
        omega
    · have bounded := spaced.bounded ofTask
      unfold Prefixed taskDemand at enough ⊢
      omega

/--
A job whose predecessors arrive with it finishes no earlier than their whole demand allows.

In its last tick nothing that must go first is pending, so all of it has been served.
-/
theorem demand_le_of_finished (legal : Preemptive work priority run) {job : ι}
    {tasks : Finset κ} (share : κ → ℕ → ℕ) {window : ℕ} (needed : 0 < work.cost job)
    (apart : work.task job ∉ tasks)
    (claimed : ∀ task ∈ tasks, ∀ length, 0 < length →
      run (work.release job + (length - 1)) = some job →
      share task length ≤
        ticks run (fun other => work.task other = task) (work.release job) length)
    (done : Finished work run job (work.release job + window)) :
    ∃ length ≤ window, 0 < length ∧ work.cost job + ∑ task ∈ tasks, share task length ≤ length := by
  have untouched : served run job (work.release job) = 0 := served_release legal le_rfl
  obtain ⟨last, below, running, completed⟩ := exists_last_tick needed untouched done
  refine ⟨last + 1, by omega, by omega, ?_⟩
  have others : ∑ task ∈ tasks, share task (last + 1) ≤
      ticks run (fun other => work.task other ∈ tasks) (work.release job) (last + 1) := by
    rw [ticks_tasks]
    apply Finset.sum_le_sum
    intro task member
    exact claimed task member (last + 1) (by omega) running
  have own : work.cost job ≤ ticks run (· = job) (work.release job) (last + 1) :=
    cost_le_ticks_job legal le_rfl completed
  -- The job's ticks and the others' ticks share the same window.
  have different : ∀ other, work.task other ∈ tasks → ¬other = job := by
    intro other ofTasks same
    exact apart (same ▸ ofTasks)
  have room := ticks_add_le_length run (work.release job) different (last + 1)
  omega

/-- In a tick given to a job, more urgent periodic tasks released with it have claimed every slot. -/
theorem urgent_claimed (legal : Preemptive work priority run) {job : ι} {task : κ}
    {period cost length : ℕ} (urgent : priority (work.task job) < priority task)
    (positive : 0 < period) (periodic : Periodic work task (work.release job) period cost)
    (nonempty : 0 < length) (running : run (work.release job + (length - 1)) = some job) :
    length ⌈/⌉ period * cost ≤
      ticks run (fun other => work.task other = task) (work.release job) length := by
  apply le_ticks_task legal positive periodic
  intro other ofTask arrived
  -- Were it still waiting, the tick would not have gone to the less urgent job.
  have done : Finished work run other (work.release job + (length - 1)) := by
    by_contra unfinished
    have pending := pending_of_not_finished (show work.release other ≤ _ by omega) unfinished
    have order := legal.urgent running pending
    rw [ofTask] at order
    exact absurd urgent (not_lt.mpr order)
  exact done.mono (by omega)

/-- When everything is released together, a finished job's window holds the whole demand. -/
theorem prefixed_of_finished (legal : Preemptive work priority run) (tasks : Finset κ)
    (period cost : κ → ℕ) {job : ι} {window : ℕ} (needed : 0 < work.cost job)
    (above : ∀ task ∈ tasks, priority (work.task job) < priority task)
    (periodic : ∀ task ∈ tasks, 0 < period task ∧
      Periodic work task (work.release job) (period task) (cost task))
    (done : Finished work run job (work.release job + window)) :
    ∃ length ≤ window, 0 < length ∧
      Prefixed (taskDemand (work.cost job) tasks period cost) length := by
  -- Each more urgent task claims one cost for every activation in the window.
  apply demand_le_of_finished legal (fun task length => length ⌈/⌉ period task * cost task) needed
    (fun member => absurd (above _ member) (lt_irrefl _)) _ done
  intro task member length nonempty running
  obtain ⟨positive, regular⟩ := periodic task member
  exact urgent_claimed legal (above task member) positive regular nonempty running

end Realtime
