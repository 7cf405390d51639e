import Mathlib.Algebra.BigOperators.Group.Finset.Piecewise
import Mathlib.Algebra.Order.BigOperators.Group.Finset
import Mathlib.Data.Nat.Count
import Mathlib.Tactic.Linarith

/-! Runs of one processor that serves released jobs tick by tick, and the service each job receives. -/

namespace Realtime

open scoped Classical

variable {ι κ π : Type*}

/-- Released work: the task a job belongs to, when it arrives, and how many ticks it needs. -/
structure Workload (ι κ : Type*) where
  task : ι → κ
  release : ι → ℕ
  cost : ι → ℕ

/-- What the processor serves in each tick, with idle ticks left empty. -/
abbrev Run (ι : Type*) : Type _ := ℕ → Option ι

/-- The ticks of a window spent on jobs of one kind. -/
noncomputable def ticks (run : Run ι) (kind : ι → Prop) (start length : ℕ) : ℕ :=
  Nat.count (fun offset => ∃ job, run (start + offset) = some job ∧ kind job) length

/-- The ticks a job received before an instant. -/
noncomputable def served (run : Run ι) (job : ι) (instant : ℕ) : ℕ :=
  ticks run (· = job) 0 instant

/-- A job that has arrived and still needs service. -/
def Pending (work : Workload ι κ) (run : Run ι) (job : ι) (instant : ℕ) : Prop :=
  work.release job ≤ instant ∧ served run job instant < work.cost job

/-- A job that has received all the service it needs. -/
def Finished (work : Workload ι κ) (run : Run ι) (job : ι) (instant : ℕ) : Prop :=
  work.cost job ≤ served run job instant

/-- Only pending jobs run, a pending job keeps the processor busy, and no more urgent one waits. -/
structure Preemptive [LE π] (work : Workload ι κ) (priority : κ → π) (run : Run ι) : Prop where
  pending : ∀ {instant job}, run instant = some job → Pending work run job instant
  busy : ∀ {instant job}, Pending work run job instant → ∃ running, run instant = some running
  urgent : ∀ {instant job running}, run instant = some running → Pending work run job instant →
    priority (work.task job) ≤ priority (work.task running)

/-- Among equally urgent pending jobs the processor serves one that arrived first. -/
def FirstInFirstOut (work : Workload ι κ) (priority : κ → π) (run : Run ι) : Prop :=
  ∀ {instant job running}, run instant = some running → Pending work run job instant →
    priority (work.task job) = priority (work.task running) →
    work.release running ≤ work.release job

section Ticks

variable (run : Run ι) {kind other : ι → Prop} (start : ℕ)

@[simp] theorem ticks_zero : ticks run kind start 0 = 0 := Nat.count_zero _

/-- A window's ticks split at any instant inside it. -/
theorem ticks_add (first second : ℕ) :
    ticks run kind start (first + second) =
      ticks run kind start first + ticks run kind (start + first) second := by
  -- Counting restarts at the split point with the same absolute positions.
  unfold ticks
  rw [Nat.count_add]
  simp only [Nat.add_assoc]

/-- A longer window holds at least the ticks of its beginning. -/
theorem ticks_mono {short long : ℕ} (longer : short ≤ long) :
    ticks run kind start short ≤ ticks run kind start long :=
  Nat.count_monotone _ longer

/-- A broader kind of job receives at least as many ticks. -/
theorem ticks_le_of_imp (broader : ∀ job, kind job → other job) (length : ℕ) :
    ticks run kind start length ≤ ticks run other start length := by
  -- Every counted tick is counted under the broader kind too.
  apply Nat.count_mono_left
  intro offset _ serving
  obtain ⟨job, running, holds⟩ := serving
  exact ⟨job, running, broader job holds⟩

/-- Two kinds that share no job share no tick. -/
theorem ticks_add_le_length (apart : ∀ job, kind job → ¬other job) (length : ℕ) :
    ticks run kind start length + ticks run other start length ≤ length := by
  -- One tick at a time, at most one of the two counters moves.
  induction length with
  | zero => simp
  | succ length ih =>
    unfold ticks at ih ⊢
    rw [Nat.count_succ, Nat.count_succ]
    by_cases first : ∃ job, run (start + length) = some job ∧ kind job
    · have second : ¬∃ job, run (start + length) = some job ∧ other job := by
        obtain ⟨job, running, holds⟩ := first
        intro both
        obtain ⟨rival, also, opposite⟩ := both
        rw [running, Option.some.injEq] at also
        exact apart job holds (also ▸ opposite)
      rw [if_pos first, if_neg second]
      omega
    · rw [if_neg first]
      split <;> omega

/-- When every tick serves one of two kinds, the two counts cover the window. -/
theorem length_le_ticks_add (length : ℕ)
    (covered : ∀ offset < length, ∃ job, run (start + offset) = some job ∧ (kind job ∨ other job)) :
    length ≤ ticks run kind start length + ticks run other start length := by
  -- One tick at a time, at least one of the two counters moves.
  induction length with
  | zero => simp
  | succ length ih =>
    have before := ih fun offset below => covered offset (by omega)
    obtain ⟨job, running, holds⟩ := covered length (by omega)
    unfold ticks at before ⊢
    rw [Nat.count_succ, Nat.count_succ]
    rcases holds with holds | holds
    · rw [if_pos ⟨job, running, holds⟩]
      omega
    · have serving : ∃ job, run (start + length) = some job ∧ other job := ⟨job, running, holds⟩
      rw [if_pos serving]
      omega

/-- The ticks of a finite set of tasks are the sum over its tasks. -/
theorem ticks_tasks (work : Workload ι κ) (tasks : Finset κ) (length : ℕ) :
    ticks run (fun job => work.task job ∈ tasks) start length =
      ∑ task ∈ tasks, ticks run (fun job => work.task job = task) start length := by
  -- A tick belongs to exactly the task of the job it serves.
  induction length with
  | zero => simp
  | succ length ih =>
    unfold ticks at ih ⊢
    simp only [Nat.count_succ, Finset.sum_add_distrib, ih]
    congr 1
    cases running : run (start + length) with
    | none => simp
    | some job => simp

end Ticks

section Service

variable {run : Run ι} {job : ι}

@[simp] theorem served_zero (run : Run ι) (job : ι) : served run job 0 = 0 := ticks_zero run 0

/-- Service received before an instant and in a window after it add up. -/
theorem served_add (run : Run ι) (job : ι) (start length : ℕ) :
    served run job (start + length) = served run job start + ticks run (· = job) start length := by
  -- Service is counted from the first tick on.
  unfold served
  rw [ticks_add, Nat.zero_add]

/-- Service already received is never lost. -/
theorem served_mono (run : Run ι) (job : ι) : Monotone (served run job) :=
  fun _ _ later => ticks_mono run 0 later

/-- A tick adds one unit of service to the job it runs and nothing to any other. -/
theorem served_succ (run : Run ι) (job : ι) (instant : ℕ) :
    served run job (instant + 1) =
      served run job instant + if run instant = some job then 1 else 0 := by
  rw [served_add]
  congr 1
  unfold ticks
  rw [Nat.count_succ, Nat.count_zero, Nat.add_zero, Nat.zero_add]
  -- The single tick of the window is the named instant.
  by_cases running : run instant = some job <;> simp [running]

variable {work : Workload ι κ}

/-- A job unfinished at an instant was unfinished at every earlier one. -/
theorem Finished.mono {early late : ℕ} (later : early ≤ late) (done : Finished work run job early) :
    Finished work run job late :=
  le_trans done (served_mono run job later)

/-- A finished job is no longer pending. -/
theorem Finished.not_pending {instant : ℕ} (done : Finished work run job instant) :
    ¬Pending work run job instant :=
  fun pending => absurd pending.2 (not_lt.mpr done)

/-- A job that has arrived and is not finished is pending. -/
theorem pending_of_not_finished {instant : ℕ} (arrived : work.release job ≤ instant)
    (unfinished : ¬Finished work run job instant) : Pending work run job instant :=
  ⟨arrived, not_le.mp unfinished⟩

variable [LE π] {priority : κ → π}

/-- No job receives more service than it needs. -/
theorem served_le_cost (legal : Preemptive work priority run) (job : ι) (instant : ℕ) :
    served run job instant ≤ work.cost job := by
  -- A tick is given only to a job that still needs one.
  induction instant with
  | zero => simp
  | succ instant ih =>
    rw [served_succ]
    split
    · rename_i running
      exact (legal.pending running).2
    · exact ih

/-- No job receives service before it arrives. -/
theorem served_release (legal : Preemptive work priority run) {instant : ℕ}
    (early : instant ≤ work.release job) : served run job instant = 0 := by
  -- Every tick of service would have been given to an arrived job.
  induction instant with
  | zero => simp
  | succ instant ih =>
    rw [served_succ, ih (by omega)]
    split
    · rename_i running
      have arrived := (legal.pending running).1
      omega
    · rfl

/-- A window gives a job no more than the job still needs at its end. -/
theorem ticks_job_le_cost (legal : Preemptive work priority run) (job : ι) (start length : ℕ) :
    ticks run (· = job) start length ≤ work.cost job := by
  -- A job receives no more than it needs, in any window.
  have total := served_le_cost legal job (start + length)
  rw [served_add] at total
  omega

/-- A finished job that arrived inside the window received all its service there. -/
theorem cost_le_ticks_job (legal : Preemptive work priority run) {start length : ℕ}
    (arrived : start ≤ work.release job) (done : Finished work run job (start + length)) :
    work.cost job ≤ ticks run (· = job) start length := by
  -- Nothing is received before the release, so the window holds all of it.
  have total := served_add run job start length
  rw [served_release legal arrived, Nat.zero_add] at total
  exact total ▸ done

/-- A job needing service that is finished by an instant was running in its last tick. -/
theorem exists_last_tick (needed : 0 < work.cost job) {length start : ℕ}
    (untouched : served run job start = 0) (done : Finished work run job (start + length)) :
    ∃ last < length, run (start + last) = some job ∧ Finished work run job (start + last + 1) := by
  -- The induction finds the window whose final tick completes the job.
  induction length with
  | zero =>
    unfold Finished at done
    rw [Nat.add_zero, untouched] at done
    omega
  | succ length ih =>
    by_cases before : Finished work run job (start + length)
    · obtain ⟨last, below, running, completed⟩ := ih before
      exact ⟨last, by omega, running, completed⟩
    · refine ⟨length, by omega, ?_, done⟩
      by_contra idle
      apply before
      unfold Finished at done ⊢
      rw [← Nat.add_assoc, served_succ, if_neg idle] at done
      exact done

end Service

end Realtime
