import Malleus.Realtime.Run
import Mathlib.Data.Prod.Lex
import Mathlib.Order.WellFounded

/-! Every workload has a run that always serves the pending job of least rank. -/

namespace Realtime

open scoped Classical

variable {ι κ π α : Type*} [LinearOrder α] {work : Workload ι κ} {rank : ι → α} {run : Run ι}

/-- Only pending jobs run, none waits on an idle processor, and none of lower rank waits. -/
structure Ranked (work : Workload ι κ) (rank : ι → α) (run : Run ι) : Prop where
  pending : ∀ {instant job}, run instant = some job → Pending work run job instant
  busy : ∀ {instant job}, Pending work run job instant → ∃ running, run instant = some running
  least : ∀ {instant job running}, run instant = some running → Pending work run job instant →
    rank running ≤ rank job

/-- A rank that puts urgent jobs first yields a preemptive run. -/
theorem Ranked.preemptive [LinearOrder π] {priority : κ → π} (ranked : Ranked work rank run)
    (urgentFirst : ∀ job other, priority (work.task job) < priority (work.task other) →
      rank other < rank job) : Preemptive work priority run where
  pending := ranked.pending
  busy := ranked.busy
  urgent := by
    intro instant job running serving waiting
    -- A more urgent waiting job would have had a lower rank than the served one.
    by_contra more
    have lower := urgentFirst running job (not_le.mp more)
    exact absurd lower (not_lt.mpr (ranked.least serving waiting))

/-- A rank that puts earlier arrivals first within a level yields a first-in-first-out run. -/
theorem Ranked.firstInFirstOut {priority : κ → π} (ranked : Ranked work rank run)
    (earlyFirst : ∀ job other, priority (work.task job) = priority (work.task other) →
      work.release job < work.release other → rank job < rank other) :
    FirstInFirstOut work priority run := by
  -- An earlier waiting job of the level would have had a lower rank.
  intro instant job running serving waiting level
  by_contra later
  have lower := earlyFirst job running level (not_le.mp later)
  exact absurd lower (not_lt.mpr (ranked.least serving waiting))

/-- While a job is served, everything of lower rank that has arrived is finished. -/
theorem Ranked.finished_of_lt (ranked : Ranked work rank run) {instant : ℕ} {job running : ι}
    (serving : run instant = some running) (lower : rank job < rank running)
    (arrived : work.release job ≤ instant) : Finished work run job instant := by
  -- Unfinished it would be waiting, and it would be served first.
  by_contra unfinished
  have waiting := pending_of_not_finished arrived unfinished
  exact absurd lower (not_lt.mpr (ranked.least serving waiting))

variable [WellFoundedLT α]

/-- The waiting job of least rank, given what every job has received so far. -/
noncomputable def pick (work : Workload ι κ) (rank : ι → α) (received : ι → ℕ) (instant : ℕ) :
    Option ι :=
  if waiting : {job | work.release job ≤ instant ∧ received job < work.cost job}.Nonempty then
    some (Function.argminOn rank _ waiting)
  else none

/-- What every job has received when the waiting job of least rank is served in each tick. -/
noncomputable def received (work : Workload ι κ) (rank : ι → α) : ℕ → ι → ℕ
  | 0, _ => 0
  | instant + 1, job =>
    received work rank instant job +
      if pick work rank (received work rank instant) instant = some job then 1 else 0

/-- The run that serves the waiting job of least rank in each tick. -/
noncomputable def greedy (work : Workload ι κ) (rank : ι → α) : Run ι :=
  fun instant => pick work rank (received work rank instant) instant

/-- The run's own bookkeeping is the service its jobs receive. -/
theorem served_greedy (work : Workload ι κ) (rank : ι → α) (job : ι) (instant : ℕ) :
    served (greedy work rank) job instant = received work rank instant job := by
  -- The bookkeeping adds a tick exactly where the run serves the job.
  induction instant with
  | zero => simp [received]
  | succ instant ih =>
    rw [served_succ, ih]
    rfl

/-- Waiting in the bookkeeping is being pending in the run. -/
theorem pending_greedy_iff {job : ι} {instant : ℕ} :
    Pending work (greedy work rank) job instant ↔
      work.release job ≤ instant ∧ received work rank instant job < work.cost job := by
  rw [Pending, served_greedy]

/-- The job picked waits, and no other waiting job has a lower rank. -/
theorem pick_spec {received : ι → ℕ} {instant : ℕ} {job : ι}
    (picked : pick work rank received instant = some job) :
    (work.release job ≤ instant ∧ received job < work.cost job) ∧
      ∀ other, work.release other ≤ instant ∧ received other < work.cost other →
        rank job ≤ rank other := by
  by_cases waiting : {job | work.release job ≤ instant ∧ received job < work.cost job}.Nonempty
  -- The least of a nonempty set of waiting jobs is one of them.
  · rw [pick, dif_pos waiting, Option.some.injEq] at picked
    subst picked
    exact ⟨Function.argminOn_mem rank _ waiting,
      fun other member => Function.argminOn_le rank _ member⟩
  · rw [pick, dif_neg waiting] at picked
    cases picked

/-- Serving the waiting job of least rank is possible for every workload. -/
theorem greedy_ranked (work : Workload ι κ) (rank : ι → α) :
    Ranked work rank (greedy work rank) where
  pending := by
    intro instant job serving
    rw [pending_greedy_iff]
    exact (pick_spec serving).1
  busy := by
    intro instant job waiting
    -- Some job waits, so one is picked.
    have present : {job | work.release job ≤ instant ∧
        received work rank instant job < work.cost job}.Nonempty :=
      ⟨job, pending_greedy_iff.mp waiting⟩
    rw [greedy, pick, dif_pos present]
    exact ⟨_, rfl⟩
  least := by
    intro instant job running serving waiting
    -- The job picked has the least rank of all that wait.
    exact (pick_spec serving).2 job (pending_greedy_iff.mp waiting)

end Realtime
