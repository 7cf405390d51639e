import Malleus.Realtime.Demand
import Malleus.Realtime.Run

/-! How much service spaced releases can claim in a window, and how much periodic ones do claim. -/

namespace Realtime

open scoped Classical

variable {ι κ π : Type*}

/-- Jobs of one task arrive at least a period apart and need at most a fixed cost. -/
structure Sporadic (work : Workload ι κ) (task : κ) (period cost : ℕ) : Prop where
  spaced : ∀ {job other}, work.task job = task → work.task other = task → job ≠ other →
    work.release job + period ≤ work.release other ∨ work.release other + period ≤ work.release job
  bounded : ∀ {job}, work.task job = task → work.cost job ≤ cost

/-- Jobs of one task arrive exactly a period apart from a common start and need the full cost. -/
structure Periodic (work : Workload ι κ) (task : κ) (start period cost : ℕ) : Prop where
  released : ∀ index, ∃ job, work.task job = task ∧ work.release job = start + index * period
  arrival : ∀ {job}, work.task job = task → ∃ index, work.release job = start + index * period
  full : ∀ {job}, work.task job = task → work.cost job = cost
  single : ∀ {job other}, work.task job = task → work.task other = task →
    work.release job = work.release other → job = other

/-- Exactly periodic arrivals are in particular spaced arrivals. -/
theorem Periodic.sporadic {work : Workload ι κ} {task : κ} {start period cost : ℕ}
    (periodic : Periodic work task start period cost) : Sporadic work task period cost where
  spaced := by
    -- Different jobs have different indices, and one index step is a whole period.
    intro job other ofTask otherOfTask different
    obtain ⟨index, arrives⟩ := periodic.arrival ofTask
    obtain ⟨rank, otherArrives⟩ := periodic.arrival otherOfTask
    have apart : index ≠ rank := by
      intro same
      exact different (periodic.single ofTask otherOfTask (by rw [arrives, otherArrives, same]))
    rcases Nat.lt_or_gt_of_ne apart with before | after
    · have := Nat.mul_le_mul_right period (Nat.succ_le_of_lt before)
      rw [Nat.succ_mul] at this
      omega
    · have := Nat.mul_le_mul_right period (Nat.succ_le_of_lt after)
      rw [Nat.succ_mul] at this
      omega
  bounded := fun ofTask => (periodic.full ofTask).le

/-- Releases a period apart fall into different period slots of any window. -/
theorem slot_injective {work : Workload ι κ} {task : κ} {period cost start : ℕ}
    (sporadic : Sporadic work task period cost) (positive : 0 < period) {job other : ι}
    (ofTask : work.task job = task) (otherOfTask : work.task other = task)
    (arrived : start ≤ work.release job) (otherArrived : start ≤ work.release other)
    (same : (work.release job - start) / period = (work.release other - start) / period) :
    job = other := by
  by_contra different
  have slot := Nat.div_add_mod (work.release job - start) period
  have otherSlot := Nat.div_add_mod (work.release other - start) period
  have rest := Nat.mod_lt (work.release job - start) positive
  have otherRest := Nat.mod_lt (work.release other - start) positive
  rw [same] at slot
  -- Two positions within one slot are less than a period apart.
  rcases sporadic.spaced ofTask otherOfTask different with before | after <;> omega

/-- A tick of a window serves a job released in that window when nothing older is left over. -/
theorem release_in_window [LE π] {work : Workload ι κ} {priority : κ → π} {run : Run ι}
    (legal : Preemptive work priority run) {job : ι} {start length offset : ℕ}
    (fresh : work.release job < start → Finished work run job start)
    (within : offset < length) (running : run (start + offset) = some job) :
    start ≤ work.release job ∧ work.release job < start + length := by
  have pending := legal.pending running
  constructor
  -- An older job would be finished by the start of the window.
  · by_contra older
    have later : start ≤ start + offset := by omega
    exact ((fresh (by omega)).mono later).not_pending pending
  · have arrived := pending.1
    omega

/-- Spaced jobs with nothing left over claim at most one full cost per period slot of a window. -/
theorem ticks_task_le [LE π] {work : Workload ι κ} {priority : κ → π} {run : Run ι}
    (legal : Preemptive work priority run) {task : κ} {period cost start length : ℕ}
    (positive : 0 < period) (sporadic : Sporadic work task period cost)
    (fresh : ∀ job, work.task job = task → work.release job < start → Finished work run job start) :
    ticks run (fun job => work.task job = task) start length ≤ length ⌈/⌉ period * cost := by
  -- The ticks are grouped by the job they serve, and the jobs by the slot of their release.
  set serving := (Finset.range length).filter
    (fun offset => ∃ job, run (start + offset) = some job ∧ work.task job = task) with servingDef
  have counted : ticks run (fun job => work.task job = task) start length = serving.card := by
    unfold ticks
    rw [Nat.count_eq_card_filter_range]
  set jobs := serving.image (fun offset => run (start + offset)) with jobsDef
  have jobOf : ∀ entry ∈ jobs, ∃ job offset, entry = some job ∧ offset < length ∧
      run (start + offset) = some job ∧ work.task job = task := by
    intro entry member
    obtain ⟨offset, ticking, rfl⟩ := Finset.mem_image.mp member
    obtain ⟨below, job, running, ofTask⟩ := Finset.mem_filter.mp ticking
    exact ⟨job, offset, running, Finset.mem_range.mp below, running, ofTask⟩
  -- Each job receives at most its cost.
  have perJob : ∀ entry ∈ jobs,
      (serving.filter fun offset => run (start + offset) = entry).card ≤ cost := by
    intro entry member
    obtain ⟨job, -, rfl, -, -, ofTask⟩ := jobOf entry member
    calc (serving.filter fun offset => run (start + offset) = some job).card
        ≤ ((Finset.range length).filter fun offset =>
            ∃ other, run (start + offset) = some other ∧ other = job).card := by
          apply Finset.card_le_card
          intro offset chosen
          obtain ⟨ticking, running⟩ := Finset.mem_filter.mp chosen
          exact Finset.mem_filter.mpr ⟨(Finset.mem_filter.mp ticking).1, job, running, rfl⟩
      _ = ticks run (· = job) start length := by
          unfold ticks
          rw [Nat.count_eq_card_filter_range]
      _ ≤ work.cost job := ticks_job_le_cost legal job start length
      _ ≤ cost := sporadic.bounded ofTask
  -- Different jobs occupy different slots of the window.
  have slots : jobs.card ≤ length ⌈/⌉ period := by
    rw [← Finset.card_range (length ⌈/⌉ period)]
    apply Finset.card_le_card_of_injOn
      (fun entry => entry.elim 0 fun job => (work.release job - start) / period)
    · intro entry member
      obtain ⟨job, offset, rfl, below, running, ofTask⟩ := jobOf entry member
      have window := release_in_window legal (fresh job ofTask) below running
      have room := (ceilDiv_le_iff_le_mul positive).mp (le_refl (length ⌈/⌉ period))
      simp only [Option.elim_some, Finset.coe_range, Set.mem_Iio]
      rw [Nat.div_lt_iff_lt_mul positive, Nat.mul_comm]
      omega
    · intro entry member other otherMember same
      obtain ⟨job, offset, rfl, below, running, ofTask⟩ := jobOf entry member
      obtain ⟨rival, otherOffset, rfl, otherBelow, otherRunning, rivalOfTask⟩ :=
        jobOf other otherMember
      have window := release_in_window legal (fresh job ofTask) below running
      have rivalWindow := release_in_window legal (fresh rival rivalOfTask) otherBelow otherRunning
      exact congrArg some (slot_injective sporadic positive ofTask rivalOfTask window.1
        rivalWindow.1 same)
  calc ticks run (fun job => work.task job = task) start length
      = ∑ entry ∈ jobs, (serving.filter fun offset => run (start + offset) = entry).card := by
        rw [counted, ← Finset.card_eq_sum_card_image]
    _ ≤ ∑ _entry ∈ jobs, cost := Finset.sum_le_sum perJob
    _ = jobs.card * cost := by rw [Finset.sum_const, smul_eq_mul]
    _ ≤ length ⌈/⌉ period * cost := Nat.mul_le_mul_right cost slots

/-- A job that finishes inside the window it arrives in claims its cost for its task. -/
theorem cost_le_ticks_task [LE π] {work : Workload ι κ} {priority : κ → π} {run : Run ι}
    (legal : Preemptive work priority run) {job : ι} {start length : ℕ}
    (arrived : start ≤ work.release job) (done : Finished work run job (start + length)) :
    work.cost job ≤ ticks run (fun other => work.task other = work.task job) start length := by
  -- The job's own ticks are ticks of its task.
  apply (cost_le_ticks_job legal arrived done).trans
  apply ticks_le_of_imp
  intro other same
  rw [same]

/-- A finite family of jobs that finish inside the window they arrive in claims all their costs. -/
theorem sum_cost_le_ticks [LE π] {work : Workload ι κ} {priority : κ → π} {run : Run ι}
    (legal : Preemptive work priority run) {task : κ} {start length : ℕ} (jobs : Finset ι)
    (ofTask : ∀ job ∈ jobs, work.task job = task)
    (arrived : ∀ job ∈ jobs, start ≤ work.release job)
    (done : ∀ job ∈ jobs, Finished work run job (start + length)) :
    ∑ job ∈ jobs, work.cost job ≤ ticks run (fun job => work.task job = task) start length := by
  -- The jobs' own ticks are disjoint parts of the task's ticks.
  let identity : Workload ι ι := ⟨id, work.release, work.cost⟩
  calc ∑ job ∈ jobs, work.cost job
      ≤ ∑ job ∈ jobs, ticks run (fun other => identity.task other = job) start length := by
        apply Finset.sum_le_sum
        intro job member
        exact cost_le_ticks_job legal (arrived job member) (done job member)
    _ = ticks run (fun other => identity.task other ∈ jobs) start length :=
        (ticks_tasks run start identity jobs length).symm
    _ ≤ ticks run (fun job => work.task job = task) start length := by
        apply ticks_le_of_imp
        intro other member
        exact ofTask other member

/-- Periodic jobs released with the window claim one full cost per slot once they are all finished. -/
theorem le_ticks_task [LE π] {work : Workload ι κ} {priority : κ → π} {run : Run ι}
    (legal : Preemptive work priority run) {task : κ} {period cost start length : ℕ}
    (positive : 0 < period) (periodic : Periodic work task start period cost)
    (done : ∀ job, work.task job = task → work.release job < start + length →
      Finished work run job (start + length)) :
    length ⌈/⌉ period * cost ≤ ticks run (fun job => work.task job = task) start length := by
  -- Slot by slot, the job released at the slot's opening belongs to the window.
  choose job ofTask arrives using periodic.released
  have opens : ∀ slot ∈ Finset.range (length ⌈/⌉ period), slot * period < length := by
    intro slot below
    by_contra beyond
    have small : length ⌈/⌉ period ≤ slot := by
      rw [ceilDiv_le_iff_le_mul positive, Nat.mul_comm]
      omega
    exact absurd (Finset.mem_range.mp below) (by omega)
  have distinct : Set.InjOn job (Finset.range (length ⌈/⌉ period)) := by
    intro slot _ other _ same
    have released := congrArg work.release same
    rw [arrives, arrives] at released
    exact Nat.eq_of_mul_eq_mul_right positive (by omega)
  calc length ⌈/⌉ period * cost
      = ∑ entry ∈ (Finset.range (length ⌈/⌉ period)).image job, work.cost entry := by
        rw [Finset.sum_image distinct, Finset.sum_congr rfl (fun slot _ => periodic.full (ofTask slot))]
        simp
    _ ≤ ticks run (fun job => work.task job = task) start length := by
        apply sum_cost_le_ticks legal
        · intro entry member
          obtain ⟨slot, _, rfl⟩ := Finset.mem_image.mp member
          exact ofTask slot
        · intro entry member
          obtain ⟨slot, _, rfl⟩ := Finset.mem_image.mp member
          rw [arrives]
          omega
        · intro entry member
          obtain ⟨slot, below, rfl⟩ := Finset.mem_image.mp member
          apply done _ (ofTask slot)
          have := opens slot below
          rw [arrives]
          omega

end Realtime
