import Malleus.Analyzer.Blocking
import Malleus.Kernel.Hardware
import Malleus.Kernel.ReadySet

/-! Dispatching by the ready set: the bitmap follows the pending work, and its highest level runs. -/

namespace Malleus

open Realtime

namespace ReadySet

/-- Operations that never remove a priority leave it contained, or add it. -/
theorem contains_foldl_of_not_removed (set : ReadySet) {operations : List Operation}
    {priority : Priority} (kept : .remove priority ∉ operations) :
    (operations.foldl Operation.apply set).contains priority = true
      ↔ set.contains priority = true ∨ .insert priority ∈ operations := by
  -- The induction follows the operations; a removal among them is of another priority.
  induction operations generalizing set with
  | nil => simp
  | cons operation rest contained =>
    rw [List.mem_cons, not_or] at kept
    rw [List.foldl_cons, contained _ kept.2]
    cases operation with
    | insert other => simp [Operation.apply, or_assoc, @eq_comm _ other priority]
    | remove other =>
      have apart : other ≠ priority := fun same => kept.1 (same ▸ rfl)
      simp [Operation.apply, apart]

/-- Operations that never insert a priority leave it out, or remove it. -/
theorem contains_foldl_of_not_inserted (set : ReadySet) {operations : List Operation}
    {priority : Priority} (kept : .insert priority ∉ operations) :
    (operations.foldl Operation.apply set).contains priority = true
      ↔ set.contains priority = true ∧ .remove priority ∉ operations := by
  -- The induction follows the operations; an insertion among them is of another priority.
  induction operations generalizing set with
  | nil => simp
  | cons operation rest contained =>
    rw [List.mem_cons, not_or] at kept
    rw [List.foldl_cons, contained _ kept.2]
    cases operation with
    | insert other =>
      have apart : other ≠ priority := fun same => kept.1 (same ▸ rfl)
      simp [Operation.apply, apart]
    | remove other => simp [Operation.apply, and_assoc, @eq_comm _ other priority]

end ReadySet

section Kernel

variable {ι κ : Type*} {work : Workload ι κ} {level : κ → Priority} {run : Run ι}

/-- Some job of a priority is pending. -/
def Waiting (work : Workload ι κ) (level : κ → Priority) (run : Run ι) (instant : ℕ)
    (priority : Priority) : Prop :=
  ∃ job, Pending work run job instant ∧ level (work.task job) = priority

/--
The operations on the ready set say what they are documented to say.

At every instant, before dispatching, the priorities of the jobs that arrive are marked as having
runnable work, those that have run out of it are marked as having none, and no other mark is made.
-/
structure KeepsReady (work : Workload ι κ) (level : κ → Priority) (run : Run ι)
    (operations : ℕ → List ReadySet.Operation) : Prop where
  marks : ∀ job, 0 < work.cost job →
    .insert (level (work.task job)) ∈ operations (work.release job)
  justified : ∀ {instant priority}, .insert priority ∈ operations instant →
    Waiting work level run instant priority
  drained : ∀ {instant priority}, .remove priority ∈ operations instant →
    ¬Waiting work level run instant priority
  unmarks : ∀ {instant priority}, Waiting work level run instant priority →
    ¬Waiting work level run (instant + 1) priority → .remove priority ∈ operations (instant + 1)

/-- The ready set an instant is dispatched by: every operation so far, on an empty set. -/
def readyAt (operations : ℕ → List ReadySet.Operation) (instant : ℕ) : ReadySet :=
  ReadySet.run ((List.range (instant + 1)).flatMap operations)

/-- An instant's operations are done on the ready set of the one before. -/
theorem readyAt_succ (operations : ℕ → List ReadySet.Operation) (instant : ℕ) :
    readyAt operations (instant + 1)
      = (operations (instant + 1)).foldl ReadySet.Operation.apply (readyAt operations instant) := by
  simp only [readyAt, ReadySet.run, @List.range_succ (instant + 1), List.flatMap_append,
    List.foldl_append, List.flatMap_singleton]

/-- A job that is pending was pending before, or arrives at this instant. -/
theorem pending_or_arrives {job : ι} {instant : ℕ} (pending : Pending work run job (instant + 1)) :
    Pending work run job instant ∨ work.release job = instant + 1 := by
  obtain ⟨arrived, unfinished⟩ := pending
  -- What is unfinished now was unfinished an instant ago.
  rcases Nat.lt_or_ge instant (work.release job) with late | early
  · exact .inr (by omega)
  · exact .inl ⟨early, (served_mono run job (Nat.le_succ instant)).trans_lt unfinished⟩

/-- A batch of operations that says what is waiting leaves exactly that in the ready set. -/
theorem contains_batch {set : ReadySet} {operations : List ReadySet.Operation} {priority : Priority}
    {before now : Prop} (held : set.contains priority = true ↔ before)
    (justified : .insert priority ∈ operations → now) (drained : .remove priority ∈ operations → ¬now)
    (begins : now → before ∨ .insert priority ∈ operations)
    (ends : before → ¬now → .remove priority ∈ operations) :
    (operations.foldl ReadySet.Operation.apply set).contains priority = true ↔ now := by
  -- Where work waits nothing is removed, and where none does nothing is inserted.
  by_cases waiting : now
  · rw [ReadySet.contains_foldl_of_not_removed set fun removed => drained removed waiting, held]
    exact iff_of_true (begins waiting) waiting
  · rw [ReadySet.contains_foldl_of_not_inserted set fun inserted => waiting (justified inserted), held]
    exact iff_of_false (fun still => still.2 (ends still.1 waiting)) waiting

/-- At every instant of the run the ready set holds exactly the priorities with pending work. -/
theorem KeepsReady.contains_readyAt {operations : ℕ → List ReadySet.Operation}
    (keeps : KeepsReady work level run operations) (instant : ℕ) (priority : Priority) :
    (readyAt operations instant).contains priority = true
      ↔ Waiting work level run instant priority := by
  -- A pending job needs service, so its arrival was marked.
  have marked : ∀ {job instant}, Pending work run job instant →
      .insert (level (work.task job)) ∈ operations (work.release job) :=
    fun pending => keeps.marks _ (Nat.zero_lt_of_lt pending.2)
  induction instant with
  | zero =>
    rw [readyAt, ReadySet.run, Nat.zero_add, List.range_one, List.flatMap_singleton]
    have empty : ReadySet.new.contains priority = true ↔ False := by simp
    refine contains_batch empty keeps.justified keeps.drained ?_ False.elim
    rintro ⟨job, pending, rfl⟩
    exact .inr (Nat.le_zero.mp pending.1 ▸ marked pending)
  | succ instant held =>
    rw [readyAt_succ]
    refine contains_batch held keeps.justified keeps.drained ?_ keeps.unmarks
    rintro ⟨job, pending, rfl⟩
    rcases pending_or_arrives pending with before | arrives
    · exact .inl ⟨job, before, rfl⟩
    · exact .inr (arrives ▸ marked pending)

/--
The highest priority of the ready set runs.

A pending job of that priority is served, whichever it is, and an empty set leaves the processor idle.
-/
structure Dispatched (work : Workload ι κ) (level : κ → Priority) (run : Run ι)
    (operations : ℕ → List ReadySet.Operation) : Prop
    extends KeepsReady work level run operations where
  serves : ∀ {instant job}, run instant = some job → Pending work run job instant
    ∧ (readyAt operations instant).highest = some (level (work.task job))
  idles : ∀ {instant}, run instant = none → (readyAt operations instant).highest = none

/-- Dispatching by the ready set is preemptive by priority. -/
theorem Dispatched.preemptive {operations : ℕ → List ReadySet.Operation}
    (dispatched : Dispatched work level run operations) : Preemptive work level run where
  pending := fun running => (dispatched.serves running).1
  busy := by
    intro instant job pending
    -- An idle processor would have an empty ready set, but the job's priority is in it.
    cases running : run instant with
    | some other => exact ⟨other, rfl⟩
    | none =>
      have empty := (ReadySet.isEmpty_iff _).mp
        ((ReadySet.highest_eq_none_iff _).mp (dispatched.idles running)) (level (work.task job))
      have held := (dispatched.contains_readyAt instant _).mpr ⟨job, pending, rfl⟩
      rw [empty] at held
      cases held
  urgent := by
    intro instant job running served_ pending
    have highest := (ReadySet.highest_eq_some_iff _ _).mp (dispatched.serves served_).2
    exact highest.2 ((dispatched.contains_readyAt instant _).mpr ⟨job, pending, rfl⟩)

/-- Every priority, from the idle level up. -/
def allPriorities : List Priority :=
  (List.range priorityLevels).filterMap fun level => Priority.new (UInt8.ofNat level)

/-- Every priority is listed. -/
theorem mem_allPriorities (priority : Priority) : priority ∈ allPriorities := by
  refine List.mem_filterMap.mpr ⟨priority.level.toNat, List.mem_range.mpr priority.below, ?_⟩
  rw [UInt8.ofNat_toNat, Priority.new_level]

open scoped Classical in
/-- The operations that mark every priority anew at every instant. -/
noncomputable def freshMarks (work : Workload ι κ) (level : κ → Priority) (run : Run ι)
    (instant : ℕ) : List ReadySet.Operation :=
  allPriorities.map fun priority =>
    if Waiting work level run instant priority then .insert priority else .remove priority

/-- A fresh mark says whether its priority has work. -/
theorem mem_freshMarks {instant : ℕ} {priority : Priority} :
    (.insert priority ∈ freshMarks work level run instant ↔ Waiting work level run instant priority)
      ∧ (.remove priority ∈ freshMarks work level run instant
        ↔ ¬Waiting work level run instant priority) := by
  have listed := mem_allPriorities priority
  -- Every priority is marked once, by an insertion or by a removal.
  constructor
  · rw [freshMarks, List.mem_map]
    constructor
    · rintro ⟨other, -, same⟩
      split at same
      · cases same
        assumption
      · cases same
    · intro waiting
      exact ⟨priority, listed, if_pos waiting⟩
  · rw [freshMarks, List.mem_map]
    constructor
    · rintro ⟨other, -, same⟩
      split at same
      · cases same
      · cases same
        assumption
    · intro idle
      exact ⟨priority, listed, if_neg idle⟩

/-- In a preemptive run, fresh marks keep the ready set. -/
theorem keepsReady_freshMarks (legal : Preemptive work level run) :
    KeepsReady work level run (freshMarks work level run) where
  marks := by
    intro job needed
    -- A job that needs service is pending when it arrives.
    have untouched := served_release legal (le_refl (work.release job))
    exact mem_freshMarks.1.mpr ⟨job, ⟨le_rfl, untouched.trans_lt needed⟩, rfl⟩
  justified := fun marked => mem_freshMarks.1.mp marked
  drained := fun unmarked => mem_freshMarks.2.mp unmarked
  unmarks := fun _ idle => mem_freshMarks.2.mpr idle

/-- A preemptive run is dispatched by the ready set its work is marked in. -/
theorem dispatched_freshMarks (legal : Preemptive work level run) :
    Dispatched work level run (freshMarks work level run) := by
  have keeps := keepsReady_freshMarks legal
  refine ⟨keeps, ?_, ?_⟩
  · intro instant job running
    have pending := legal.pending running
    refine ⟨pending, (ReadySet.highest_eq_some_iff _ _).mpr ⟨?_, ?_⟩⟩
    · exact (keeps.contains_readyAt instant _).mpr ⟨job, pending, rfl⟩
    · intro other held
      obtain ⟨waiting, pending', rfl⟩ := (keeps.contains_readyAt instant other).mp held
      exact legal.urgent running pending'
  -- An idle instant has no pending job, because the run is busy while there is one.
  · intro instant idle
    refine (ReadySet.highest_eq_none_iff _).mpr ((ReadySet.isEmpty_iff _).mpr fun priority => ?_)
    rw [← Bool.not_eq_true, keeps.contains_readyAt]
    rintro ⟨job, pending, -⟩
    obtain ⟨running, serving⟩ := legal.busy pending
    rw [idle] at serving
    cases serving

/--
Dispatching by the ready set is preemptive scheduling by priority, no more and no less.

Every run a kernel can dispatch by a ready set it keeps is preemptive, and every preemptive run can be
dispatched so.
-/
theorem dispatched_iff_preemptive (work : Workload ι κ) (level : κ → Priority) (run : Run ι) :
    (∃ operations, Dispatched work level run operations) ↔ Preemptive work level run :=
  ⟨fun ⟨_, dispatched⟩ => dispatched.preemptive, fun legal => ⟨_, dispatched_freshMarks legal⟩⟩

end Kernel

section Analysis

variable {tasks : List TaskTiming} {level : TaskTiming → Priority} {ι : Type}
  {work : Workload ι TaskTiming} {run : Run ι}

/-- The level of a priority the kernel accepts is the raw one. -/
theorem Priority.level_of_new {raw : UInt8} {priority : Priority}
    (accepted : Priority.new raw = some priority) : priority.level = raw := by
  unfold Priority.new at accepted
  -- An accepted value is stored as it is.
  split at accepted
  · cases accepted
    rfl
  · cases accepted

/-- Tasks are as urgent as the priorities they are given. -/
theorem level_le_iff {task other : TaskTiming} (given : Priority.new task.priority = some (level task))
    (given' : Priority.new other.priority = some (level other)) :
    level task ≤ level other ↔ task.urgency ≤ other.urgency := by
  rw [TaskTiming.urgency, TaskTiming.urgency, ← Priority.level_of_new given,
    ← Priority.level_of_new given']
  exact Iff.rfl

/-- Preemption by the kernel's priorities is preemption by urgency. -/
theorem preemptive_level_iff (releases : LegalReleases tasks work)
    (levels : ∀ task ∈ tasks, Priority.new task.priority = some (level task)) :
    Preemptive work level run ↔ Preemptive work TaskTiming.urgency run := by
  -- Every released job is of a listed task, whose priority the kernel accepted.
  have same : ∀ job other, level (work.task job) ≤ level (work.task other)
      ↔ (work.task job).urgency ≤ (work.task other).urgency :=
    fun job other => level_le_iff (levels _ (releases.listed job)) (levels _ (releases.listed other))
  constructor
  · intro legal
    exact ⟨legal.pending, legal.busy, fun running pending => (same _ _).mp (legal.urgent running pending)⟩
  · intro legal
    exact ⟨legal.pending, legal.busy, fun running pending => (same _ _).mpr (legal.urgent running pending)⟩

/--
A kernel that dispatches a schedulable set by its ready set meets every published response.

Whatever the order of the operations on the set, and whichever job of the highest level is served, each
job is done within the response the analysis passed its task with.
-/
theorem dispatched_runs_meet_responses (constrained : Constrained tasks)
    (covers : CoversHolds tasks fun _ => 0) (schedulable : (analyse tasks).isSchedulable = true)
    (levels : ∀ task ∈ tasks, Priority.new task.priority = some (level task))
    (releases : LegalReleases tasks work) {operations : ℕ → List ReadySet.Operation}
    (dispatched : Dispatched work level run operations) (job : ι) :
    ∃ response slack, verdictFor (work.task job) tasks = .pass response slack
      ∧ Finished work run job (work.release job + response.toNat) := by
  -- Dispatching by the set is preemptive by the levels, which are the priorities of the tasks.
  have legal := (preemptive_level_iff releases levels).mp dispatched.preemptive
  obtain ⟨response, slack, passed⟩ := pass_of_isSchedulable schedulable (releases.listed job)
  exact ⟨response, slack, passed, finished_of_pass constrained covers schedulable releases
    legal.conserving (fun task _ => legal.heldAtMost_zero task.urgency) passed⟩

end Analysis

/-- The kernel priority of a task, the idle one if it has none. -/
def kernelLevel (task : TaskTiming) : Priority :=
  (Priority.new task.priority).getD Priority.idle

/-- Dispatched by its ready set, the charged bank's pump meets the published response. -/
theorem chargedBank_dispatched : ∃ response slack, verdictFor chargedPump chargedBank = .pass response slack
    ∧ Finished (synchronousWork chargedBank) (adverseRun chargedBank chargedPump)
      (⟨chargedPump, by decide⟩, 0)
      ((synchronousWork chargedBank).release (⟨chargedPump, by decide⟩, 0) + response.toNat) := by
  have releases : LegalReleases chargedBank (synchronousWork chargedBank) :=
    synchronousWork_legal (by decide)
  have levels : ∀ task ∈ chargedBank, Priority.new task.priority = some (kernelLevel task) := by
    have given : ∀ task ∈ chargedBank, (Priority.new task.priority).isSome := by decide
    intro task listed
    obtain ⟨priority, accepted⟩ := Option.isSome_iff_exists.mp (given task listed)
    rw [kernelLevel, accepted, Option.getD_some]
  -- The run to the disadvantage of the pump is dispatched by fresh marks.
  have legal := (preemptive_level_iff releases levels).mpr
    (adverseRun_preemptive chargedBank chargedPump)
  exact dispatched_runs_meet_responses chargedBank_constrained
    (show CoversHolds chargedBank fun _ => 0 from by unfold CoversHolds; decide) (by decide) levels
    releases (dispatched_freshMarks legal) (⟨chargedPump, by decide⟩, 0)

end Malleus
