import Malleus.Analyzer.TaskSet
import Malleus.Realtime.Greedy

/-! Tasks sharing a priority: what first-in-first-out service costs a task that the verdict leaves out. -/

namespace Malleus

open Realtime

/-- The other tasks of a task's own priority. -/
def peers (task : TaskTiming) (all : List TaskTiming) : List TaskTiming :=
  all.filter fun other => other ≠ task ∧ other.priority = task.priority

/-- A fully declared task set without blocking, and one of its tasks that has a peer. -/
structure SharesPriority (tasks : List TaskTiming) (task : TaskTiming) : Prop where
  distinct : (tasks.map TaskTiming.name).Nodup
  listed : task ∈ tasks
  declared : ∀ other ∈ tasks, other.Declared
  works : ∀ other ∈ tasks, other.wcet ≠ some 0
  unblocked : ∀ other ∈ tasks, other.blocking = 0
  constrained : ∀ other ∈ tasks, ∀ deadline, other.effectiveDeadline = some deadline →
    deadline.toNat ≤ other.periodTicks
  shared : ∃ peer ∈ tasks, peer ≠ task ∧ peer.priority = task.priority

/-- Everything the task can wait for within a window: its own work, one job per peer, interference. -/
def sharedDemand (tasks : List TaskTiming) (task : TaskTiming) (window : ℕ) : ℕ :=
  task.wcetTicks + ((peers task tasks).map TaskTiming.wcetTicks).sum +
    ((moreUrgent task tasks).map fun other =>
      window ⌈/⌉ other.periodTicks * other.wcetTicks).sum

/-- Every job of a task finishes within a bound in every legal first-in-first-out run. -/
def BoundsEveryRun (tasks : List TaskTiming) (task : TaskTiming) (bound : ℕ) : Prop :=
  ∀ (ι : Type) (work : Workload ι TaskTiming) (run : Run ι), LegalReleases tasks work →
    Preemptive work TaskTiming.urgency run → FirstInFirstOut work TaskTiming.urgency run →
    ∀ job, work.task job = task → Finished work run job (work.release job + bound)

/-- Every task of a list released at once and then periodically, each job with its full cost. -/
def synchronousWork (tasks : List TaskTiming) : Workload ({task // task ∈ tasks} × ℕ) TaskTiming where
  task job := job.1
  release job := job.2 * job.1.1.periodTicks
  cost job := job.1.1.wcetTicks

/-- Urgent jobs first, then earlier arrivals, then anything before the disadvantaged task. -/
def disadvantage (tasks : List TaskTiming) (task : TaskTiming)
    (job : {task // task ∈ tasks} × ℕ) : ℕ ×ₗ ℕ ×ₗ ℕ :=
  toLex (255 - job.1.1.urgency,
    toLex (job.2 * job.1.1.periodTicks, if job.1.1 = task then 1 else 0))

variable {tasks : List TaskTiming} {task : TaskTiming}

/-- Every task of the synchronous workload is exactly periodic from the start. -/
theorem synchronousWork_periodic {other : TaskTiming} (listed : other ∈ tasks)
    (declared : other.Declared) :
    Periodic (synchronousWork tasks) other 0 other.periodTicks other.wcetTicks where
  released := by
    intro index
    exact ⟨(⟨other, listed⟩, index), rfl, (Nat.zero_add _).symm⟩
  arrival := by
    intro job ofTask
    subst ofTask
    exact ⟨job.2, (Nat.zero_add _).symm⟩
  full := by
    intro job ofTask
    subst ofTask
    rfl
  single := by
    -- Equal release instants of one task are equal activation indices.
    intro job rival ofTask rivalOfTask same
    have sameTask : job.1 = rival.1 := Subtype.ext (ofTask.trans rivalOfTask.symm)
    have released : job.2 * other.periodTicks = rival.2 * other.periodTicks := by
      have left : job.1.1 = other := ofTask
      have right : rival.1.1 = other := rivalOfTask
      simpa [synchronousWork, left, right] using same
    exact Prod.ext sameTask (Nat.eq_of_mul_eq_mul_right declared.period_pos released)

/-- The synchronous workload respects every declaration. -/
theorem synchronousWork_legal (declared : ∀ other ∈ tasks, other.Declared) :
    LegalReleases tasks (synchronousWork tasks) where
  listed := fun job => job.1.2
  spaced := by
    intro job other period sameTask different known
    -- Periodic releases of a declared task are spaced by its period.
    have sporadic := (synchronousWork_periodic job.1.2 (declared _ job.1.2)).sporadic
    have ticks : job.1.1.periodTicks = period.toNat := by
      have known : job.1.1.period = some period := known
      rw [TaskTiming.periodTicks, known, Option.getD_some]
    rw [← ticks]
    exact sporadic.spaced rfl sameTask.symm different
  bounded := by
    intro job wcet cost
    -- Every job needs exactly the declared cost.
    have cost : job.1.1.wcet = some wcet := cost
    simp [synchronousWork, TaskTiming.wcetTicks, cost]

/-- The disadvantaging order is a fixed-priority order. -/
theorem disadvantage_urgent (job other : {task // task ∈ tasks} × ℕ)
    (urgent : job.1.1.urgency < other.1.1.urgency) :
    disadvantage tasks task other < disadvantage tasks task job := by
  -- The first component orders by urgency, reversed within eight bits.
  have bound : other.1.1.urgency < 256 := other.1.1.priority.toNat_lt
  rw [disadvantage, disadvantage, Prod.Lex.toLex_lt_toLex]
  exact Or.inl (by simp only; omega)

/-- The disadvantaging order keeps arrivals of one priority in order. -/
theorem disadvantage_early (job other : {task // task ∈ tasks} × ℕ)
    (level : job.1.1.urgency = other.1.1.urgency)
    (early : (synchronousWork tasks).release job < (synchronousWork tasks).release other) :
    disadvantage tasks task job < disadvantage tasks task other := by
  -- Equal urgency leaves the release instant to decide.
  rw [disadvantage, disadvantage, Prod.Lex.toLex_lt_toLex]
  refine Or.inr ⟨by simp only [level], ?_⟩
  rw [Prod.Lex.toLex_lt_toLex]
  exact Or.inl early

/-- Membership in the peers is being a different task of the same priority. -/
theorem mem_peers {other : TaskTiming} {all : List TaskTiming} :
    other ∈ peers task all ↔ other ∈ all ∧ other ≠ task ∧ other.priority = task.priority := by
  simp [peers]

/-- A peer's first job goes before the disadvantaged task's first job. -/
theorem disadvantage_peer {peer : TaskTiming} (present : peer ∈ tasks) (different : peer ≠ task)
    (level : peer.priority = task.priority) (listed : task ∈ tasks) :
    disadvantage tasks task (⟨peer, present⟩, 0) < disadvantage tasks task (⟨task, listed⟩, 0) := by
  rw [disadvantage, disadvantage, Prod.Lex.toLex_lt_toLex]
  refine Or.inr ⟨by simp only [TaskTiming.urgency, level], ?_⟩
  -- Both arrive at once, so only the last component tells them apart.
  rw [Prod.Lex.toLex_lt_toLex]
  exact Or.inr ⟨by simp, by simp [different]⟩

/-- The run that serves the synchronous workload to a task's disadvantage. -/
noncomputable def adverseRun (tasks : List TaskTiming) (task : TaskTiming) :
    Run ({task // task ∈ tasks} × ℕ) :=
  greedy (synchronousWork tasks) (disadvantage tasks task)

/-- The adverse run is a fixed-priority run. -/
theorem adverseRun_preemptive (tasks : List TaskTiming) (task : TaskTiming) :
    Preemptive (synchronousWork tasks) TaskTiming.urgency (adverseRun tasks task) :=
  (greedy_ranked _ _).preemptive disadvantage_urgent

/-- The adverse run serves each priority in order of arrival. -/
theorem adverseRun_firstInFirstOut (tasks : List TaskTiming) (task : TaskTiming) :
    FirstInFirstOut (synchronousWork tasks) TaskTiming.urgency (adverseRun tasks task) :=
  (greedy_ranked _ _).firstInFirstOut disadvantage_early

/-- What another task claims before a task's first job is through. -/
def aheadShare (tasks : List TaskTiming) (task other : TaskTiming) (length : ℕ) : ℕ :=
  -- A more urgent task claims every activation, and a peer claims its first job.
  if other ∈ moreUrgent task tasks then length ⌈/⌉ other.periodTicks * other.wcetTicks
  else other.wcetTicks

/-- No task is both more urgent than another and its peer. -/
theorem not_mem_moreUrgent_of_mem_peers {other : TaskTiming} {all : List TaskTiming}
    (beside : other ∈ peers task all) : other ∉ moreUrgent task all := by
  -- A peer has the same priority, and no priority exceeds itself.
  intro above
  have urgent := (mem_moreUrgent.mp above).2
  rw [(mem_peers.mp beside).2.2, UInt8.lt_iff_toNat_lt] at urgent
  exact lt_irrefl _ urgent

/-- The shares of everything ahead of a task make up its shared demand. -/
theorem sharedDemand_eq (once : tasks.Nodup) (task : TaskTiming) (length : ℕ) :
    sharedDemand tasks task length =
      task.wcetTicks + ∑ other ∈ (moreUrgent task tasks ++ peers task tasks).toFinset,
        aheadShare tasks task other length := by
  have distinct : (moreUrgent task tasks ++ peers task tasks).Nodup := by
    rw [List.nodup_append]
    refine ⟨once.filter _, once.filter _, ?_⟩
    intro other above peer beside same
    exact not_mem_moreUrgent_of_mem_peers beside (same ▸ above)
  rw [List.sum_toFinset _ distinct, List.map_append, List.sum_append, sharedDemand]
  -- Each half of the list is charged by its own rule.
  have above : (moreUrgent task tasks).map (fun other => aheadShare tasks task other length) =
      (moreUrgent task tasks).map fun other =>
        length ⌈/⌉ other.periodTicks * other.wcetTicks := by
    apply List.map_congr_left
    intro other member
    rw [aheadShare, if_pos member]
  have beside : (peers task tasks).map (fun other => aheadShare tasks task other length) =
      (peers task tasks).map TaskTiming.wcetTicks := by
    apply List.map_congr_left
    intro other member
    rw [aheadShare, if_neg (not_mem_moreUrgent_of_mem_peers member)]
  rw [above, beside]
  omega

/-- In a tick of the adverse run given to the first job, everything ahead has had its share. -/
theorem aheadShare_claimed (declared : ∀ other ∈ tasks, other.Declared) (listed : task ∈ tasks)
    {other : TaskTiming} (ahead : other ∈ moreUrgent task tasks ++ peers task tasks) {length : ℕ}
    (nonempty : 0 < length)
    (serving : adverseRun tasks task (length - 1) = some (⟨task, listed⟩, 0)) :
    aheadShare tasks task other length ≤
      ticks (adverseRun tasks task)
        (fun job => (synchronousWork tasks).task job = other) 0 length := by
  have legal := adverseRun_preemptive tasks task
  have opening : (synchronousWork tasks).release (⟨task, listed⟩, 0) = 0 := by
    simp [synchronousWork]
  rw [aheadShare]
  split
  · rename_i above
    obtain ⟨present, urgent⟩ := mem_moreUrgent.mp above
    have regular := synchronousWork_periodic present (declared other present)
    have more : task.urgency < other.urgency := UInt8.lt_iff_toNat_lt.mp urgent
    rw [← opening] at regular ⊢
    exact urgent_claimed legal more (declared other present).period_pos regular nonempty
      (by rw [opening, Nat.zero_add]; exact serving)
  · rename_i notAbove
    have beside : other ∈ peers task tasks := by
      rcases List.mem_append.mp ahead with above | beside
      · exact absurd above notAbove
      · exact beside
    obtain ⟨present, different, level⟩ := mem_peers.mp beside
    -- The peer's first job is out of the way before the tick is given to the task's own.
    have early : (synchronousWork tasks).release (⟨other, present⟩, 0) ≤ length - 1 := by
      simp [synchronousWork]
    have completed := (greedy_ranked _ _).finished_of_lt serving
      (disadvantage_peer present different level listed) early
    have later : length - 1 ≤ 0 + length := by omega
    exact cost_le_ticks_task legal (Nat.zero_le _) (completed.mono later)

/-- A task's first job in its adverse run finishes only in a window that holds the shared demand. -/
theorem sharedDemand_le_of_adverse (once : tasks.Nodup) (declared : ∀ other ∈ tasks, other.Declared)
    (works : task.wcet ≠ some 0) (listed : task ∈ tasks) {window : ℕ}
    (done : Finished (synchronousWork tasks) (adverseRun tasks task) (⟨task, listed⟩, 0) window) :
    ∃ length ≤ window, sharedDemand tasks task length ≤ length := by
  -- The first job is released at zero and needs time.
  have opening : (synchronousWork tasks).release (⟨task, listed⟩, 0) = 0 := by
    simp [synchronousWork]
  have needed : 0 < (synchronousWork tasks).cost (⟨task, listed⟩, 0) :=
    wcetTicks_pos (declared task listed) works
  have apart : task ∉ (moreUrgent task tasks ++ peers task tasks).toFinset := by
    simp [mem_moreUrgent, mem_peers]
  -- Everything ahead has had its share whenever the first job is served.
  obtain ⟨length, below, _, enough⟩ := demand_le_of_finished (adverseRun_preemptive tasks task)
    (aheadShare tasks task) needed apart
    (by
      intro other member length nonempty serving
      rw [opening, Nat.zero_add] at serving
      rw [opening]
      exact aheadShare_claimed declared listed (List.mem_toFinset.mp member) nonempty serving)
    (by rw [opening, Nat.zero_add]; exact done)
  exact ⟨length, below, (sharedDemand_eq once task length).trans_le enough⟩

/-- The disadvantaged task's first job finishes only in a window that holds the shared demand. -/
theorem sharedDemand_le_of_finished (shares : SharesPriority tasks task) {window : ℕ}
    (done : Finished (synchronousWork tasks) (adverseRun tasks task) (⟨task, shares.listed⟩, 0)
      window) :
    ∃ length ≤ window, sharedDemand tasks task length ≤ length :=
  sharedDemand_le_of_adverse shares.distinct.of_map shares.declared
    (shares.works task shares.listed) shares.listed done

/-- The verdict's own demand is the shared demand without the peers. -/
theorem sharedDemand_eq_exactDemand (once : tasks.Nodup) {wcet : UInt64}
    (cost : task.wcet = some wcet) (length : ℕ) :
    sharedDemand tasks task length =
      exactDemand wcet ((moreUrgent task tasks).map TaskTiming.times) length +
        ((peers task tasks).map TaskTiming.wcetTicks).sum := by
  -- Both sums run over the more urgent tasks; the peers remain.
  have own : task.wcetTicks = wcet.toNat := by rw [TaskTiming.wcetTicks, cost, Option.getD_some]
  have above : (moreUrgent task tasks).Nodup := once.filter _
  rw [exactDemand_eq_taskDemand once, taskDemand, List.sum_toFinset _ above, sharedDemand, own]
  omega

/-- A task with a peer waits for at least one tick of other work. -/
theorem peers_cost_pos (shares : SharesPriority tasks task) :
    0 < ((peers task tasks).map TaskTiming.wcetTicks).sum := by
  -- The peer that exists contributes its cost, which is not zero.
  obtain ⟨peer, present, different, level⟩ := shares.shared
  have member : peer.wcetTicks ∈ (peers task tasks).map TaskTiming.wcetTicks :=
    List.mem_map.mpr ⟨peer, mem_peers.mpr ⟨present, different, level⟩, rfl⟩
  exact lt_of_lt_of_le (wcetTicks_pos (shares.declared peer present) (shares.works peer present))
    (List.le_sum_of_mem member)

/-- The verdict of a task with peers rests on the search that ignores them. -/
theorem SharesPriority.established (shares : SharesPriority tasks task) {response slack : UInt64}
    (passed : verdictFor task tasks = .pass response slack) :
    ∃ wcet, task.wcet = some wcet ∧
      response.toNat ≤
        exactDemand wcet ((moreUrgent task tasks).map TaskTiming.times) response.toNat ∧
      ∀ window,
        Prefixed (exactDemand wcet ((moreUrgent task tasks).map TaskTiming.times)) window →
          response.toNat ≤ window := by
  have declared := shares.declared task shares.listed
  obtain ⟨period, known⟩ := Option.isSome_iff_exists.mp declared.2.1
  have above : ∀ other ∈ moreUrgent task tasks, other.Declared :=
    fun other member => shares.declared other (mem_moreUrgent.mp member).1
  obtain ⟨deadline, contract⟩ : ∃ deadline, task.effectiveDeadline = some deadline := by
    rw [TaskTiming.effectiveDeadline, known]
    cases task.deadline <;> simp
  obtain ⟨wcet, cost, positive, established⟩ := verdictFor_established shares.distinct
    shares.listed declared above (shares.unblocked task shares.listed) contract
  rw [passed] at established
  -- The search stopped at a value its own, possibly clipped, demand reproduces.
  have computed : (nextResponse wcet _ response).toNat = _ := toNat_nextResponse positive
  rw [established.1] at computed
  exact ⟨wcet, cost, by omega, established.2.2.2⟩

/-- Some legal first-in-first-out run keeps a passing task with peers past its response. -/
theorem SharesPriority.not_boundsEveryRun (shares : SharesPriority tasks task)
    {response slack : UInt64} (passed : verdictFor task tasks = .pass response slack) :
    ¬BoundsEveryRun tasks task response.toNat := by
  intro bounds
  have done := bounds _ (synchronousWork tasks) (adverseRun tasks task)
    (synchronousWork_legal shares.declared) (adverseRun_preemptive tasks task)
    (adverseRun_firstInFirstOut tasks task) (⟨task, shares.listed⟩, 0) rfl
  have opening : (synchronousWork tasks).release (⟨task, shares.listed⟩, 0) = 0 := by
    simp [synchronousWork]
  rw [opening, Nat.zero_add] at done
  obtain ⟨length, below, enough⟩ := sharedDemand_le_of_finished shares done
  obtain ⟨wcet, cost, _, least⟩ := shares.established passed
  have extra := peers_cost_pos shares
  rw [sharedDemand_eq_exactDemand shares.distinct.of_map cost] at enough
  -- Taking the peers' jobs out leaves a shorter window that still holds the verdict's demand.
  have shorter : Prefixed (exactDemand wcet ((moreUrgent task tasks).map TaskTiming.times))
      (length - ((peers task tasks).map TaskTiming.wcetTicks).sum) := by
    have mono := exactDemand_mono wcet ((moreUrgent task tasks).map TaskTiming.times)
      (Nat.sub_le length ((peers task tasks).map TaskTiming.wcetTicks).sum)
    unfold Prefixed
    omega
  have := least _ shorter
  omega

/-- A passing task's response leaves out at least one tick of its peers' work. -/
theorem SharesPriority.response_lt (shares : SharesPriority tasks task)
    {response slack : UInt64} (passed : verdictFor task tasks = .pass response slack) :
    response.toNat < sharedDemand tasks task response.toNat := by
  -- The response covers the demand above it, so the peers come on top.
  obtain ⟨wcet, cost, reproduced, _⟩ := shares.established passed
  have extra := peers_cost_pos shares
  rw [sharedDemand_eq_exactDemand shares.distinct.of_map cost]
  omega

/-- A passing response of a task with peers bounds neither its runs nor the demand it waits for. -/
theorem pass_omits_peers (shares : SharesPriority tasks task) {response slack : UInt64}
    (passed : verdictFor task tasks = .pass response slack) :
    ¬BoundsEveryRun tasks task response.toNat ∧
      ¬sharedDemand tasks task response.toNat ≤ response.toNat :=
  ⟨shares.not_boundsEveryRun passed, not_le.mpr (shares.response_lt passed)⟩

/-- Deadlines are within periods if the deadlines read with a default are. -/
theorem constrained_of_getD
    (within : ∀ other ∈ tasks, (other.effectiveDeadline.getD 0).toNat ≤ other.periodTicks) :
    ∀ other ∈ tasks, ∀ deadline, other.effectiveDeadline = some deadline →
      deadline.toNat ≤ other.periodTicks := by
  -- A declared deadline is what the default would not replace.
  intro other listed deadline contract
  have below := within other listed
  rw [contract, Option.getD_some] at below
  exact below

/-- Three pollers of one priority, below an alarm. -/
def pollerBank : List TaskTiming :=
  [⟨"alarm", 12, some 400, none, some 40, 0⟩, ⟨"pump", 4, some 1000, none, some 100, 0⟩,
    ⟨"valve", 4, some 1000, none, some 100, 0⟩, ⟨"gauge", 4, some 2000, some 900, some 100, 0⟩]

/-- One of the pollers. -/
def pumpPoller : TaskTiming := ⟨"pump", 4, some 1000, none, some 100, 0⟩

/-- The pump's response of 140 ticks leaves out the two other pollers. -/
theorem pumpPoller_exceeded : ¬BoundsEveryRun pollerBank pumpPoller 140 ∧
    ¬sharedDemand pollerBank pumpPoller 140 ≤ 140 := by
  have shares : SharesPriority pollerBank pumpPoller := by
    refine ⟨by decide, by decide, by decide, by decide, by decide, constrained_of_getD (by decide), ?_⟩
    exact ⟨⟨"valve", 4, some 1000, none, some 100, 0⟩, by decide, by decide, rfl⟩
  -- The search counts one activation of the alarm and no peer.
  have passed : verdictFor pumpPoller pollerBank = .pass 140 860 := by decide
  exact pass_omits_peers shares passed

/-- One of two equal tasks that fill the processor together. -/
def leftTwin : TaskTiming := ⟨"left", 5, some 1000, none, some 500, 0⟩

/-- The other one. -/
def rightTwin : TaskTiming := ⟨"right", 5, some 1000, none, some 500, 0⟩

/-- The left twin passes with its own execution time as response, though it can finish only after the
right twin does. -/
theorem leftTwin_late : SharesPriority [leftTwin, rightTwin] leftTwin
    ∧ verdictFor leftTwin [leftTwin, rightTwin] = .pass 500 500
    ∧ ¬BoundsEveryRun [leftTwin, rightTwin] leftTwin 500
    ∧ ¬sharedDemand [leftTwin, rightTwin] leftTwin 500 ≤ 500 := by
  have shares : SharesPriority [leftTwin, rightTwin] leftTwin := by
    refine ⟨by decide, by decide, by decide, by decide, by decide, constrained_of_getD (by decide), ?_⟩
    exact ⟨rightTwin, by decide, by decide, rfl⟩
  have passed : verdictFor leftTwin [leftTwin, rightTwin] = .pass 500 500 := by decide
  have ticks : (500 : UInt64).toNat = 500 := rfl
  -- The run that serves the right twin first keeps the left one past its response.
  have late := shares.not_boundsEveryRun passed
  have longer := shares.response_lt passed
  rw [ticks] at late longer
  exact ⟨shares, passed, late, not_le.mpr longer⟩

end Malleus
