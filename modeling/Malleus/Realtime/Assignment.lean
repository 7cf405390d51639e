import Malleus.Realtime.Response
import Mathlib.Data.Finset.Max

/-! Priority assignments: an order by deadline meets every deadline that some order meets. -/

namespace Realtime

open scoped Classical

variable {κ π ρ : Type*} [LinearOrder π] [LinearOrder ρ]

/-- A task meets its deadline when a window within it holds the task's demand and all above it. -/
def Meets (tasks : Finset κ) (period cost deadline : κ → ℕ) (rank : κ → π) (task : κ) : Prop :=
  ∃ window ≤ deadline task,
    Prefixed (taskDemand (cost task) (tasks.filter fun other => rank task < rank other) period cost)
      window

/-- Every task meets its deadline. -/
def Feasible (tasks : Finset κ) (period cost deadline : κ → ℕ) (rank : κ → π) : Prop :=
  ∀ task ∈ tasks, Meets tasks period cost deadline rank task

variable {tasks : Finset κ} {period cost deadline : κ → ℕ}

/-- Where one member of a group is served last, every member fits into its window, served last. -/
theorem prefixed_of_last {group above : Finset κ} {last member : κ} {window : ℕ}
    (nonempty : 0 < window) (positive : ∀ task ∈ group, 0 < period task)
    (single : window ≤ period last) (lastIn : last ∈ group) (memberIn : member ∈ group)
    (covers : group.erase last ⊆ above)
    (enough : Prefixed (taskDemand (cost last) above period cost) window) :
    Prefixed (taskDemand (cost member) (group.erase member) period cost) window := by
  have once : window ⌈/⌉ period last * cost last ≤ cost last := by
    have activations : window ⌈/⌉ period last ≤ 1 := by
      rw [ceilDiv_le_iff_le_mul (positive last lastIn), Nat.mul_one]
      exact single
    exact (Nat.mul_le_mul_right _ activations).trans_eq (Nat.one_mul _)
  have atLeast : cost member ≤ window ⌈/⌉ period member * cost member :=
    Nat.le_mul_of_pos_left _ (ceilDiv_pos nonempty (positive member memberIn))
  -- Both orders serve the whole group; only which cost counts as the base differs.
  calc taskDemand (cost member) (group.erase member) period cost window
      ≤ window ⌈/⌉ period member * cost member
        + ∑ task ∈ group.erase member, window ⌈/⌉ period task * cost task :=
        Nat.add_le_add_right atLeast _
    _ = ∑ task ∈ group, window ⌈/⌉ period task * cost task :=
        Finset.add_sum_erase _ (fun task => window ⌈/⌉ period task * cost task) memberIn
    _ = window ⌈/⌉ period last * cost last
        + ∑ task ∈ group.erase last, window ⌈/⌉ period task * cost task :=
        (Finset.add_sum_erase _ (fun task => window ⌈/⌉ period task * cost task) lastIn).symm
    _ ≤ taskDemand (cost last) above period cost window :=
        Nat.add_le_add once (Finset.sum_le_sum_of_subset covers)
    _ ≤ window := enough

/--
An order by deadline is feasible if any order is, for deadlines within the periods.

Of the tasks that come before a task in the order by deadline, and the task itself, the other order
serves one last; its window holds the work of them all, and its deadline is no later.
-/
theorem Feasible.deadlineMonotonic {rank : κ → π} {byDeadline : κ → ρ}
    (feasible : Feasible tasks period cost deadline rank) (injective : Set.InjOn rank tasks)
    (positive : ∀ task ∈ tasks, 0 < period task)
    (within : ∀ task ∈ tasks, deadline task ≤ period task)
    (monotonic : ∀ task ∈ tasks, ∀ other ∈ tasks, byDeadline task < byDeadline other →
      deadline other ≤ deadline task) :
    Feasible tasks period cost deadline byDeadline := by
  intro task listed
  by_cases idle : cost task = 0
  -- Without work the task needs no window at all.
  · refine ⟨0, Nat.zero_le _, ?_⟩
    simp [Prefixed, taskDemand, idle]
  set group := (tasks.filter fun other =>
    other = task ∨ byDeadline task < byDeadline other).filter fun other => cost other ≠ 0 with named
  have ofGroup : ∀ other, other ∈ group ↔
      (other ∈ tasks ∧ (other = task ∨ byDeadline task < byDeadline other)) ∧ cost other ≠ 0 := by
    intro other
    rw [named, Finset.mem_filter, Finset.mem_filter]
  have inGroup : task ∈ group := (ofGroup task).mpr ⟨⟨listed, .inl rfl⟩, idle⟩
  obtain ⟨last, lastIn, least⟩ := Finset.exists_min_image group rank ⟨task, inGroup⟩
  obtain ⟨⟨lastListed, order⟩, works⟩ := (ofGroup last).mp lastIn
  obtain ⟨window, early, enough⟩ := feasible last lastListed
  have nonempty : 0 < window := by
    unfold Prefixed taskDemand at enough
    omega
  have sooner : deadline last ≤ deadline task := by
    rcases order with rfl | urgent
    · exact le_rfl
    · exact monotonic task listed last lastListed urgent
  refine ⟨window, early.trans sooner, ?_⟩
  have fits : Prefixed (taskDemand (cost task) (group.erase task) period cost) window := by
    apply prefixed_of_last nonempty _ (early.trans (within last lastListed)) lastIn inGroup _ enough
    · intro other member
      exact positive other ((ofGroup other).mp member).1.1
    · intro other member
      obtain ⟨different, present⟩ := Finset.mem_erase.mp member
      have present' := ((ofGroup other).mp present).1.1
      refine Finset.mem_filter.mpr ⟨present', lt_of_le_of_ne (least other present) ?_⟩
      intro same
      exact different (injective lastListed present' same).symm
  -- What is left out of the group has no work.
  have same : ∑ other ∈ group.erase task, window ⌈/⌉ period other * cost other
      = ∑ other ∈ tasks.filter (fun other => byDeadline task < byDeadline other),
        window ⌈/⌉ period other * cost other := by
    apply Finset.sum_subset
    · intro other member
      obtain ⟨different, present⟩ := Finset.mem_erase.mp member
      obtain ⟨⟨present', order⟩, -⟩ := (ofGroup other).mp present
      exact Finset.mem_filter.mpr ⟨present', order.resolve_left different⟩
    · intro other member outside
      obtain ⟨present, urgent⟩ := Finset.mem_filter.mp member
      have different : other ≠ task := by
        rintro rfl
        exact lt_irrefl _ urgent
      have free : cost other = 0 := by
        by_contra working
        exact outside (Finset.mem_erase.mpr
          ⟨different, (ofGroup other).mpr ⟨⟨present, .inr urgent⟩, working⟩⟩)
      rw [free, Nat.mul_zero]
  unfold Prefixed taskDemand at fits ⊢
  rw [← same]
  exact fits

end Realtime
