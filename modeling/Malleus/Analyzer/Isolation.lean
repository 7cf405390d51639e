import Malleus.Analyzer.Utilisation
import Mathlib.Data.List.Perm.Basic

/-! What cannot influence a verdict: less urgent tasks, and the order of the list. -/

namespace Malleus

/-- The verdict with the text of an unknown left out. -/
def Verdict.withoutReason : Verdict → Verdict
  | unknown _ => unknown ""
  | decided => decided

/-- The entries of a list that are not strictly less urgent than a task. -/
def noLessUrgent (task : TaskTiming) (all : List TaskTiming) : List TaskTiming :=
  all.filter fun other => ¬other.priority < task.priority

/-- The scan for interferers never looks at a less urgent entry. -/
theorem interferers_noLessUrgent (task : TaskTiming) (all : List TaskTiming) :
    interferers task (noLessUrgent task all) = interferers task all := by
  induction all with
  | nil => rfl
  | cons other rest ih =>
    by_cases lower : other.priority < task.priority
    · have dropped : noLessUrgent task (other :: rest) = noLessUrgent task rest :=
        List.filter_cons_of_neg (by simpa using lower)
      -- A strictly lower priority is one of the reasons to skip an entry.
      rw [dropped, ih, interferers, if_pos (Or.inr (UInt8.le_of_lt lower))]
    · have kept : noLessUrgent task (other :: rest) = other :: noLessUrgent task rest :=
        List.filter_cons_of_pos (by simpa using lower)
      rw [kept, interferers, interferers, ih]

/-- Lists that agree on everything no less urgent than a task lead to the same verdict for it. -/
theorem verdictFor_noLessUrgent {task : TaskTiming} {tasks tasks' : List TaskTiming}
    (agree : noLessUrgent task tasks = noLessUrgent task tasks') :
    verdictFor task tasks = verdictFor task tasks' := by
  -- The list is read by the scan alone.
  have scanned : interferers task tasks = interferers task tasks' := by
    rw [← interferers_noLessUrgent task tasks, agree, interferers_noLessUrgent]
  simp only [verdictFor, scanned]

/-- Adding interference clipped at the top of the range does not depend on the order. -/
instance (response : UInt64) : RightCommutative (addInterference response) where
  right_comm next first second := by
    rw [← UInt64.toNat_inj]
    simp only [addInterference, UInt64.toNat_saturatingAdd]
    omega

/-- The search does not depend on the order of the interferers. -/
theorem recurrence_perm {preempting preempting' : List (UInt64 × UInt64)}
    (perm : preempting.Perm preempting') (base deadline : UInt64) (rounds : Nat)
    (response : UInt64) :
    recurrence base deadline preempting rounds response
      = recurrence base deadline preempting' rounds response := by
  -- Clipped addition commutes, so one round computes the same in any order.
  have sums : nextResponse base preempting = nextResponse base preempting' := by
    funext response
    exact perm.foldl_eq base
  induction rounds generalizing response with
  | zero => rfl
  | succ rounds ih => simp only [recurrence, sums, ih]

/-- Reordering the list changes a verdict in nothing but the text of an unknown. -/
theorem verdictFor_perm {tasks tasks' : List TaskTiming} (perm : tasks.Perm tasks')
    (task : TaskTiming) :
    (verdictFor task tasks).withoutReason = (verdictFor task tasks').withoutReason := by
  have same : (preempters task tasks).Perm (preempters task tasks') := perm.filter _
  have times := same.map TaskTiming.times
  cases scanned : interferers task tasks with
  | ok preempting =>
    -- A complete scan of one list is a complete scan of the other, in another order.
    obtain ⟨declared, rfl⟩ := interferers_eq_ok.mp scanned
    have scanned' := interferers_eq_ok.mpr
      ⟨fun other member => declared other (same.mem_iff.mpr member), rfl⟩
    simp only [verdictFor, scanned, scanned', recurrence_perm times]
  | error reason =>
    cases scanned' : interferers task tasks' with
    | ok preempting =>
      -- One list cannot be complete without the other.
      obtain ⟨declared, -⟩ := interferers_eq_ok.mp scanned'
      have found := interferers_eq_ok.mpr
        ⟨fun other member => declared other (same.mem_iff.mp member), rfl⟩
      rw [scanned] at found
      cases found
    | error reason' =>
      simp only [verdictFor, scanned, scanned']
      cases task.wcet with
      | none => rfl
      | some wcet =>
        cases task.deadline.or task.period with
        | none => rfl
        | some deadline => cases task.period <;> rfl

/-- An analysis has one entry for each task of distinct names, and it carries the task's verdict. -/
theorem mem_verdicts_iff {tasks : List TaskTiming} (distinct : (tasks.map TaskTiming.name).Nodup)
    {task : TaskTiming} (listed : task ∈ tasks) {verdict : Verdict} :
    (task.name, verdict) ∈ (analyse tasks).verdicts ↔ verdict = verdictFor task tasks := by
  constructor
  · intro entry
    obtain ⟨other, present, same⟩ := List.mem_map.mp entry
    rw [Prod.mk.injEq] at same
    -- Another entry of the same name would be the same task.
    rw [List.inj_on_of_nodup_map distinct listed present same.1.symm]
    exact same.2.symm
  · intro outcome
    exact List.mem_map.mpr ⟨task, listed, by rw [outcome]⟩

/--
Neither less urgent tasks nor the order of the list influence an analysis.

The text of an unknown is the one thing that can name another of several gaps after a reordering.
-/
theorem analyse_isolated {tasks tasks' : List TaskTiming}
    (distinct : (tasks.map TaskTiming.name).Nodup)
    (distinct' : (tasks'.map TaskTiming.name).Nodup) :
    (∀ task ∈ tasks, task ∈ tasks' → noLessUrgent task tasks = noLessUrgent task tasks' →
      ∀ verdict, (task.name, verdict) ∈ (analyse tasks).verdicts ↔
        (task.name, verdict) ∈ (analyse tasks').verdicts) ∧
    (tasks.Perm tasks' →
      ((analyse tasks).verdicts.map (Prod.map id Verdict.withoutReason)).Perm
          ((analyse tasks').verdicts.map (Prod.map id Verdict.withoutReason)) ∧
        (analyse tasks).utilisationPpm = (analyse tasks').utilisationPpm) := by
  constructor
  · intro task listed listed' agree verdict
    rw [mem_verdicts_iff distinct listed, mem_verdicts_iff distinct' listed',
      verdictFor_noLessUrgent agree]
  · intro perm
    refine ⟨?_, perm.foldl_eq 0⟩
    -- Every task keeps its verdict, and the entries move with the tasks.
    have entries : (analyse tasks).verdicts.map (Prod.map id Verdict.withoutReason)
        = tasks.map fun task => (task.name, (verdictFor task tasks').withoutReason) := by
      simp [analyse, verdictFor_perm perm]
    have entries' : (analyse tasks').verdicts.map (Prod.map id Verdict.withoutReason)
        = tasks'.map fun task => (task.name, (verdictFor task tasks').withoutReason) := by
      simp [analyse]
    rw [entries, entries']
    exact perm.map _

/-- A control chain, and a report that nothing waits for. -/
def chainWithReport : List TaskTiming :=
  [⟨"sample", 9, some 100, none, some 20, 0⟩, ⟨"control", 6, some 200, none, some 50, 0⟩,
    ⟨"report", 1, some 5000, none, some 400, 0⟩]

/-- The same chain, listed after a report that became another task. -/
def reportBeforeChain : List TaskTiming :=
  [⟨"report", 2, some 0, none, none, 7⟩, ⟨"sample", 9, some 100, none, some 20, 0⟩,
    ⟨"control", 6, some 200, none, some 50, 0⟩]

/-- The control task keeps its response beside either report, and the figure does not see the order. -/
theorem chainWithReport_isolated :
    ("control", .pass 70 130) ∈ (analyse reportBeforeChain).verdicts ∧
      (analyse chainWithReport).utilisationPpm = (analyse chainWithReport.reverse).utilisationPpm := by
  have distinct : (chainWithReport.map TaskTiming.name).Nodup := by decide
  have replaced : (reportBeforeChain.map TaskTiming.name).Nodup := by decide
  have reversed : (chainWithReport.reverse.map TaskTiming.name).Nodup := by decide
  have passed : ("control", .pass 70 130) ∈ (analyse chainWithReport).verdicts := by decide
  constructor
  · exact ((analyse_isolated distinct replaced).1 ⟨"control", 6, some 200, none, some 50, 0⟩
      (by decide) (by decide) (by decide) _).mp passed
  · exact ((analyse_isolated distinct reversed).2 (List.reverse_perm _).symm).2

end Malleus
