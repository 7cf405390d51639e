import Malleus.Analyzer.Recurrence
import Mathlib.Data.List.Nodup

/-! Which tasks the analyser charges to another, and when it has everything it needs to charge them. -/

namespace Malleus

open Realtime

/-- A task says how long it runs and how often, with a repetition that takes time. -/
def TaskTiming.Declared (task : TaskTiming) : Prop :=
  task.wcet.isSome = true ∧ task.period.isSome = true ∧ task.period ≠ some 0

instance (task : TaskTiming) : Decidable task.Declared :=
  inferInstanceAs (Decidable (_ ∧ _ ∧ _))

/-- The declared period and execution time, read as zero where they are missing. -/
def TaskTiming.times (task : TaskTiming) : UInt64 × UInt64 :=
  (task.period.getD 0, task.wcet.getD 0)

/-- The deadline the analyser checks: the declared one, or the period when there is none. -/
def TaskTiming.effectiveDeadline (task : TaskTiming) : Option UInt64 :=
  task.deadline.or task.period

/-- A task with a period has a deadline to check. -/
theorem TaskTiming.exists_effectiveDeadline {task : TaskTiming} (timed : task.period.isSome = true) :
    ∃ deadline, task.effectiveDeadline = some deadline := by
  obtain ⟨period, interval⟩ := Option.isSome_iff_exists.mp timed
  rw [TaskTiming.effectiveDeadline, interval]
  -- The declared deadline comes first, and the period stands in for it.
  cases task.deadline <;> simp

/-- The entries the analyser treats as able to preempt a task. -/
def preempters (task : TaskTiming) (all : List TaskTiming) : List TaskTiming :=
  all.filter fun other => ¬(other.name = task.name ∨ other.priority ≤ task.priority)

/-- An entry of the task's own name, or no more urgent than the task, cannot preempt it. -/
theorem preempters_cons_of_skipped {task other : TaskTiming} (rest : List TaskTiming)
    (skipped : other.name = task.name ∨ other.priority ≤ task.priority) :
    preempters task (other :: rest) = preempters task rest :=
  List.filter_cons_of_neg (by simpa [or_iff_not_imp_left] using skipped)

/-- Every other entry can. -/
theorem preempters_cons_of_kept {task other : TaskTiming} (rest : List TaskTiming)
    (kept : ¬(other.name = task.name ∨ other.priority ≤ task.priority)) :
    preempters task (other :: rest) = other :: preempters task rest :=
  List.filter_cons_of_pos (by simpa using kept)

/-- The tasks of strictly higher priority. -/
def moreUrgent (task : TaskTiming) (all : List TaskTiming) : List TaskTiming :=
  all.filter fun other => task.priority < other.priority

/-- Membership in the more urgent tasks is a comparison of priorities. -/
theorem mem_moreUrgent {task other : TaskTiming} {all : List TaskTiming} :
    other ∈ moreUrgent task all ↔ other ∈ all ∧ task.priority < other.priority := by
  simp [moreUrgent]

/-- Skipping an entry of the task's own name skips only the task itself when names are distinct. -/
theorem preempters_eq_moreUrgent {task : TaskTiming} {all : List TaskTiming}
    (distinct : (all.map TaskTiming.name).Nodup) (member : task ∈ all) :
    preempters task all = moreUrgent task all := by
  -- An entry sharing the name is the task, whose priority is not above its own.
  apply List.filter_congr
  intro other present
  have named : other.name = task.name → other.priority = task.priority := by
    intro same
    rw [List.inj_on_of_nodup_map distinct present member same]
  by_cases same : other.name = task.name
  · simp [same, named same]
  · simp [same]

/-- A complete charge exists exactly when every preempting task is declared, and lists their times. -/
theorem interferers_eq_ok {task : TaskTiming} {all : List TaskTiming}
    {preempting : List (UInt64 × UInt64)} :
    interferers task all = .ok preempting ↔
      (∀ other ∈ preempters task all, other.Declared) ∧
        preempting = (preempters task all).map TaskTiming.times := by
  -- The induction follows the scan, which stops at the first entry it cannot charge.
  induction all generalizing preempting with
  | nil => simp [interferers, preempters, eq_comm]
  | cons other rest ih =>
    by_cases skipped : other.name = task.name ∨ other.priority ≤ task.priority
    · simp only [interferers, if_pos skipped, preempters_cons_of_skipped rest skipped]
      exact ih
    · simp only [interferers, if_neg skipped, preempters_cons_of_kept rest skipped,
        List.forall_mem_cons, List.map_cons]
      cases period : other.period with
      | none => simp [TaskTiming.Declared, period]
      | some interval =>
        by_cases zero : interval = 0
        · subst zero
          simp [TaskTiming.Declared, period]
        · cases cost : other.wcet with
          | none => simp [TaskTiming.Declared, cost, zero]
          | some wcet =>
            have declared : other.Declared := by simp [TaskTiming.Declared, period, cost, zero]
            have times : other.times = (interval, wcet) := by
              simp [TaskTiming.times, period, cost]
            -- The entry's own times head the list that the rest of the scan produces.
            cases scanned : interferers task rest with
            | error reason =>
              have missing : ¬∀ other ∈ preempters task rest, other.Declared := by
                intro all_
                have found := (@ih _).mpr ⟨all_, rfl⟩
                rw [scanned] at found
                cases found
              simp [Except.map, missing]
            | ok found =>
              obtain ⟨restDeclared, restTimes⟩ := ih.mp scanned
              simpa [Except.map, declared, times, restTimes, eq_comm] using fun _ => restDeclared

/-- Declared tasks never charge an activation without time in between. -/
theorem positivePeriods_of_declared {tasks : List TaskTiming}
    (declared : ∀ other ∈ tasks, other.Declared) : PositivePeriods (tasks.map TaskTiming.times) := by
  intro interferer member
  obtain ⟨other, present, rfl⟩ := List.mem_map.mp member
  obtain ⟨_, timed, nonzero⟩ := declared other present
  -- A declared period is not the missing-value default.
  obtain ⟨interval, period⟩ := Option.isSome_iff_exists.mp timed
  intro zero
  apply nonzero
  simpa [TaskTiming.times, period] using zero

/-- Whether a verdict carries a number. -/
def Verdict.isDecided : Verdict → Bool
  | unknown _ => false
  | _ => true

/-- A numeric verdict is the outcome of the search on complete declarations. -/
theorem verdictFor_decided {task : TaskTiming} {all : List TaskTiming}
    (decided : (verdictFor task all).isDecided = true) :
    ∃ wcet deadline, task.wcet = some wcet ∧ task.period.isSome = true ∧
      task.effectiveDeadline = some deadline ∧
      (∀ other ∈ preempters task all, other.Declared) ∧
      verdictFor task all =
        recurrence (wcet.saturatingAdd task.blocking) deadline
          ((preempters task all).map TaskTiming.times) maxIterations
          (wcet.saturatingAdd task.blocking) := by
  -- Each earlier exit answers with a reason instead of a number.
  cases cost : task.wcet with
  | none => simp [verdictFor, cost, Verdict.isDecided] at decided
  | some wcet =>
    cases contract : task.deadline.or task.period with
    | none => simp [verdictFor, cost, contract, Verdict.isDecided] at decided
    | some deadline =>
      cases period : task.period with
      | none =>
        rw [period] at contract
        simp [verdictFor, cost, period, contract, Verdict.isDecided] at decided
      | some interval =>
        rw [period] at contract
        cases scanned : interferers task all with
        | error reason =>
          simp [verdictFor, cost, period, contract, scanned, Verdict.isDecided] at decided
        | ok preempting =>
          obtain ⟨declared, rfl⟩ := interferers_eq_ok.mp scanned
          refine ⟨wcet, deadline, rfl, rfl, ?_, declared, ?_⟩
          · rw [TaskTiming.effectiveDeadline, period, contract]
          · simp [verdictFor, cost, period, contract, scanned]

/-- Complete declarations reach the search. -/
theorem verdictFor_eq_recurrence {task : TaskTiming} {all : List TaskTiming}
    {wcet deadline : UInt64} (cost : task.wcet = some wcet) (timed : task.period.isSome = true)
    (contract : task.effectiveDeadline = some deadline)
    (declared : ∀ other ∈ preempters task all, other.Declared) :
    verdictFor task all =
      recurrence (wcet.saturatingAdd task.blocking) deadline
        ((preempters task all).map TaskTiming.times) maxIterations
        (wcet.saturatingAdd task.blocking) := by
  -- Every guard before the search is about a declaration that is present.
  have scanned := interferers_eq_ok.mpr ⟨declared, rfl⟩
  obtain ⟨interval, period⟩ := Option.isSome_iff_exists.mp timed
  rw [TaskTiming.effectiveDeadline, period] at contract
  simp [verdictFor, cost, contract, period, scanned]

end Malleus
