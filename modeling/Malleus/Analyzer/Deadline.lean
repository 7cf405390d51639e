import Malleus.Analyzer.Sustainability

/-! The deadline in a verdict: a threshold for the response, and the measure of the slack. -/

namespace Malleus

/-- A task with another declared deadline. -/
def TaskTiming.due (task : TaskTiming) (deadline : UInt64) : TaskTiming :=
  { task with deadline := some deadline }

section Due

variable (task : TaskTiming) (deadline : UInt64)

@[simp] theorem TaskTiming.name_due : (task.due deadline).name = task.name := rfl

@[simp] theorem TaskTiming.priority_due : (task.due deadline).priority = task.priority := rfl

@[simp] theorem TaskTiming.period_due : (task.due deadline).period = task.period := rfl

@[simp] theorem TaskTiming.deadline_due : (task.due deadline).deadline = some deadline := rfl

@[simp] theorem TaskTiming.wcet_due : (task.due deadline).wcet = task.wcet := rfl

@[simp] theorem TaskTiming.blocking_due : (task.due deadline).blocking = task.blocking := rfl

end Due

/-- A task set in which the tasks of a name are due by another deadline. -/
def redue (name : String) (deadline : UInt64) (tasks : List TaskTiming) : List TaskTiming :=
  tasks.map fun other => if other.name = name then other.due deadline else other

/-- The interference on a task reads no deadline, its own neither. -/
theorem interferers_due (task : TaskTiming) (deadline : UInt64) (tasks : List TaskTiming) :
    interferers (task.due deadline) tasks = interferers task tasks := by
  induction tasks with
  | nil => rfl
  | cons other rest same =>
    simp only [interferers, same, TaskTiming.name_due, TaskTiming.priority_due]

/-- The interference on a task reads no deadline of the others. -/
theorem interferers_redue (task : TaskTiming) (name : String) (deadline : UInt64)
    (tasks : List TaskTiming) :
    interferers task (redue name deadline tasks) = interferers task tasks := by
  induction tasks with
  | nil => rfl
  | cons other rest same =>
    rw [redue] at same
    rw [redue, List.map_cons]
    -- Whether its deadline was changed, the head has the name, priority, and times it had.
    split
    · simp only [interferers, same, TaskTiming.name_due, TaskTiming.priority_due,
        TaskTiming.period_due, TaskTiming.wcet_due]
    · simp only [interferers, same]

/-- No verdict reads the deadline of another task. -/
theorem verdictFor_redue (task : TaskTiming) (name : String) (deadline : UInt64)
    (tasks : List TaskTiming) :
    verdictFor task (redue name deadline tasks) = verdictFor task tasks := by
  simp only [verdictFor, interferers_redue]

/-- A verdict as a function of the deadline: passed from some response on, and failed below it. -/
def Threshold (verdict : UInt64 → Verdict) (response : UInt64) : Prop :=
  ∀ deadline, (response ≤ deadline → verdict deadline = .pass response (deadline - response))
    ∧ (deadline < response → ∃ late, deadline < late ∧ late ≤ response
      ∧ verdict deadline = .fail late (late - deadline))

/--
The search meets a threshold, or passes no deadline at all.

The deadline only cuts the search short, so every deadline sees the same responses.
-/
theorem recurrence_threshold {base : UInt64} {preempting : List (UInt64 × UInt64)}
    (positive : PositivePeriods preempting) (rounds : Nat) {start : UInt64}
    (rising : start ≤ nextResponse base preempting start) :
    (∃ response, start ≤ response
        ∧ Threshold (fun deadline => recurrence base deadline preempting rounds start) response)
      ∨ ∀ deadline, (recurrence base deadline preempting rounds start).isPass = false := by
  induction rounds generalizing start with
  | zero => exact .inr fun _ => rfl
  | succ rounds ih =>
    simp only [recurrence, gt_iff_lt]
    by_cases settled : nextResponse base preempting start = start
    -- The search ends here whatever the deadline, which only decides how.
    · refine .inl ⟨start, UInt64.le_refl _, fun deadline => ?_⟩
      simp only [if_pos settled]
      refine ⟨fun within => if_pos within, fun late => ?_⟩
      exact ⟨start, late, UInt64.le_refl _, if_neg (UInt64.not_le.mpr late)⟩
    · simp only [if_neg settled]
      rcases ih (nextResponse_mono base positive rising) with ⟨response, above, threshold⟩ | never
      · refine .inl ⟨response, UInt64.le_trans rising above, fun deadline => ⟨?_, ?_⟩⟩
        · intro within
          simp only [if_neg (UInt64.not_lt.mpr (UInt64.le_trans above within))]
          exact (threshold deadline).1 within
        · intro short
          by_cases late : deadline < nextResponse base preempting start
          · exact ⟨_, late, above, if_pos late⟩
          · simp only [if_neg late]
            exact (threshold deadline).2 short
      · refine .inr fun deadline => ?_
        split
        · rfl
        · exact never deadline

/--
A deadline is a threshold, for its own task alone.

Changing it changes the verdict of no other task. Its own task passes every deadline from one response
on, with that response and the time that is left, and fails every shorter one, late by no more than
that response; or it passes none.
-/
theorem deadline_is_threshold (tasks : List TaskTiming) (task : TaskTiming) :
    (∀ deadline other, verdictFor other (redue task.name deadline tasks) = verdictFor other tasks)
      ∧ ((∃ response, Threshold (fun deadline =>
            verdictFor (task.due deadline) (redue task.name deadline tasks)) response)
        ∨ ∀ deadline,
          (verdictFor (task.due deadline) (redue task.name deadline tasks)).isPass = false) := by
  refine ⟨fun deadline other => verdictFor_redue other task.name deadline tasks, ?_⟩
  simp only [verdictFor_redue]
  simp only [verdictFor, interferers_due, TaskTiming.deadline_due, TaskTiming.wcet_due,
    TaskTiming.period_due, TaskTiming.blocking_due, Option.some_or]
  -- Every answer before the search is the same unknown at every deadline.
  cases task.wcet with
  | none => exact .inr fun _ => rfl
  | some wcet =>
    by_cases aperiodic : task.period.isNone = true
    · simp only [if_pos aperiodic]
      exact .inr fun _ => rfl
    · simp only [if_neg aperiodic]
      cases scanned : interferers task tasks with
      | error reason => exact .inr fun _ => rfl
      | ok preempting =>
        obtain ⟨declared, rfl⟩ := interferers_eq_ok.mp scanned
        have positive := positivePeriods_of_declared declared
        rcases recurrence_threshold positive maxIterations (base_le_nextResponse
          (wcet.saturatingAdd task.blocking) _ positive) with ⟨response, -, threshold⟩ | never
        · exact .inl ⟨response, threshold⟩
        · exact .inr never

end Malleus
