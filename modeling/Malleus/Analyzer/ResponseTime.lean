import Malleus.Machine.Word64

/-! Response-time analysis of a fixed-priority task set, step by step as the analyser runs it. -/

namespace Malleus

/-- One task's timing contract, in ticks, as the analyser sees it. -/
structure TaskTiming where
  name : String
  -- A higher number is more urgent.
  priority : UInt8
  period : Option UInt64
  deadline : Option UInt64
  wcet : Option UInt64
  blocking : UInt64
  deriving DecidableEq, Repr

/-- The outcome for one task. -/
inductive Verdict where
  | pass (response slack : UInt64)
  | fail (response overrun : UInt64)
  | unknown (reason : String)
  deriving DecidableEq, Repr

/-- Whether a verdict permits shipping. -/
def Verdict.isPass : Verdict → Bool
  | pass _ _ => true
  | _ => false

/-- The complete analysis of a task set. -/
structure Analysis where
  verdicts : List (String × Verdict)
  utilisationPpm : UInt64
  deriving DecidableEq, Repr

/-- Whether every task provably meets its deadline. -/
def Analysis.isSchedulable (analysis : Analysis) : Bool :=
  analysis.verdicts.all fun entry => entry.2.isPass

/-- Whether any task could not be decided. -/
def Analysis.hasUnknowns (analysis : Analysis) : Bool :=
  analysis.verdicts.any fun entry =>
    match entry.2 with
    | .unknown _ => true
    | _ => false

/-- Rounds of the recurrence before the analyser gives up. -/
def maxIterations : Nat := 1000

namespace Reason

/-- The task itself declares no execution time. -/
def noWcet : String :=
  "no worst-case execution time declared; measure it with `cargo malleus trace` " ++
    "and add `wcet` to the manifest"

/-- The task has neither a deadline nor a period to default to. -/
def noContract : String :=
  "task is aperiodic and declares no deadline, so there is no timing contract " ++
    "to check"

/-- The task has a deadline but no period. -/
def noPeriod : String :=
  "task declares a deadline but no period; without a minimum inter-arrival " ++
    "time its interference on others is unbounded"

/-- A more urgent task declares a period of zero. -/
def zeroPeriod : String :=
  "a higher-priority task declares a zero period, so it demands the " ++
    "CPU without bound and the interference on this task cannot be " ++
    "computed"

/-- A more urgent task leaves its period or execution time undeclared. -/
def undeclared : String :=
  "a higher-priority task has no declared period or WCET, so the " ++
    "interference on this task cannot be bounded"

/-- The recurrence neither converged nor passed the deadline within the bound. -/
def noConvergence : String :=
  "the response-time recurrence did not converge within the iteration bound, " ++
    "so no worst-case response time was established for this task"

end Reason

/-- The period and execution time of each task that can preempt this one, or why they are unknown. -/
def interferers (task : TaskTiming) : List TaskTiming → Except String (List (UInt64 × UInt64))
  | [] => .ok []
  | other :: rest =>
    -- The task itself and everything no more urgent than it are skipped.
    if other.name = task.name ∨ other.priority ≤ task.priority then interferers task rest
    else
      match other.period, other.wcet with
      | some 0, _ => .error Reason.zeroPeriod
      | some period, some wcet => (interferers task rest).map ((period, wcet) :: ·)
      | _, _ => .error Reason.undeclared

/-- One more activation count for every interferer, added to the running demand. -/
def addInterference (response : UInt64) (next : UInt64) (interferer : UInt64 × UInt64) : UInt64 :=
  next.saturatingAdd ((response.divCeil interferer.1).saturatingMul interferer.2)

/-- The demand released in a window of the current response. -/
def nextResponse (base : UInt64) (preempting : List (UInt64 × UInt64)) (response : UInt64) : UInt64 :=
  preempting.foldl (addInterference response) base

/-- The bounded search for a response time, with the number of rounds still allowed. -/
def recurrence (base deadline : UInt64) (preempting : List (UInt64 × UInt64)) :
    Nat → UInt64 → Verdict
  | 0, _ => .unknown Reason.noConvergence
  | rounds + 1, response =>
    let next := nextResponse base preempting response
    if next = response then
      if response ≤ deadline then .pass response (deadline - response)
      else .fail response (response - deadline)
    else if next > deadline then .fail next (next - deadline)
    else recurrence base deadline preempting rounds next

/-- The verdict for one task among all of them. -/
def verdictFor (task : TaskTiming) (all : List TaskTiming) : Verdict :=
  match task.wcet with
  | none => .unknown Reason.noWcet
  | some wcet =>
    match task.deadline.or task.period with
    | none => .unknown Reason.noContract
    | some deadline =>
      if task.period.isNone then .unknown Reason.noPeriod
      else
        match interferers task all with
        | .error reason => .unknown reason
        | .ok preempting =>
          let base := wcet.saturatingAdd task.blocking
          recurrence base deadline preempting maxIterations base

/-- One task's contribution to the utilisation figure. -/
def addUtilisation (utilisationPpm : UInt64) (task : TaskTiming) : UInt64 :=
  match task.period, task.wcet with
  -- A zero period is unbounded demand, which the figure shows by saturating.
  | some 0, some _ => UInt64.MAX
  | some period, some wcet => utilisationPpm.saturatingAdd (wcet.saturatingMul 1000000 / period)
  | _, _ => utilisationPpm

/-- Analyse a task set. -/
def analyse (tasks : List TaskTiming) : Analysis where
  verdicts := tasks.map fun task => (task.name, verdictFor task tasks)
  utilisationPpm := tasks.foldl addUtilisation 0

end Malleus
