import Malleus.Analyzer.ResponseTime
import Malleus.Manifest.Validate

/-! The analyse command: from a manifest to the verdicts of its tasks. -/

namespace Malleus

open Machine

/-- Why the command gives up before it has an analysis. -/
inductive AnalyzeError where
  | invalidManifest
  | tickRate (message : String)
  | unit (error : ParseUnitError)
  deriving DecidableEq, Repr

namespace Analyze

/-- The frequency the command reads from a tick rate; its products are not guarded. -/
def parseTickHz (text : String) : Eval (Except String UInt64) :=
  match Text.splitDigits (Text.trim text) with
  | none => return .error s!"tick_rate `{text}` has no unit; write e.g. `1MHz`"
  | some (number, unit) =>
    match Text.parseU64 number with
    | none =>
      -- Only an empty or an oversized run of digits is no number.
      return .error (if number = "" then "cannot parse integer from empty string"
        else "number too large to fit in target type")
    | some value =>
      match Text.trim unit with
      | "Hz" => return .ok value
      | "kHz" => return .ok (← value.strictMul 1000)
      | "MHz" => return .ok (← value.strictMul 1000000)
      | other => return .error s!"tick_rate unit `{other}` is not valid; use Hz, kHz, or MHz"

/-- A duration field in ticks. -/
def toTicks (text : Option String) (tickHz : UInt64) : Except ParseUnitError (Option UInt64) :=
  match text with
  | none => return none
  | some text => return some ((← Duration.fromStr text).toTicks tickHz)

/-- One task as the analyser is given it. -/
def timing (tickHz : UInt64) (task : Task) : Except ParseUnitError TaskTiming := do
  let period ← toTicks task.period tickHz
  let deadline ← toTicks task.deadline tickHz
  let wcet ← toTicks task.wcet tickHz
  -- Shared resources are not declared yet, so nothing blocks.
  return ⟨task.name, task.priority, period, deadline, wcet, 0⟩

/-- Every task as the analyser is given it, up to the first that cannot be converted. -/
def timings (tickHz : UInt64) : List Task → Except ParseUnitError (List TaskTiming)
  | [] => return []
  | task :: rest => do
    let converted ← timing tickHz task
    let others ← timings tickHz rest
    return converted :: others

/-- Validate a manifest and analyse it. -/
def run (manifest : Manifest) (order : HashOrder) : Eval (Except AnalyzeError Analysis) := do
  let report ← manifest.validate order
  if report.errorCount > 0 then
    return .error .invalidManifest
  else
    match ← parseTickHz manifest.system.tickRate with
    | .error message => return .error (.tickRate message)
    | .ok tickHz =>
      match timings tickHz manifest.tasks with
      | .error error => return .error (.unit error)
      | .ok converted => return .ok (analyse converted)

end Analyze

end Malleus
