import Malleus.Manifest.Schema
import Mathlib.Data.List.Sort

/-! Whole-system validation of a manifest, check by check in the order the tool runs them. -/

namespace Malleus

open Machine

/-- How serious a diagnostic is. -/
inductive Severity where
  | warning
  | error
  deriving DecidableEq, Repr

/-- One finding about a manifest. -/
structure Diagnostic where
  severity : Severity
  code : String
  message : String
  -- A task name, a channel name, or the table at fault.
  location : String
  suggestion : String
  deriving DecidableEq, Repr

/-- A finding that stops the build. -/
def Diagnostic.error (code location message suggestion : String) : Diagnostic :=
  ⟨.error, code, message, location, suggestion⟩

/-- A finding the build proceeds past. -/
def Diagnostic.warning (code location message suggestion : String) : Diagnostic :=
  ⟨.warning, code, message, location, suggestion⟩

/-- Every finding, in the order produced. -/
structure ValidationReport where
  diagnostics : List Diagnostic
  deriving DecidableEq, Repr

/-- The number of findings that stop the build. -/
def ValidationReport.errorCount (report : ValidationReport) : Nat :=
  (report.diagnostics.filter fun finding => finding.severity = .error).length

/-- Whether the manifest describes a buildable system. -/
def ValidationReport.isOk (report : ValidationReport) : Bool := report.errorCount = 0

/-- The orders in which the hash collections of one run hand out their entries. -/
structure HashOrder where
  levels : List (UInt8 × List String) → List (UInt8 × List String)
  levels_perm : ∀ entries, (levels entries).Perm entries
  names : List String → List String
  names_perm : ∀ entries, (names entries).Perm entries

/-- The order of insertion, which is one of the orders a run may see. -/
def HashOrder.insertion : HashOrder := ⟨id, fun _ => .refl _, id, fun _ => .refl _⟩

/-- Report a finding when its condition holds. -/
def reportIf (found : Prop) [Decidable found] (finding : Diagnostic) : List Diagnostic :=
  if found then [finding] else []

/-- Findings about task names, given the names seen so far. -/
def checkTaskNames (seen : List String) : List Task → List Diagnostic
  | [] => []
  | task :: rest =>
    reportIf (task.name ∈ seen) (.error "M0001" task.name
        s!"task name `{task.name}` is declared more than once"
        ("task names identify endpoints in generated code and traces; give each " ++
          "task a distinct name"))
      ++ reportIf (task.name = "") (.error "M0002" "[[task]]" "task name is empty"
        "give the task a short kebab-case name, e.g. `motor-control`")
      ++ checkTaskNames (task.name :: seen) rest

/-- The most urgent priority a manifest may declare. -/
def maxPriority : UInt8 := 31

/-- Findings about one task's priority. -/
def checkPriority (task : Task) : List Diagnostic :=
  reportIf (maxPriority < task.priority) (.error "M0003" task.name
      s!"priority {task.priority} is out of range (the kernel provides 0..={maxPriority})"
      ("lower the priority, or reconsider the design: needing more than 32 " ++
        "distinct urgency levels usually means priorities are encoding something " ++
        "else"))
    ++ reportIf (task.priority = 0) (.error "M0004" task.name
      "priority 0 is reserved for the kernel idle task"
      "use priority 1 for the least urgent application task")

/-- Add a name to the entry of its priority, creating the entry if it is the first. -/
def enterLevel (priority : UInt8) (name : String) :
    List (UInt8 × List String) → List (UInt8 × List String)
  | [] => [(priority, [name])]
  | (level, names) :: rest =>
    if level = priority then (level, names ++ [name]) :: rest
    else (level, names) :: enterLevel priority name rest

/-- The names of the tasks with a declared deadline, by priority. -/
def byPriority (tasks : List Task) : List (UInt8 × List String) :=
  tasks.foldl
    (fun levels task =>
      if task.deadline.isSome then enterLevel task.priority task.name levels else levels)
    []

/-- The finding about one priority level. -/
def checkLevel (level : UInt8 × List String) : List Diagnostic :=
  let (priority, names) := level
  reportIf (1 < names.length) (.warning "M0005" (String.intercalate ", " names)
    s!"{names.length} tasks with declared deadlines share priority {priority}"
    ("tasks at the same priority run FIFO, so each one's worst case includes " ++
      "the others' execution; give them distinct priorities, or accept the " ++
      "coupling and check the response-time report"))

/-- Findings about the tasks' priorities. -/
def checkPriorities (order : HashOrder) (tasks : List Task) : List Diagnostic :=
  tasks.flatMap checkPriority ++ (order.levels (byPriority tasks)).flatMap checkLevel

/-- The finding about the tick rate. -/
def checkTickRate (tickRate : String) : Option UInt64 → List Diagnostic
  | none => [.error "M0024" "[system]"
      (s!"tick rate `{tickRate}` is not a frequency this tool can interpret, so no " ++
        "timing check could be performed")
      ("write the rate as a whole number followed by `Hz`, `kHz`, or `MHz`, for " ++
        "example `1MHz`")]
  | some hz => reportIf (hz = 0) (.error "M0025" "[system]"
      "tick rate is zero; a clock that never advances cannot schedule anything"
      "declare the board's real monotonic timer frequency, for example `1MHz`")

/-- A duration field, with the finding when its text is not a duration. -/
def parseDuration (text : Option String) (task field : String) : Option Duration × List Diagnostic :=
  match text with
  | none => (none, [])
  | some text =>
    match Duration.fromStr text with
    | .ok duration => (some duration, [])
    | .error error => (none, [.error "M0023" task s!"`{field}` is invalid: {error.display}"
        "write a duration with an explicit unit, e.g. `1ms`, `500us`, `250ns`"])

/-- A zero period is reported and then discarded, so that no later check uses it. -/
def discardZeroPeriod (task : String) : Option Duration → Option Duration × List Diagnostic
  | some period =>
    if period.asNanos = 0 then
      (none, [.error "M0026" task
        ("period is zero, so the task is due again the instant it starts and " ++
          "demands unbounded CPU")
        ("declare the real activation interval, or remove `period` entirely " ++
          "if the task is aperiodic")])
    else (some period, [])
  | none => (none, [])

/-- The finding about a deadline against the period. -/
def checkDeadline (task : String) : Option Duration → Option Duration → List Diagnostic
  | some period, some deadline => reportIf (period.nanos < deadline.nanos) (.error "M0006" task
      (s!"deadline {deadline.display} is longer than period {period.display}; the task would " ++
        "still be running when its next activation is due")
      "shorten the deadline to at most the period, or lengthen the period")
  | _, _ => []

/-- The finding about an execution time against the deadline. -/
def checkWcet (task : String) : Option Duration → Option Duration → List Diagnostic
  | some wcet, some deadline => reportIf (deadline.nanos < wcet.nanos) (.error "M0007" task
      (s!"declared worst-case execution time {wcet.display} exceeds deadline " ++
        s!"{deadline.display}; this task cannot meet its deadline even alone on the CPU")
      ("reduce the work per activation, split it across activations, or relax " ++
        "the deadline"))
  | _, _ => []

/-- The finding about a deadline that cannot be checked. -/
def checkUnmeasured (task : Task) : List Diagnostic :=
  reportIf (task.deadline.isSome ∧ task.wcet.isNone) (.warning "M0008" task.name
    ("task declares a deadline but no worst-case execution time, so " ++
      "schedulability cannot be computed")
    ("measure the task's worst case with `cargo malleus trace` and declare it " ++
      "as `wcet`; until then this task's verdict is UNKNOWN, not PASS"))

/-- The finding about a period against the tick. -/
def checkAlignment (tickRate task : String) : Option Duration → Option UInt64 → Eval (List Diagnostic)
  | some period, some hz =>
    if hz = 0 then return []
    else do
      let aligned ← period.isTickAligned hz
      return reportIf (aligned = false) (.warning "M0009" task
        s!"period {period.display} is not an exact multiple of the {tickRate} tick"
        ("round the period to a tick multiple, or raise `tick_rate`; a fractional " ++
          "period produces systematic jitter that looks like a hardware fault"))
  | _, _ => return []

/-- Findings about one task's timing. -/
def checkTaskTiming (tickRate : String) (tickHz : Option UInt64) (task : Task) :
    Eval (List Diagnostic) := do
  let written := parseDuration task.period task.name "period"
  let period := discardZeroPeriod task.name written.1
  let deadline := parseDuration task.deadline task.name "deadline"
  let wcet := parseDuration task.wcet task.name "wcet"
  let misaligned ← checkAlignment tickRate task.name period.1 tickHz
  return written.2 ++ period.2 ++ deadline.2 ++ wcet.2 ++ checkDeadline task.name period.1 deadline.1
    ++ checkWcet task.name wcet.1 deadline.1 ++ checkUnmeasured task ++ misaligned

/-- Findings of a check that visits every entry in turn. -/
def visitAll {α : Type} (check : α → Eval (List Diagnostic)) : List α → Eval (List Diagnostic)
  | [] => return []
  | entry :: rest => do
    let found ← check entry
    let others ← visitAll check rest
    return found ++ others

/-- Findings about the tick rate and the tasks' timing. -/
def checkTiming (manifest : Manifest) : Eval (List Diagnostic) := do
  let tickHz := parseTickHz manifest.system.tickRate
  let found ← visitAll (checkTaskTiming manifest.system.tickRate tickHz) manifest.tasks
  return checkTickRate manifest.system.tickRate tickHz ++ found

/-- The smallest stack a manifest may reserve, in bytes. -/
def minStack : UInt64 := 256

/-- The finding about the size a stack takes up on the part. -/
def checkPadding (task : String) (stack padded : ByteSize) : Eval (List Diagnostic) := do
  if padded = stack then
    return []
  else
    let wasted ← padded.asBytes.strictSub stack.asBytes
    return [.warning "M0012" task
      (s!"stack {stack.display} will occupy {padded.display} on an ARMv7-M MPU, wasting {wasted} bytes " ++
        "to alignment")
      (s!"round the stack up to `{padded.display}` to make the cost explicit, or move " ++
        "to an ARMv8-M part where regions are 32-byte granular")]

/-- Findings about one task's stack. -/
def checkStack (task : Task) : Eval (List Diagnostic) :=
  match ByteSize.fromStr task.stack with
  | .error _ => return [.error "M0010" task.name s!"stack `{task.stack}` is not a valid size"
      "write a binary size with an explicit unit, e.g. `2KiB`"]
  | .ok stack => do
    let padded ← stack.toPowerOfTwo
    let wasteful ← checkPadding task.name stack padded
    return reportIf (stack.asBytes < minStack) (.error "M0011" task.name
        (s!"stack {stack.display} is below the {minStack}-byte minimum needed for an " ++
          "exception frame")
        ("reserve at least 512B; use `cargo malleus analyze --stacks` for a " ++
          "measured figure"))
      ++ wasteful

/-- Names in alphabetical order, separated by commas. -/
def sortedList (order : HashOrder) (names : List String) : String :=
  String.intercalate ", " ((order.names names).insertionSort (· ≤ ·))

/-- The finding about one end of a channel. -/
def checkEndpoint (order : HashOrder) (names : List String) (channel role task : String) :
    List Diagnostic :=
  reportIf (task ∉ names) (.error "M0014" channel
    s!"`{role}` names task `{task}`, which is not declared"
    (s!"declare a `[[task]]` named `{task}`, or correct the spelling — " ++
      s!"known tasks: {sortedList order names}"))

/-- What to do when a queue is full. -/
def validOverflow : List String := ["block", "reject", "drop-oldest", "drop-newest"]

/-- The finding about an urgent sender that waits for a less urgent receiver. -/
def checkInversion (manifest : Manifest) (channel : Channel) : List Diagnostic :=
  if channel.overflow = "block" then
    match manifest.task channel.from, manifest.task channel.to with
    | some sender, some receiver =>
      reportIf (receiver.priority < sender.priority) (.warning "M0018" channel.name
        (s!"`{sender.name}` (priority {sender.priority}) blocks on a channel drained by " ++
          s!"`{receiver.name}` (priority {receiver.priority})")
        ("this is priority inversion by construction: the urgent sender waits for " ++
          "the less urgent receiver. Use `drop-oldest` if the data is sampled state, " ++
          "or raise the receiver's priority"))
    | _, _ => []
  else []

/-- Findings about one channel, its name apart. -/
def checkChannel (order : HashOrder) (manifest : Manifest) (names : List String)
    (channel : Channel) : List Diagnostic :=
  checkEndpoint order names channel.name "from" channel.from
    ++ checkEndpoint order names channel.name "to" channel.to
    ++ reportIf (channel.from = channel.to) (.error "M0015" channel.name
      s!"task `{channel.from}` sends to itself"
      "a task does not need IPC to talk to itself; use an ordinary local queue")
    ++ reportIf (channel.capacity = 0) (.error "M0016" channel.name
      "capacity 0 is not a valid queue depth"
      ("use capacity 1 for a single-slot mailbox; unbuffered handoff is a " ++
        "`[[rendezvous]]`, which has different blocking semantics"))
    ++ reportIf (channel.overflow ∉ validOverflow) (.error "M0017" channel.name
      s!"`{channel.overflow}` is not a valid overflow policy"
      ("choose one of: " ++ String.intercalate ", " validOverflow ++ ". There is no default: the " ++
        "right answer depends on whether losing a message is worse than delaying one"))
    ++ checkInversion manifest channel

/-- Findings about the channels, given the channel names seen so far. -/
def checkChannels (order : HashOrder) (manifest : Manifest) (names : List String)
    (seen : List String) : List Channel → List Diagnostic
  | [] => []
  | channel :: rest =>
    reportIf (channel.name ∈ seen) (.error "M0013" channel.name
        s!"channel name `{channel.name}` is declared more than once"
        "give each channel a distinct name")
      ++ checkChannel order manifest names channel
      ++ checkChannels order manifest names (channel.name :: seen) rest

/-- The channel a capability names, if it has the form of an IPC capability. -/
def stripIpc (capability : String) : Option String :=
  if "ipc.".toList.isPrefixOf capability.toList then
    some (String.ofList (capability.toList.drop 4))
  else none

/-- The finding about the channel a capability names. -/
def checkGrant (manifest : Manifest) (task capability : String) : List Diagnostic :=
  match stripIpc capability with
  | none => []
  | some channelName =>
    match manifest.endpoints channelName with
    | none => [.error "M0020" task s!"capability `{capability}` names an undeclared channel"
        (s!"declare `[[channel]] name = \"{channelName}\"`, or correct the " ++ "spelling")]
    | some (sender, receiver) =>
      reportIf (sender ≠ task ∧ receiver ≠ task) (.error "M0021" task
        (s!"task holds `{capability}` but is neither endpoint of channel " ++
          s!"`{channelName}` (which runs `{sender}` → `{receiver}`)")
        ("grant the capability to an endpoint, or add a channel connecting this " ++
          "task"))

/-- Findings about one task's capabilities, given those seen so far. -/
def checkGrants (manifest : Manifest) (task : String) (seen : List String) :
    List String → List Diagnostic
  | [] => []
  | capability :: rest =>
    reportIf (capability ∈ seen) (.warning "M0019" task
        s!"capability `{capability}` is listed twice" "remove the duplicate")
      ++ checkGrant manifest task capability
      ++ checkGrants manifest task (capability :: seen) rest

/-- The finding about a channel no endpoint can use. -/
def checkClaimed (tasks : List Task) (channel : Channel) : List Diagnostic :=
  let capability := s!"ipc.{channel.name}"
  let claimed := ((tasks.filter fun task => task.name = channel.from ∨ task.name = channel.to).filter
    fun task => capability ∈ task.capabilities).length
  reportIf (claimed = 0) (.warning "M0022" channel.name
    ("channel is declared but neither endpoint holds its capability, so no " ++
      "task can use it")
    (s!"add `\"{capability}\"` to the capabilities of `{channel.from}` and `{channel.to}`, or " ++
      "delete the channel to reclaim its RAM"))

/-- Findings about the capabilities. -/
def checkCapabilities (manifest : Manifest) : List Diagnostic :=
  manifest.tasks.flatMap (fun task => checkGrants manifest task.name [] task.capabilities)
    ++ manifest.channels.flatMap (checkClaimed manifest.tasks)

/-- Check the manifest for whole-system problems. -/
def Manifest.validate (manifest : Manifest) (order : HashOrder) : Eval ValidationReport := do
  let timing ← checkTiming manifest
  let memory ← visitAll checkStack manifest.tasks
  let names := (manifest.tasks.map Task.name).dedup
  return ⟨checkTaskNames [] manifest.tasks ++ checkPriorities order manifest.tasks ++ timing ++ memory
    ++ checkChannels order manifest names [] manifest.channels ++ checkCapabilities manifest⟩

end Malleus
