import Malleus.Manifest.Alignment
import Malleus.Manifest.Padding
import Mathlib.Data.List.Duplicate

/-! What a report holds: the conditions a manifest is reported for, whatever order they are checked in. -/

namespace Malleus

open Machine

/-- A field is given, but its text is no duration. -/
def Unreadable (field : Option String) : Prop := field.isSome ∧ readDuration field = none

/--
What one task is reported for, by itself.

A period of zero is reported once, and is neither a bound on the deadline nor off the tick.
-/
inductive TaskFault (tickRate : String) (task : Task) : FindingKey → Prop
  | nameless (empty : task.name = "") : TaskFault tickRate task (.error, "M0002", "[[task]]")
  | beyondLevels (above : 31 < task.priority) : TaskFault tickRate task (.error, "M0003", task.name)
  | idleLevel (idle : task.priority = 0) : TaskFault tickRate task (.error, "M0004", task.name)
  | lateDeadline {period deadline : Duration} (given : readDuration task.period = some period)
      (nonzero : period.nanos ≠ 0) (due : readDuration task.deadline = some deadline)
      (late : period.nanos < deadline.nanos) : TaskFault tickRate task (.error, "M0006", task.name)
  | overrun {wcet deadline : Duration} (given : readDuration task.wcet = some wcet)
      (due : readDuration task.deadline = some deadline) (long : deadline.nanos < wcet.nanos) :
      TaskFault tickRate task (.error, "M0007", task.name)
  | unmeasured (contract : task.deadline.isSome) (missing : task.wcet = none) :
      TaskFault tickRate task (.warning, "M0008", task.name)
  | misaligned {period : Duration} {hz : UInt64} (given : readDuration task.period = some period)
      (nonzero : period.nanos ≠ 0) (spells : SpellsHz tickRate hz.toNat) (running : hz ≠ 0)
      (off : ¬TruncatedMultiple period.nanos.toNat hz.toNat) :
      TaskFault tickRate task (.warning, "M0009", task.name)
  | sizeless (unsized : ∀ stack, ByteSize.fromStr task.stack ≠ .ok stack) :
      TaskFault tickRate task (.error, "M0010", task.name)
  | shallow {stack : ByteSize} (sized : ByteSize.fromStr task.stack = .ok stack)
      (small : stack.bytes < 256) : TaskFault tickRate task (.error, "M0011", task.name)
  | padded {stack : ByteSize} (sized : ByteSize.fromStr task.stack = .ok stack)
      (between : ¬∃ exponent, stack.bytes.toNat = 2 ^ exponent) :
      TaskFault tickRate task (.warning, "M0012", task.name)
  | illegible {field : Option String} (listed : field ∈ [task.period, task.deadline, task.wcet])
      (unreadable : Unreadable field) : TaskFault tickRate task (.error, "M0023", task.name)
  | timeless {period : Duration} (given : readDuration task.period = some period)
      (zero : period.nanos = 0) : TaskFault tickRate task (.error, "M0026", task.name)

/-- What one channel is reported for, by itself. -/
inductive ChannelFault (manifest : Manifest) (channel : Channel) : FindingKey → Prop
  | dangling {task : String} (listed : task ∈ [channel.from, channel.to])
      (undeclared : ∀ other ∈ manifest.tasks, other.name ≠ task) :
      ChannelFault manifest channel (.error, "M0014", channel.name)
  | looped (same : channel.from = channel.to) :
      ChannelFault manifest channel (.error, "M0015", channel.name)
  | roomless (empty : channel.capacity = 0) :
      ChannelFault manifest channel (.error, "M0016", channel.name)
  | policyless (other : channel.overflow ∉ ["block", "reject", "drop-oldest", "drop-newest"]) :
      ChannelFault manifest channel (.error, "M0017", channel.name)
  | inverted {sender receiver : Task} (blocking : channel.overflow = "block")
      (sends : manifest.task channel.from = some sender)
      (receives : manifest.task channel.to = some receiver)
      (inversion : receiver.priority < sender.priority) :
      ChannelFault manifest channel (.warning, "M0018", channel.name)
  | unclaimed (idle : ∀ task ∈ manifest.tasks, task.name = channel.from ∨ task.name = channel.to →
        "ipc." ++ channel.name ∉ task.capabilities) :
      ChannelFault manifest channel (.warning, "M0022", channel.name)

/-- What the capabilities of one task are reported for. -/
inductive GrantFault (manifest : Manifest) (task : Task) : FindingKey → Prop
  | repeated {capability : String} (twice : List.Duplicate capability task.capabilities) :
      GrantFault manifest task (.warning, "M0019", task.name)
  | undeclared {channel : String} (held : "ipc." ++ channel ∈ task.capabilities)
      (missing : ∀ other ∈ manifest.channels, other.name ≠ channel) :
      GrantFault manifest task (.error, "M0020", task.name)
  | foreign {channel sender receiver : String} (held : "ipc." ++ channel ∈ task.capabilities)
      (ends : manifest.endpoints channel = some (sender, receiver)) (neither : sender ≠ task.name)
      (neither' : receiver ≠ task.name) : GrantFault manifest task (.error, "M0021", task.name)

/-- Everything a manifest is reported for: the faults of its parts, and those between them. -/
inductive ManifestFault (manifest : Manifest) : FindingKey → Prop
  | sameTask {name : String} (twice : List.Duplicate name (manifest.tasks.map Task.name)) :
      ManifestFault manifest (.error, "M0001", name)
  | sharedLevel {level : UInt8} {text : String} (joins : JoinsLevel manifest.tasks level text) :
      ManifestFault manifest (.warning, "M0005", text)
  | sameChannel {name : String} (twice : List.Duplicate name (manifest.channels.map Channel.name)) :
      ManifestFault manifest (.error, "M0013", name)
  | rateless (unread : ∀ hz : UInt64, ¬SpellsHz manifest.system.tickRate hz.toNat) :
      ManifestFault manifest (.error, "M0024", "[system]")
  | stopped (zero : SpellsHz manifest.system.tickRate 0) :
      ManifestFault manifest (.error, "M0025", "[system]")
  | task {task : Task} {key : FindingKey} (listed : task ∈ manifest.tasks)
      (fault : TaskFault manifest.system.tickRate task key) : ManifestFault manifest key
  | channel {channel : Channel} {key : FindingKey} (listed : channel ∈ manifest.channels)
      (fault : ChannelFault manifest channel key) : ManifestFault manifest key
  | grant {task : Task} {key : FindingKey} (listed : task ∈ manifest.tasks)
      (fault : GrantFault manifest task key) : ManifestFault manifest key

/-- A name repeats one already seen, or occurs twice among those to come. -/
def Repeated (seen names : List String) (name : String) : Prop :=
  name ∈ seen ∧ name ∈ names ∨ List.Duplicate name names

/-- The head of the names is a repetition of its own, and is seen by the rest. -/
theorem repeated_cons (seen rest : List String) (head name : String) :
    Repeated seen (head :: rest) name
      ↔ head ∈ seen ∧ name = head ∨ Repeated (head :: seen) rest name := by
  simp only [Repeated, List.duplicate_cons_iff, List.mem_cons]
  -- A name seen before its end, or twice in it, is so at the head or behind it.
  constructor
  · rintro (⟨before, rfl | later⟩ | ⟨rfl, later⟩ | twice)
    · exact .inl ⟨before, rfl⟩
    · exact .inr (.inl ⟨.inr before, later⟩)
    · exact .inr (.inl ⟨.inl rfl, later⟩)
    · exact .inr (.inr twice)
  · rintro (⟨before, rfl⟩ | ⟨rfl | before, later⟩ | twice)
    · exact .inl ⟨before, .inl rfl⟩
    · exact .inr (.inl ⟨rfl, later⟩)
    · exact .inl ⟨before, .inr later⟩
    · exact .inr (.inr twice)

/-- Nothing is seen at the start, so a repetition is a name that occurs twice. -/
@[simp] theorem repeated_nil (names : List String) (name : String) :
    Repeated [] names name ↔ List.Duplicate name names := by
  simp [Repeated]

/-- There are no names to repeat in an empty list. -/
@[simp] theorem not_repeated_nil (seen : List String) (name : String) : ¬Repeated seen [] name := by
  rintro (⟨-, listed⟩ | twice)
  · cases listed
  · exact twice.elim_nil

/--
A scan reports the names that repeat, and every entry by itself.

The entries are visited in order, each name joining those seen before the rest is scanned.
-/
theorem raises_scan {α : Type} {check : List String → List α → List Diagnostic} {nameOf : α → String}
    {again : α → Diagnostic} {own : α → List Diagnostic} {known : String → FindingKey}
    (nil : ∀ seen, check seen [] = [])
    (cons : ∀ seen entry rest, check seen (entry :: rest)
      = reportIf (nameOf entry ∈ seen) (again entry) ++ own entry ++ check (nameOf entry :: seen) rest)
    (named : ∀ entry, (again entry).key = known (nameOf entry)) (seen : List String)
    (entries : List α) (key : FindingKey) :
    Raises (check seen entries) key
      ↔ (∃ name, Repeated seen (entries.map nameOf) name ∧ key = known name)
        ∨ ∃ entry ∈ entries, Raises (own entry) key := by
  induction entries generalizing seen with
  | nil => simp [nil]
  | cons entry rest scanned =>
    -- The head is a repetition of a name seen, and is itself seen from here on.
    have head : (∃ name, (nameOf entry ∈ seen ∧ name = nameOf entry) ∧ key = known name)
        ↔ nameOf entry ∈ seen ∧ key = known (nameOf entry) := by
      constructor
      · rintro ⟨name, ⟨before, rfl⟩, same⟩
        exact ⟨before, same⟩
      · rintro ⟨before, same⟩
        exact ⟨nameOf entry, ⟨before, rfl⟩, same⟩
    simp only [cons, raises_append, raises_reportIf, named, scanned, List.map_cons, repeated_cons,
      or_and_right, exists_or, List.exists_mem_cons_iff]
    rw [head, or_or_or_comm]

/-- A field is reported where it is given and cannot be read. -/
theorem raises_parseDuration (text : Option String) (task field : String) (key : FindingKey) :
    Raises (parseDuration text task field).2 key
      ↔ Unreadable text ∧ key = (.error, "M0023", task) := by
  unfold Unreadable
  -- A field that is not given is not read.
  cases text with
  | none => simp [parseDuration]
  | some text =>
    simp only [parseDuration, readDuration, Option.bind_some]
    split <;> rename_i parsed <;> simp [parsed, Except.toOption]

/-- A period is reported where it is zero. -/
theorem raises_discardZeroPeriod (task : String) (period : Option Duration) (key : FindingKey) :
    Raises (discardZeroPeriod task period).2 key
      ↔ (∃ value, period = some value ∧ value.nanos = 0) ∧ key = (.error, "M0026", task) := by
  -- A period that is not given is not zero.
  cases period with
  | none => simp [discardZeroPeriod]
  | some value =>
    by_cases zero : value.nanos = 0 <;> simp [discardZeroPeriod, Duration.asNanos, zero]

/-- A deadline is reported where it is longer than a period that is not zero. -/
theorem raises_checkDeadline (task : String) (period deadline : Option Duration) (key : FindingKey) :
    Raises (checkDeadline task (period.filter (·.nanos ≠ 0)) deadline) key
      ↔ (∃ limit due, period = some limit ∧ limit.nanos ≠ 0 ∧ deadline = some due
        ∧ limit.nanos < due.nanos) ∧ key = (.error, "M0006", task) := by
  -- A period of zero has been discarded before the comparison.
  cases period with
  | none => simp [checkDeadline]
  | some limit =>
    by_cases zero : limit.nanos = 0
    · simp [checkDeadline, Option.filter, zero]
    · cases deadline <;> simp [checkDeadline, Option.filter, zero]

/-- A period is reported off the tick where it is no multiple of the tick's nanoseconds. -/
theorem raises_alignment (tickRate : String) (task : Task) (key : FindingKey) :
    Raises (findingsOf (fun period => checkAlignment tickRate task.name period (parseTickHz tickRate))
        ((readDuration task.period).filter (·.nanos ≠ 0))) key
      ↔ (∃ period hz, readDuration task.period = some period ∧ period.nanos ≠ 0
        ∧ SpellsHz tickRate (UInt64.toNat hz) ∧ hz ≠ 0
        ∧ ¬TruncatedMultiple period.nanos.toNat hz.toNat)
        ∧ key = (.warning, "M0009", task.name) := by
  simp only [← parseTickHz_eq_some]
  cases rate : parseTickHz tickRate with
  | none => cases (readDuration task.period).filter (·.nanos ≠ 0) <;> simp [findingsOf, checkAlignment]
  | some hz =>
    -- A stopped clock has no tick to be off, and is reported elsewhere.
    by_cases stopped : hz = 0
    · cases (readDuration task.period).filter (·.nanos ≠ 0) <;>
        simp [findingsOf, checkAlignment, stopped]
    · rw [raises_checkAlignment tickRate stopped, Misaligned]
      refine and_congr_left fun _ => ?_
      constructor
      · rintro ⟨period, given, nonzero, off⟩
        refine ⟨period, hz, given, nonzero, rfl, stopped, fun multiple => ?_⟩
        rw [(period.isTickAligned_iff stopped).mpr multiple] at off
        cases off
      · rintro ⟨period, hz', given, nonzero, same, -, off⟩
        obtain rfl := Option.some.inj same
        obtain ⟨aligned, tested⟩ := period.isTickAligned_eq_ok hz
        refine ⟨period, given, nonzero, ?_⟩
        cases aligned with
        | false => exact tested
        | true => exact absurd ((period.isTickAligned_iff stopped).mp tested) off

/-- A stack is reported where it is no size, too small, or no power of two. -/
theorem raises_checkStack {task : Task} {found : List Diagnostic}
    (completed : checkStack task = .ok found) (key : FindingKey) :
    Raises found key
      ↔ (∀ stack, ByteSize.fromStr task.stack ≠ .ok stack) ∧ key = (.error, "M0010", task.name)
        ∨ (∃ stack, ByteSize.fromStr task.stack = .ok stack ∧ stack.bytes < 256)
          ∧ key = (.error, "M0011", task.name)
        ∨ (∃ stack, ByteSize.fromStr task.stack = .ok stack
          ∧ ¬∃ exponent, stack.bytes.toNat = 2 ^ exponent)
          ∧ key = (.warning, "M0012", task.name) := by
  unfold checkStack at completed
  split at completed
  · rename_i parsed
    cases completed
    simp [parsed]
  · rename_i stack parsed
    obtain ⟨padded, rounded, remaining⟩ := Machine.bind_eq_ok.mp completed
    obtain ⟨wasteful, checked, joined⟩ := Machine.bind_eq_ok.mp remaining
    rw [Machine.pure_eq_ok, Except.ok.injEq] at joined
    -- The padding is reported where rounding up changes the size.
    have warned : Raises wasteful key ↔ ¬(∃ exponent, stack.bytes.toNat = 2 ^ exponent)
        ∧ key = (.warning, "M0012", task.name) := by
      rw [← ByteSize.eq_self_iff_of_rounded rounded]
      unfold checkPadding at checked
      split at checked
      · rename_i same
        cases checked
        simp [same]
      · rename_i apart
        obtain ⟨wasted, -, reported⟩ := Machine.bind_eq_ok.mp checked
        rw [Machine.pure_eq_ok, Except.ok.injEq] at reported
        subst reported
        simp [apart]
    subst joined
    rw [raises_append, raises_reportIf, warned, Diagnostic.key_error]
    simp only [parsed, ByteSize.asBytes, minStack, Except.ok.injEq, exists_eq_left', ne_eq,
      forall_eq', false_and, false_or]

/-- What a task's timing is reported for is what its fields and their order are at fault for. -/
theorem raises_timing (tickRate : String) (task : Task) (key : FindingKey) :
    Raises (findingsOf (checkTaskTiming tickRate (parseTickHz tickRate)) task) key
      → TaskFault tickRate task key := by
  have period : task.period ∈ [task.period, task.deadline, task.wcet] := by simp
  have deadline : task.deadline ∈ [task.period, task.deadline, task.wcet] := by simp
  have wcet : task.wcet ∈ [task.period, task.deadline, task.wcet] := by simp
  simp only [raises_checkTaskTiming, timingRest, raises_append, raises_parseDuration,
    raises_discardZeroPeriod, raises_checkDeadline, raises_alignment]
  -- One case per finding, in the order the check makes them.
  rintro ((((((⟨unread, rfl⟩ | ⟨⟨value, given, zero⟩, rfl⟩) | ⟨unread, rfl⟩) | ⟨unread, rfl⟩)
    | ⟨⟨limit, due, given, nonzero, declared, late⟩, rfl⟩)
    | ⟨⟨value, hz, given, nonzero, spells, running, off⟩, rfl⟩)
    | ⟨⟨cost, given, due, declared, long⟩, rfl⟩ | ⟨⟨contract, missing⟩, rfl⟩)
  · exact .illegible period unread
  · exact .timeless given zero
  · exact .illegible deadline unread
  · exact .illegible wcet unread
  · exact .lateDeadline given nonzero declared late
  · exact .misaligned given nonzero spells running off
  · exact .overrun given declared long
  · exact .unmeasured contract (Option.isNone_iff_eq_none.mp missing)

/-- What a task is reported for by itself is what its checks raise. -/
theorem raises_task (tickRate : String) {task : Task} {sized : List Diagnostic}
    (completed : checkStack task = .ok sized) (key : FindingKey) :
    (task.name = "" ∧ key = (.error, "M0002", "[[task]]")) ∨ Raises (checkPriority task) key
      ∨ Raises (findingsOf (checkTaskTiming tickRate (parseTickHz tickRate)) task) key
      ∨ Raises sized key
      ↔ TaskFault tickRate task key := by
  constructor
  · rw [raises_checkStack completed, checkPriority, raises_append, raises_reportIf, raises_reportIf]
    rintro (⟨empty, rfl⟩ | (⟨high, rfl⟩ | ⟨idle, rfl⟩) | timed | ⟨unsized, rfl⟩
      | ⟨⟨stack, parsed, small⟩, rfl⟩ | ⟨⟨stack, parsed, between⟩, rfl⟩)
    · exact .nameless empty
    · exact .beyondLevels high
    · exact .idleLevel idle
    · exact raises_timing tickRate task key timed
    · exact .sizeless unsized
    · exact .shallow parsed small
    · exact .padded parsed between
  -- Each condition is one check's, and the check raises its code.
  · rintro fault
    simp only [raises_checkTaskTiming, timingRest, raises_append, raises_parseDuration,
      raises_discardZeroPeriod, raises_checkDeadline, raises_alignment, raises_checkStack completed,
      checkPriority, raises_reportIf, Diagnostic.key_error]
    cases fault with
    | nameless empty => exact .inl ⟨empty, rfl⟩
    | beyondLevels above => exact .inr (.inl (.inl ⟨above, rfl⟩))
    | idleLevel idle => exact .inr (.inl (.inr ⟨idle, rfl⟩))
    | lateDeadline given nonzero due late => simp [given, nonzero, due, late]
    | overrun given due long => simp [Overruns, given, due, long]
    | unmeasured contract missing => simp [Unmeasured, contract, missing]
    | misaligned given nonzero spells running off =>
      exact .inr (.inr (.inl (.inl (.inr ⟨⟨_, _, given, nonzero, spells, running, off⟩, rfl⟩))))
    | sizeless unsized => exact .inr (.inr (.inr (.inl ⟨unsized, rfl⟩)))
    | shallow parsed small => exact .inr (.inr (.inr (.inr (.inl ⟨⟨_, parsed, small⟩, rfl⟩))))
    | padded parsed between => exact .inr (.inr (.inr (.inr (.inr ⟨⟨_, parsed, between⟩, rfl⟩))))
    | illegible listed unreadable =>
      simp only [List.mem_cons, List.not_mem_nil, or_false] at listed
      rcases listed with rfl | rfl | rfl <;> simp [unreadable]
    | timeless given zero => simp [given, zero]

/-- No channel of a name is declared exactly when the lookup of its endpoints finds none. -/
theorem Manifest.endpoints_eq_none (manifest : Manifest) (name : String) :
    manifest.endpoints name = none ↔ ∀ channel ∈ manifest.channels, channel.name ≠ name := by
  -- The scan keeps the last channel of the name, so it ends without one only if there is none.
  have scanned : ∀ (channels : List Channel) (found : Option (String × String)),
      channels.foldl (fun found channel =>
          if channel.name = name then some (channel.from, channel.to) else found) found = none
        ↔ (∀ channel ∈ channels, channel.name ≠ name) ∧ found = none := by
    intro channels
    induction channels with
    | nil => simp
    | cons channel rest others =>
      intro found
      rw [List.foldl_cons, others]
      by_cases here : channel.name = name <;> simp [here]
  rw [endpoints, scanned]
  simp

/-- What a channel is reported for by itself is what its checks raise. -/
theorem raises_channel (order : HashOrder) (manifest : Manifest) (channel : Channel)
    (key : FindingKey) :
    Raises (checkChannel order manifest ((manifest.tasks.map Task.name).dedup) channel) key
      ∨ Raises (checkClaimed manifest.tasks channel) key ↔ ChannelFault manifest channel key := by
  have inversion : Raises (checkInversion manifest channel) key
      ↔ channel.overflow = "block" ∧ (∃ sender receiver, manifest.task channel.from = some sender
        ∧ manifest.task channel.to = some receiver ∧ receiver.priority < sender.priority)
        ∧ key = (.warning, "M0018", channel.name) := by
    unfold checkInversion
    by_cases blocking : channel.overflow = "block"
    · cases manifest.task channel.from <;> cases manifest.task channel.to <;> simp [blocking]
    · simp [blocking]
  have idle : Raises (checkClaimed manifest.tasks channel) key
      ↔ (∀ task ∈ manifest.tasks, task.name = channel.from ∨ task.name = channel.to →
        "ipc." ++ channel.name ∉ task.capabilities) ∧ key = (.warning, "M0022", channel.name) := by
    have spelled : s!"ipc.{channel.name}" = "ipc." ++ channel.name := rfl
    simp only [checkClaimed, raises_reportIf, List.length_eq_zero_iff, List.filter_eq_nil_iff,
      List.mem_filter, decide_eq_true_iff, Diagnostic.key_warning, and_imp, spelled]
  -- The validator looks a name up among the task names, each once.
  have known : ∀ task, task ∉ (manifest.tasks.map Task.name).dedup
      ↔ ∀ other ∈ manifest.tasks, other.name ≠ task := by
    simp
  simp only [checkChannel, checkEndpoint, raises_append, raises_reportIf, Diagnostic.key_error,
    inversion, idle, known]
  constructor
  · rintro ((((((⟨missing, rfl⟩ | ⟨missing, rfl⟩) | ⟨same, rfl⟩) | ⟨empty, rfl⟩) | ⟨other, rfl⟩)
      | ⟨blocking, ⟨sender, receiver, sends, receives, below⟩, rfl⟩) | ⟨unheld, rfl⟩)
    · exact .dangling (by simp) missing
    · exact .dangling (by simp) missing
    · exact .looped same
    · exact .roomless empty
    · exact .policyless other
    · exact .inverted blocking sends receives below
    · exact .unclaimed unheld
  · rintro fault
    cases fault with
    | dangling listed undeclared =>
      simp only [List.mem_cons, List.not_mem_nil, or_false] at listed
      rcases listed with rfl | rfl
      · exact .inl (.inl (.inl (.inl (.inl (.inl ⟨undeclared, rfl⟩)))))
      · exact .inl (.inl (.inl (.inl (.inl (.inr ⟨undeclared, rfl⟩)))))
    | looped same => exact .inl (.inl (.inl (.inl (.inr ⟨same, rfl⟩))))
    | roomless empty => exact .inl (.inl (.inl (.inr ⟨empty, rfl⟩)))
    | policyless other => exact .inl (.inl (.inr ⟨other, rfl⟩))
    | inverted blocking sends receives below =>
      exact .inl (.inr ⟨blocking, ⟨_, _, sends, receives, below⟩, rfl⟩)
    | unclaimed unheld => exact .inr ⟨unheld, rfl⟩

/-- What the capabilities of a task are reported for is what their checks raise. -/
theorem raises_grants (manifest : Manifest) (task : Task) (key : FindingKey) :
    Raises (checkGrants manifest task.name [] task.capabilities) key ↔ GrantFault manifest task key := by
  -- A single capability is checked against the channel it names, if it names one.
  have grant : ∀ capability, Raises (checkGrant manifest task.name capability) key
      ↔ ∃ channel, capability = "ipc." ++ channel
        ∧ (manifest.endpoints channel = none ∧ key = (.error, "M0020", task.name)
          ∨ (∃ sender receiver, manifest.endpoints channel = some (sender, receiver)
            ∧ sender ≠ task.name ∧ receiver ≠ task.name) ∧ key = (.error, "M0021", task.name)) := by
    intro capability
    simp only [checkGrant, ← stripIpc_eq_some]
    cases stripIpc capability with
    | none => simp
    | some channel =>
      cases ends : manifest.endpoints channel with
      | none => simp [ends]
      | some pair =>
        obtain ⟨sender, receiver⟩ := pair
        simp [ends, and_assoc]
  have scanned : Raises (checkGrants manifest task.name [] task.capabilities) key
      ↔ (∃ capability, Repeated [] (task.capabilities.map id) capability
          ∧ key = (.warning, "M0019", task.name))
        ∨ ∃ capability ∈ task.capabilities, Raises (checkGrant manifest task.name capability) key :=
    raises_scan (fun _ => rfl) (fun _ _ _ => rfl) (fun _ => rfl) [] task.capabilities key
  rw [scanned]
  simp only [grant, List.map_id, repeated_nil, manifest.endpoints_eq_none]
  -- What the scan and the single checks raise are the three kinds of faults.
  constructor
  · rintro (⟨capability, twice, rfl⟩ | ⟨_, held, channel, rfl, ⟨missing, rfl⟩
      | ⟨⟨sender, receiver, ends, neither, neither'⟩, rfl⟩⟩)
    · exact .repeated twice
    · exact .undeclared held missing
    · exact .foreign held ends neither neither'
  · rintro fault
    cases fault with
    | repeated twice => exact .inl ⟨_, twice, rfl⟩
    | undeclared held missing => exact .inr ⟨_, held, _, rfl, .inl ⟨missing, rfl⟩⟩
    | foreign held ends neither neither' =>
      exact .inr ⟨_, held, _, rfl, .inr ⟨⟨_, _, ends, neither, neither'⟩, rfl⟩⟩

/-- A tick rate is reported where no word is its frequency, and where its frequency is zero. -/
theorem raises_checkTickRate (tickRate : String) (key : FindingKey) :
    Raises (checkTickRate tickRate (parseTickHz tickRate)) key
      ↔ (∀ hz : UInt64, ¬SpellsHz tickRate hz.toNat) ∧ key = (.error, "M0024", "[system]")
        ∨ SpellsHz tickRate 0 ∧ key = (.error, "M0025", "[system]") := by
  -- The reader of the rate finds a frequency exactly where a word spells it.
  have zero : SpellsHz tickRate (UInt64.toNat 0) ↔ parseTickHz tickRate = some 0 :=
    parseTickHz_eq_some.symm
  rw [UInt64.toNat_zero] at zero
  simp only [← parseTickHz_eq_some, zero]
  cases parseTickHz tickRate with
  | none => simp [checkTickRate]
  | some hz => simp [checkTickRate]

/-- The findings about the stacks, where the validator returns, are those of the single visits. -/
theorem checkStack_findings {manifest : Manifest} {memory : List Diagnostic}
    (visited : visitAll checkStack manifest.tasks = .ok memory) :
    memory = manifest.tasks.flatMap (findingsOf checkStack)
      ∧ ∀ task ∈ manifest.tasks, checkStack task = .ok (findingsOf checkStack task) := by
  -- A sweep that completes joins what its visits found.
  obtain ⟨each, joined⟩ := (visitAll_eq_ok checkStack manifest.tasks memory).mp visited
  refine ⟨joined, fun task listed => ?_⟩
  obtain ⟨part, here⟩ := each task listed
  rw [findingsOf, here]

/-- The findings of a report are those of its checks, one entry at a time. -/
theorem raises_checks {manifest : Manifest} {order : HashOrder} {report : ValidationReport}
    (completed : manifest.validate order = .ok report) (key : FindingKey) :
    Raises report.diagnostics key
      ↔ ((∃ name, List.Duplicate name (manifest.tasks.map Task.name) ∧ key = (.error, "M0001", name))
          ∨ ∃ task ∈ manifest.tasks, task.name = "" ∧ key = (.error, "M0002", "[[task]]"))
        ∨ (∃ task ∈ manifest.tasks, Raises (checkPriority task) key)
        ∨ (∃ level text, JoinsLevel manifest.tasks level text ∧ key = (.warning, "M0005", text))
        ∨ ((∀ hz : UInt64, ¬SpellsHz manifest.system.tickRate hz.toNat)
            ∧ key = (.error, "M0024", "[system]")
          ∨ SpellsHz manifest.system.tickRate 0 ∧ key = (.error, "M0025", "[system]"))
        ∨ (∃ task ∈ manifest.tasks, Raises (findingsOf (checkTaskTiming manifest.system.tickRate
            (parseTickHz manifest.system.tickRate)) task) key)
        ∨ (∃ task ∈ manifest.tasks, Raises (findingsOf checkStack task) key)
        ∨ ((∃ name, List.Duplicate name (manifest.channels.map Channel.name)
              ∧ key = (.error, "M0013", name))
          ∨ ∃ channel ∈ manifest.channels, Raises (checkChannel order manifest
            ((manifest.tasks.map Task.name).dedup) channel) key)
        ∨ (∃ task ∈ manifest.tasks, GrantFault manifest task key)
        ∨ ∃ channel ∈ manifest.channels, Raises (checkClaimed manifest.tasks channel) key := by
  obtain ⟨timing, memory, timed, visited, joined⟩ :=
    (manifest.validate_eq_ok order report).mp completed
  obtain ⟨found, swept, listed⟩ := Machine.bind_eq_ok.mp timed
  rw [Machine.pure_eq_ok, Except.ok.injEq] at listed
  have timings := ((visitAll_eq_ok _ _ _).mp swept).2
  have memories := (checkStack_findings visited).1
  -- The names of the tasks and of the channels are scanned, with the findings about each on the way.
  have tasks : Raises (checkTaskNames [] manifest.tasks) key
      ↔ (∃ name, Repeated [] (manifest.tasks.map Task.name) name ∧ key = (.error, "M0001", name))
        ∨ ∃ task ∈ manifest.tasks, Raises (reportIf (task.name = "") _) key :=
    raises_scan (fun _ => rfl) (fun _ _ _ => rfl) (fun _ => rfl) [] manifest.tasks key
  have channels : Raises (checkChannels order manifest ((manifest.tasks.map Task.name).dedup) []
        manifest.channels) key
      ↔ (∃ name, Repeated [] (manifest.channels.map Channel.name) name
          ∧ key = (.error, "M0013", name))
        ∨ ∃ channel ∈ manifest.channels, Raises (checkChannel order manifest
          ((manifest.tasks.map Task.name).dedup) channel) key :=
    raises_scan (fun _ => rfl) (fun _ _ _ => rfl) (fun _ => rfl) [] manifest.channels key
  rw [joined, ← listed, timings, memories, ← raises_checkLevels order]
  simp only [raises_append, raises_flatMap, checkPriorities, checkCapabilities, tasks, channels,
    repeated_nil, raises_checkTickRate, raises_grants, raises_reportIf, Diagnostic.key_error, or_assoc]

/-- A finding is raised exactly where its condition holds, and it holds of the manifest alone. -/
theorem raises_iff_fault {manifest : Manifest} {order : HashOrder} {report : ValidationReport}
    (completed : manifest.validate order = .ok report) (key : FindingKey) :
    Raises report.diagnostics key ↔ ManifestFault manifest key := by
  rw [raises_checks completed]
  obtain ⟨timing, memory, -, visited, -⟩ := (manifest.validate_eq_ok order report).mp completed
  -- The findings about one entry are its own faults; those about two are about repeated names.
  have sized := (checkStack_findings visited).2
  have alone := fun task listed => raises_task manifest.system.tickRate (sized task listed) key
  have joins := fun channel => raises_channel order manifest channel key
  constructor
  · rintro ((⟨name, twice, rfl⟩ | ⟨task, listed, unnamed⟩) | ⟨task, listed, raised⟩
      | ⟨level, text, shared, rfl⟩ | (⟨unread, rfl⟩ | ⟨zero, rfl⟩) | ⟨task, listed, raised⟩
      | ⟨task, listed, raised⟩ | (⟨name, twice, rfl⟩ | ⟨channel, listed, raised⟩)
      | ⟨task, listed, fault⟩ | ⟨channel, listed, raised⟩)
    · exact .sameTask twice
    · exact .task listed ((alone task listed).mp (.inl unnamed))
    · exact .task listed ((alone task listed).mp (.inr (.inl raised)))
    · exact .sharedLevel shared
    · exact .rateless unread
    · exact .stopped zero
    · exact .task listed ((alone task listed).mp (.inr (.inr (.inl raised))))
    · exact .task listed ((alone task listed).mp (.inr (.inr (.inr raised))))
    · exact .sameChannel twice
    · exact .channel listed ((joins channel).mp (.inl raised))
    · exact .grant listed fault
    · exact .channel listed ((joins channel).mp (.inr raised))
  · rintro fault
    cases fault with
    | sameTask twice => exact .inl (.inl ⟨_, twice, rfl⟩)
    | sharedLevel shared => exact .inr (.inr (.inl ⟨_, _, shared, rfl⟩))
    | sameChannel twice =>
      exact .inr (.inr (.inr (.inr (.inr (.inr (.inl (.inl ⟨_, twice, rfl⟩)))))))
    | rateless unread => exact .inr (.inr (.inr (.inl (.inl ⟨unread, rfl⟩))))
    | stopped zero => exact .inr (.inr (.inr (.inl (.inr ⟨zero, rfl⟩))))
    | @task task _ listed fault =>
      rcases (alone task listed).mpr fault with unnamed | raised | raised | raised
      · exact .inl (.inr ⟨task, listed, unnamed⟩)
      · exact .inr (.inl ⟨task, listed, raised⟩)
      · exact .inr (.inr (.inr (.inr (.inl ⟨task, listed, raised⟩))))
      · exact .inr (.inr (.inr (.inr (.inr (.inl ⟨task, listed, raised⟩)))))
    | @channel channel _ listed fault =>
      rcases (joins channel).mpr fault with raised | raised
      · exact .inr (.inr (.inr (.inr (.inr (.inr (.inl (.inr ⟨channel, listed, raised⟩)))))))
      · exact .inr (.inr (.inr (.inr (.inr (.inr (.inr (.inr ⟨channel, listed, raised⟩)))))))
    | @grant task _ listed fault =>
      exact .inr (.inr (.inr (.inr (.inr (.inr (.inr (.inl ⟨task, listed, fault⟩)))))))

/-- A report is empty exactly where there is nothing to report. -/
theorem diagnostics_eq_nil_iff_faultless {manifest : Manifest} {order : HashOrder}
    {report : ValidationReport} (completed : manifest.validate order = .ok report) :
    report.diagnostics = [] ↔ ∀ key, ¬ManifestFault manifest key := by
  -- Every finding is a fault, and every fault a finding.
  simp only [← raises_iff_fault completed, Raises, List.eq_nil_iff_forall_not_mem, List.mem_map,
    not_exists, not_and]
  exact ⟨fun none_ _ finding listed => absurd listed (none_ finding),
    fun none_ finding listed => none_ _ finding listed rfl⟩

/--
A report holds exactly what its manifest is at fault for.

Every condition is found wherever it holds, with its severity, code, and location, and no other
finding is made, however the checks are ordered and whatever else is at fault. The build stops on a
fault that is an error, and a report without findings is of a manifest without faults.
-/
theorem report_holds_faults {manifest : Manifest} {order : HashOrder} {report : ValidationReport}
    (completed : manifest.validate order = .ok report) :
    (∀ key, Raises report.diagnostics key ↔ ManifestFault manifest key)
      ∧ (report.isOk = true ↔ ∀ key, ManifestFault manifest key → key.1 = .warning)
      ∧ (report.diagnostics = [] ↔ ∀ key, ¬ManifestFault manifest key) := by
  have raises := raises_iff_fault completed
  refine ⟨raises, ?_, diagnostics_eq_nil_iff_faultless completed⟩
  simp only [report.isOk_iff, ErrorFree, ← raises, Raises, List.forall_mem_map, Diagnostic.key]

/-- A task that talks to itself, at a rate of zero. -/
def echoChamber : Manifest where
  system := ⟨"0Hz"⟩
  tasks := [⟨"echo", 7, "2KiB", none, none, none, ["ipc.loop"]⟩]
  channels := [⟨"loop", "echo", "echo", 0, "block"⟩]

/-- The stopped clock, the loop, and the missing room of the echo chamber are all reported. -/
theorem echoChamber_reported : ∃ report, echoChamber.validate .insertion = .ok report
    ∧ Raises report.diagnostics (.error, "M0025", "[system]")
    ∧ Raises report.diagnostics (.error, "M0015", "loop")
    ∧ Raises report.diagnostics (.error, "M0016", "loop") := by
  have rounds : ∀ task ∈ echoChamber.tasks, RoundableStack task := by
    intro task listed stack sized
    rw [List.mem_singleton.mp listed] at sized
    have parsed : ByteSize.fromStr "2KiB" = .ok ⟨2048⟩ := by decide
    rw [parsed, Except.ok.injEq] at sized
    rw [← sized]
    decide
  -- The one stack rounds, so there is a report.
  obtain ⟨report, completed⟩ := Manifest.validate_returns .insertion rounds
  have stopped : SpellsHz "0Hz" 0 := parseTickHz_eq_some.mp (show parseTickHz "0Hz" = some 0 by decide)
  exact ⟨report, completed, ((report_holds_faults completed).1 _).mpr (.stopped stopped),
    ((report_holds_faults completed).1 _).mpr (.channel (List.mem_singleton.mpr rfl) (.looped rfl)),
    ((report_holds_faults completed).1 _).mpr (.channel (List.mem_singleton.mpr rfl) (.roomless rfl))⟩

end Malleus
