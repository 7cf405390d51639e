import Malleus.Manifest.Validate

/-! What each check of the validator finds: when it returns, and when it reports no error. -/

namespace Malleus

open Machine

/-- Findings that do not stop the build. -/
def ErrorFree (findings : List Diagnostic) : Prop :=
  ∀ finding ∈ findings, finding.severity = .warning

/-- A report is fine exactly when none of its findings stops the build. -/
theorem ValidationReport.isOk_iff (report : ValidationReport) :
    report.isOk = true ↔ ErrorFree report.diagnostics := by
  -- There are only the two severities.
  have two : ∀ severity : Severity, ¬severity = .error ↔ severity = .warning := by
    intro severity
    cases severity <;> simp
  simp [ValidationReport.isOk, ValidationReport.errorCount, ErrorFree, two]

@[simp] theorem errorFree_nil : ErrorFree [] := by simp [ErrorFree]

@[simp] theorem errorFree_append (first second : List Diagnostic) :
    ErrorFree (first ++ second) ↔ ErrorFree first ∧ ErrorFree second := by
  simp only [ErrorFree, List.mem_append, or_imp, forall_and]

@[simp] theorem errorFree_flatMap {α : Type} (entries : List α) (check : α → List Diagnostic) :
    ErrorFree (entries.flatMap check) ↔ ∀ entry ∈ entries, ErrorFree (check entry) := by
  -- A finding of the whole list is a finding about one entry.
  simp only [ErrorFree, List.mem_flatMap]
  constructor
  · intro free entry listed finding found
    exact free finding ⟨entry, listed, found⟩
  · intro free finding found
    obtain ⟨entry, listed, here⟩ := found
    exact free entry listed finding here

@[simp] theorem not_errorFree_error (code location message suggestion : String) :
    ¬ErrorFree [.error code location message suggestion] := by
  simp [ErrorFree, Diagnostic.error]

@[simp] theorem errorFree_warning (code location message suggestion : String) :
    ErrorFree [.warning code location message suggestion] := by
  simp [ErrorFree, Diagnostic.warning]

/-- An error is absent exactly when its condition fails. -/
@[simp] theorem errorFree_reportIf_error (found : Prop) [Decidable found]
    (code location message suggestion : String) :
    ErrorFree (reportIf found (.error code location message suggestion)) ↔ ¬found := by
  unfold reportIf
  split <;> simp [*]

/-- A warning never stops the build. -/
@[simp] theorem errorFree_reportIf_warning (found : Prop) [Decidable found]
    (code location message suggestion : String) :
    ErrorFree (reportIf found (.warning code location message suggestion)) := by
  unfold reportIf
  split <;> simp

/-- Names seen once and never again, none of them among those already seen. -/
theorem checkTaskNames_errorFree (seen : List String) (tasks : List Task) :
    ErrorFree (checkTaskNames seen tasks)
      ↔ (tasks.map Task.name).Nodup ∧ (∀ task ∈ tasks, task.name ∉ seen)
        ∧ ∀ task ∈ tasks, task.name ≠ "" := by
  induction tasks generalizing seen with
  | nil => simp [checkTaskNames]
  | cons task rest checked =>
    -- The head's name joins the seen names, so the rest must avoid it.
    simp only [checkTaskNames, errorFree_append, errorFree_reportIf_error, checked, List.map_cons,
      List.nodup_cons, List.mem_cons, not_or, forall_eq_or_imp, List.mem_map, not_exists, not_and,
      forall_and]
    tauto

/-- A priority in the range the kernel provides for applications. -/
theorem checkPriority_errorFree (task : Task) :
    ErrorFree (checkPriority task) ↔ 1 ≤ task.priority ∧ task.priority ≤ 31 := by
  -- Priorities are compared as numbers.
  have zero : task.priority = 0 ↔ task.priority.toNat = 0 := by
    rw [← UInt8.toNat_inj]
    rfl
  have one : (1 : UInt8).toNat = 1 := rfl
  simp only [checkPriority, errorFree_append, errorFree_reportIf_error, maxPriority,
    UInt8.lt_iff_toNat_lt, UInt8.le_iff_toNat_le, zero, one]
  omega

/-- Sharing a priority is only ever a warning. -/
theorem checkPriorities_errorFree (order : HashOrder) (tasks : List Task) :
    ErrorFree (checkPriorities order tasks)
      ↔ ∀ task ∈ tasks, 1 ≤ task.priority ∧ task.priority ≤ 31 := by
  -- A shared level is reported, but only as a warning.
  have level : ∀ entry ∈ order.levels (byPriority tasks), ErrorFree (checkLevel entry) := by
    intro entry _
    exact errorFree_reportIf_warning _ _ _ _ _
  simp only [checkPriorities, errorFree_append, errorFree_flatMap, checkPriority_errorFree,
    and_iff_left level]

/-- A tick rate that is a positive frequency. -/
theorem checkTickRate_errorFree (tickRate : String) (tickHz : Option UInt64) :
    ErrorFree (checkTickRate tickRate tickHz) ↔ ∃ hz, tickHz = some hz ∧ hz ≠ 0 := by
  -- The rate is unreadable, or it is tested for zero.
  cases tickHz with
  | none => simp [checkTickRate]
  | some hz => simp [checkTickRate]

/-- The duration a field holds, if it is given and its text is a duration. -/
def readDuration (text : Option String) : Option Duration :=
  text.bind fun text => (Duration.fromStr text).toOption

/-- Parsing a field yields the duration it holds. -/
@[simp] theorem parseDuration_fst (text : Option String) (task field : String) :
    (parseDuration text task field).1 = readDuration text := by
  -- Reading the field is parsing its text, if it has one.
  cases text with
  | none => rfl
  | some text =>
    simp only [parseDuration, readDuration, Option.bind_some]
    split <;> rename_i parsed <;> rw [parsed] <;> rfl

/-- A field is at fault exactly when it is given and its text is not a duration. -/
theorem parseDuration_errorFree (text : Option String) (task field : String) :
    ErrorFree (parseDuration text task field).2 ↔ (text.isSome → (readDuration text).isSome) := by
  -- An absent field is never reported.
  cases text with
  | none => simp [parseDuration]
  | some text =>
    simp only [parseDuration, readDuration, Option.bind_some]
    split <;> rename_i parsed <;> simp [parsed, Except.toOption]

/-- What is left of a period once zero is discarded. -/
@[simp] theorem discardZeroPeriod_fst (task : String) (period : Option Duration) :
    (discardZeroPeriod task period).1 = period.filter (·.nanos ≠ 0) := by
  -- Only a period of zero is discarded.
  cases period with
  | none => rfl
  | some period =>
    simp only [discardZeroPeriod, Duration.asNanos]
    by_cases zero : period.nanos = 0 <;> simp [Option.filter, zero]

/-- A period is at fault exactly when it is zero. -/
theorem discardZeroPeriod_errorFree (task : String) (period : Option Duration) :
    ErrorFree (discardZeroPeriod task period).2 ↔ ∀ value ∈ period, value.nanos ≠ 0 := by
  -- Only a period of zero is reported.
  cases period with
  | none => simp [discardZeroPeriod]
  | some period =>
    simp only [discardZeroPeriod, Duration.asNanos]
    by_cases zero : period.nanos = 0 <;> simp [zero]

/-- A deadline is at fault exactly when it is longer than the period. -/
theorem checkDeadline_errorFree (task : String) (period deadline : Option Duration) :
    ErrorFree (checkDeadline task period deadline)
      ↔ ∀ limit ∈ period, ∀ due ∈ deadline, due.nanos ≤ limit.nanos := by
  cases period <;> cases deadline <;> simp [checkDeadline]

/-- An execution time is at fault exactly when it is longer than the deadline. -/
theorem checkWcet_errorFree (task : String) (wcet deadline : Option Duration) :
    ErrorFree (checkWcet task wcet deadline)
      ↔ ∀ cost ∈ wcet, ∀ due ∈ deadline, cost.nanos ≤ due.nanos := by
  cases wcet <;> cases deadline <;> simp [checkWcet]

/-- A missing measurement is only ever a warning. -/
@[simp] theorem checkUnmeasured_errorFree (task : Task) : ErrorFree (checkUnmeasured task) := by
  simp [checkUnmeasured]

/-- The alignment test always completes: the zero rate is caught before the division. -/
theorem Duration.isTickAligned_eq_ok (duration : Duration) (tickHz : UInt64) :
    ∃ aligned, duration.isTickAligned tickHz = .ok aligned := by
  -- A rate of zero returns at once, so the division is by something else.
  unfold Duration.isTickAligned UInt64.strictDiv
  split
  · exact ⟨_, rfl⟩
  · exact ⟨_, rfl⟩

/-- The alignment check always completes and only ever warns. -/
theorem checkAlignment_eq_ok (tickRate task : String) (period : Option Duration)
    (tickHz : Option UInt64) :
    ∃ found, checkAlignment tickRate task period tickHz = .ok found ∧ ErrorFree found := by
  -- Without a period or a rate there is nothing to test.
  cases period with
  | none => exact ⟨[], rfl, errorFree_nil⟩
  | some period =>
    cases tickHz with
    | none => exact ⟨[], rfl, errorFree_nil⟩
    | some hz =>
      simp only [checkAlignment]
      split
      · exact ⟨[], rfl, errorFree_nil⟩
      · obtain ⟨aligned, tested⟩ := period.isTickAligned_eq_ok hz
        rw [tested]
        exact ⟨_, rfl, errorFree_reportIf_warning _ _ _ _ _⟩

/-- A task's timing fields parse, its period is not zero, and they are in order. -/
structure SoundTiming (task : Task) : Prop where
  period_parses : task.period.isSome → (readDuration task.period).isSome
  deadline_parses : task.deadline.isSome → (readDuration task.deadline).isSome
  wcet_parses : task.wcet.isSome → (readDuration task.wcet).isSome
  period_ne_zero : ∀ period ∈ readDuration task.period, period.nanos ≠ 0
  deadline_le_period : ∀ period ∈ readDuration task.period, ∀ deadline ∈ readDuration task.deadline,
    deadline.nanos ≤ period.nanos
  wcet_le_deadline : ∀ wcet ∈ readDuration task.wcet, ∀ deadline ∈ readDuration task.deadline,
    wcet.nanos ≤ deadline.nanos

/-- The timing check of a task always completes, without error exactly when the timing is sound. -/
theorem checkTaskTiming_eq_ok (tickRate : String) (tickHz : Option UInt64) (task : Task) :
    ∃ found, checkTaskTiming tickRate tickHz task = .ok found
      ∧ (ErrorFree found ↔ SoundTiming task) := by
  obtain ⟨misaligned, tested, warned⟩ := checkAlignment_eq_ok tickRate task.name
    ((readDuration task.period).filter (·.nanos ≠ 0)) tickHz
  simp only [checkTaskTiming, parseDuration_fst, discardZeroPeriod_fst, tested, Machine.ok_bind,
    Machine.pure_eq_ok, Except.ok.injEq, exists_eq_left', errorFree_append, parseDuration_errorFree,
    discardZeroPeriod_errorFree, checkDeadline_errorFree, checkWcet_errorFree,
    checkUnmeasured_errorFree, warned, and_true]
  constructor
  · intro clean
    obtain ⟨⟨⟨⟨⟨period, nonzero⟩, deadline⟩, wcet⟩, below⟩, cost⟩ := clean
    -- No period was discarded, so the order was checked against the declared one.
    refine ⟨period, deadline, wcet, nonzero, ?_, cost⟩
    intro value given
    exact below value (Option.mem_filter_iff.mpr ⟨given, by simpa using nonzero value given⟩)
  · intro sound
    refine ⟨⟨⟨⟨⟨sound.period_parses, sound.period_ne_zero⟩, sound.deadline_parses⟩,
      sound.wcet_parses⟩, ?_⟩, sound.wcet_le_deadline⟩
    intro value kept
    exact sound.deadline_le_period value (Option.mem_filter_iff.mp kept).1

/-- The findings of a check that returned. -/
def findingsOf {α : Type} (check : α → Eval (List Diagnostic)) (entry : α) : List Diagnostic :=
  match check entry with
  | .ok found => found
  | .error _ => []

/-- Visiting every entry completes exactly when every visit does, with the findings in order. -/
theorem visitAll_eq_ok {α : Type} (check : α → Eval (List Diagnostic)) (entries : List α)
    (found : List Diagnostic) :
    visitAll check entries = .ok found
      ↔ (∀ entry ∈ entries, ∃ part, check entry = .ok part)
        ∧ found = entries.flatMap (findingsOf check) := by
  induction entries generalizing found with
  | nil => simp [visitAll, pure, Except.pure, eq_comm]
  | cons entry rest visited =>
    rw [visitAll, Machine.bind_eq_ok]
    constructor
    · intro swept
      obtain ⟨part, here, remaining⟩ := swept
      -- The first visit completed, and so did the rest.
      rw [Machine.bind_eq_ok] at remaining
      obtain ⟨others, there, joined⟩ := remaining
      rw [visited] at there
      cases joined
      have own : findingsOf check entry = part := by rw [findingsOf, here]
      refine ⟨List.forall_mem_cons.mpr ⟨⟨part, here⟩, there.1⟩, ?_⟩
      rw [List.flatMap_cons, own, there.2]
    · intro each
      obtain ⟨all, joined⟩ := each
      obtain ⟨⟨part, here⟩, others⟩ := List.forall_mem_cons.mp all
      have own : findingsOf check entry = part := by rw [findingsOf, here]
      -- Every visit completes, so the whole sweep does.
      have there := (visited _).mpr ⟨others, rfl⟩
      refine ⟨part, here, Machine.bind_eq_ok.mpr ⟨_, there, ?_⟩⟩
      rw [joined, List.flatMap_cons, own]
      rfl

/-- The timing check always completes, without error exactly on sound rates and timings. -/
theorem checkTiming_eq_ok (manifest : Manifest) :
    ∃ found, checkTiming manifest = .ok found
      ∧ (ErrorFree found ↔ (∃ hz, parseTickHz manifest.system.tickRate = some hz ∧ hz ≠ 0)
        ∧ ∀ task ∈ manifest.tasks, SoundTiming task) := by
  -- Every task is visited, and each visit completes.
  have each := fun task => checkTaskTiming_eq_ok manifest.system.tickRate
    (parseTickHz manifest.system.tickRate) task
  have visited := (visitAll_eq_ok
    (checkTaskTiming manifest.system.tickRate (parseTickHz manifest.system.tickRate))
    manifest.tasks _).mpr ⟨fun task _ => (each task).imp fun _ => And.left, rfl⟩
  refine ⟨_, by rw [checkTiming, visited]; rfl, ?_⟩
  -- The rate is checked first, then task by task.
  rw [errorFree_append, checkTickRate_errorFree, errorFree_flatMap]
  refine and_congr_right fun _ => forall₂_congr fun task _ => ?_
  obtain ⟨part, here, sound⟩ := each task
  rw [findingsOf, here, sound]

/-- Rounding a size up completes exactly up to half the range. -/
theorem ByteSize.toPowerOfTwo_eq_ok {size padded : ByteSize} :
    size.toPowerOfTwo = .ok padded ↔
      size.bytes.toNat ≤ 2 ^ 63 ∧ padded.bytes.toNat = 2 ^ Nat.clog 2 size.bytes.toNat := by
  unfold toPowerOfTwo
  have one : (1 : UInt64).toNat = 1 := rfl
  split
  -- Zero and one both round to one.
  · rename_i small
    rw [UInt64.le_iff_toNat_le, one] at small
    rw [Nat.clog_of_right_le_one small]
    have same : padded = ⟨1⟩ ↔ padded.bytes.toNat = 1 := by
      rw [← one, UInt64.toNat_inj]
      cases padded
      simp
    rw [Machine.pure_eq_ok, Except.ok.injEq, eq_comm, same]
    omega
  · simp only [Machine.bind_eq_ok, Machine.pure_eq_ok, Except.ok.injEq, UInt64.nextPowerOfTwo_eq_ok]
    constructor
    · intro completed
      obtain ⟨rounded, exact_, rfl⟩ := completed
      exact exact_
    · intro exact_
      exact ⟨padded.bytes, exact_, rfl⟩

/-- A size is at most the size it is rounded up to. -/
theorem ByteSize.le_toPowerOfTwo {size padded : ByteSize} (rounded : size.toPowerOfTwo = .ok padded) :
    size.bytes ≤ padded.bytes := by
  -- The rounded size is the least power of two above the size.
  rw [UInt64.le_iff_toNat_le, (toPowerOfTwo_eq_ok.mp rounded).2]
  exact Nat.le_pow_clog (by omega) _

/-- The padding check completes on a size rounded up, and only ever warns. -/
theorem checkPadding_eq_ok (task : String) {stack padded : ByteSize}
    (below : stack.bytes ≤ padded.bytes) :
    ∃ found, checkPadding task stack padded = .ok found ∧ ErrorFree found := by
  -- The subtraction does not go below zero.
  unfold checkPadding
  split
  · exact ⟨[], rfl, errorFree_nil⟩
  · rw [UInt64.strictSub, ByteSize.asBytes, ByteSize.asBytes, if_pos below]
    exact ⟨_, rfl, errorFree_warning _ _ _ _⟩

/-- A stack no rounding overflows on: it is no size at all, or at most half the range. -/
def RoundableStack (task : Task) : Prop :=
  ∀ stack, ByteSize.fromStr task.stack = .ok stack → stack.bytes.toNat ≤ 2 ^ 63

/-- A stack that is a size of at least the minimum. -/
def SoundStack (task : Task) : Prop :=
  ∃ stack, ByteSize.fromStr task.stack = .ok stack ∧ 256 ≤ stack.bytes

/-- The stack check completes exactly on stacks that round without overflow. -/
theorem checkStack_returns (task : Task) :
    (∃ found, checkStack task = .ok found) ↔ RoundableStack task := by
  unfold checkStack RoundableStack
  split
  · rename_i parsed
    simp [parsed, pure, Except.pure]
  · rename_i stack parsed
    simp only [parsed, Except.ok.injEq, forall_eq']
    constructor
    · intro returned
      obtain ⟨found, completed⟩ := returned
      rw [Machine.bind_eq_ok] at completed
      obtain ⟨padded, rounded, -⟩ := completed
      exact (ByteSize.toPowerOfTwo_eq_ok.mp rounded).1
    · intro small
      -- A size up to half the range rounds to at most half the range.
      have power : 2 ^ Nat.clog 2 stack.bytes.toNat < 2 ^ 64 := by
        have := (Nat.clog_le_iff_le_pow (b := 2) (by omega)).mpr small
        exact Nat.pow_lt_pow_right (by omega) (by omega)
      have rounded : stack.toPowerOfTwo = .ok ⟨UInt64.ofNat (2 ^ Nat.clog 2 stack.bytes.toNat)⟩ :=
        ByteSize.toPowerOfTwo_eq_ok.mpr ⟨small, UInt64.toNat_ofNat_of_lt' power⟩
      obtain ⟨wasteful, padded, -⟩ := checkPadding_eq_ok task.name (ByteSize.le_toPowerOfTwo rounded)
      rw [rounded, Machine.ok_bind, padded]
      exact ⟨_, rfl⟩

/-- A completed stack check reports no error exactly on stacks of at least the minimum. -/
theorem checkStack_errorFree {task : Task} {found : List Diagnostic}
    (completed : checkStack task = .ok found) : ErrorFree found ↔ SoundStack task := by
  unfold SoundStack
  unfold checkStack at completed
  split at completed
  · rename_i parsed
    cases completed
    simp [parsed]
  · rename_i stack parsed
    obtain ⟨padded, rounded, remaining⟩ := Machine.bind_eq_ok.mp completed
    obtain ⟨wasteful, checked, joined⟩ := Machine.bind_eq_ok.mp remaining
    -- The padding is only ever a warning, so the minimum decides.
    obtain ⟨warnings, same, warned⟩ := checkPadding_eq_ok task.name (ByteSize.le_toPowerOfTwo rounded)
    rw [checked, Except.ok.injEq] at same
    subst same
    rw [Machine.pure_eq_ok, Except.ok.injEq] at joined
    subst joined
    rw [errorFree_append, errorFree_reportIf_error, and_iff_left warned]
    simp [parsed, ByteSize.asBytes, minStack]

end Malleus
