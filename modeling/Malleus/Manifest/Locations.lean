import Malleus.Manifest.Alignment
import Malleus.Manifest.Explanations
import Malleus.Manifest.Padding

/-! Where findings are: each is at a name of the manifest, and a name may show nothing. -/

namespace Malleus

open Machine

/-- A finding tells where it is. -/
def Diagnostic.Located (finding : Diagnostic) : Prop := Visible finding.location

@[simp] theorem located_error (code location message suggestion : String) :
    (Diagnostic.error code location message suggestion).Located ↔ Visible location := Iff.rfl

@[simp] theorem located_warning (code location message suggestion : String) :
    (Diagnostic.warning code location message suggestion).Located ↔ Visible location := Iff.rfl

/-- A finding is an error at a name. -/
def Diagnostic.ErrorAt (name : String) (finding : Diagnostic) : Prop :=
  finding.severity = .error ∧ finding.location = name

@[simp] theorem errorAt_error (name code message suggestion : String) :
    (Diagnostic.error code name message suggestion).ErrorAt name := ⟨rfl, rfl⟩

/-- Findings are located exactly when their keys are. -/
theorem located_iff_raises {findings : List Diagnostic} :
    AllFindings Diagnostic.Located findings ↔ ∀ key, Raises findings key → Visible key.2.2 := by
  simp [AllFindings, Raises, Diagnostic.key, Diagnostic.Located]

/-- Errors at a name are located unless the name shows nothing and there is one. -/
theorem located_iff_errorFree {name : String} {findings : List Diagnostic}
    (here : AllFindings (Diagnostic.ErrorAt name) findings) :
    AllFindings Diagnostic.Located findings ↔ (¬Visible name → ErrorFree findings) := by
  constructor
  · intro located blank finding found
    have visible := located finding found
    rw [Diagnostic.Located, (here finding found).2] at visible
    exact absurd visible blank
  · intro free finding found
    rw [Diagnostic.Located, (here finding found).2]
    by_contra blank
    -- The finding would be an error and a warning.
    have warned := free blank finding found
    rw [(here finding found).1] at warned
    cases warned

/-- Errors and warnings at a name are located exactly if the warnings are and no error is hidden. -/
theorem located_append_iff (name : String) {errors warnings : List Diagnostic}
    (here : AllFindings (Diagnostic.ErrorAt name) errors) (warned : ErrorFree warnings) :
    AllFindings Diagnostic.Located (errors ++ warnings)
      ↔ (¬Visible name → ErrorFree (errors ++ warnings))
        ∧ AllFindings Diagnostic.Located warnings := by
  rw [allFindings_append, located_iff_errorFree here, errorFree_append, and_iff_left warned]

/-- An error is located unless its name shows nothing and its condition holds. -/
@[simp] theorem located_reportIf_error {found : Prop} [Decidable found]
    {code name message suggestion : String} :
    AllFindings Diagnostic.Located (reportIf found (.error code name message suggestion))
      ↔ (¬Visible name → ¬found) := by
  rw [allFindings_reportIf, located_error]
  exact not_imp_not.symm

/-- A warning is located unless its name shows nothing and its condition holds. -/
@[simp] theorem located_reportIf_warning {found : Prop} [Decidable found]
    {code name message suggestion : String} :
    AllFindings Diagnostic.Located (reportIf found (.warning code name message suggestion))
      ↔ (¬Visible name → ¬found) := by
  rw [allFindings_reportIf, located_warning]
  exact not_imp_not.symm

/-- The names that show nothing occur once each, and not among those seen before. -/
structure FreshBlanks (seen names : List String) : Prop where
  distinct : (names.filter fun name => ¬Visible name).Nodup
  fresh : ∀ name ∈ names, ¬Visible name → name ∉ seen

/-- Blank names are fresh one by one. -/
theorem freshBlanks_cons {seen rest : List String} {name : String} :
    FreshBlanks seen (name :: rest)
      ↔ (¬Visible name → name ∉ seen) ∧ FreshBlanks (name :: seen) rest := by
  constructor
  · intro fresh
    refine ⟨fresh.fresh name List.mem_cons_self, ?_, ?_⟩
    · exact fresh.distinct.sublist ((List.sublist_cons_self name rest).filter _)
    · intro other listed blank again
      rcases List.mem_cons.mp again with rfl | older
      -- The head is blank too, so it would stand twice among the blank names.
      · have distinct := fresh.distinct
        rw [List.filter_cons_of_pos (by simpa using blank), List.nodup_cons] at distinct
        exact distinct.1 (List.mem_filter.mpr ⟨listed, by simpa using blank⟩)
      · exact fresh.fresh other (List.mem_cons_of_mem _ listed) blank older
  · intro fresh
    obtain ⟨first, others⟩ := fresh
    constructor
    · by_cases shown : Visible name
      · rw [List.filter_cons_of_neg (by simpa using shown)]
        exact others.distinct
      · rw [List.filter_cons_of_pos (by simpa using shown), List.nodup_cons]
        refine ⟨fun again => ?_, others.distinct⟩
        exact others.fresh name (List.mem_filter.mp again).1 shown List.mem_cons_self
    · intro other listed blank older
      rcases List.mem_cons.mp listed with rfl | later
      · exact first blank older
      · exact others.fresh other later blank (List.mem_cons_of_mem _ older)

/-- Findings about task names are located exactly when no blank name is declared twice. -/
theorem checkTaskNames_located (seen : List String) (tasks : List Task) :
    AllFindings Diagnostic.Located (checkTaskNames seen tasks)
      ↔ FreshBlanks seen (tasks.map Task.name) := by
  induction tasks generalizing seen with
  | nil => exact iff_of_true allFindings_nil ⟨List.nodup_nil, by simp⟩
  | cons task rest located =>
    -- An empty name is reported at the table it stands in.
    have table : Visible "[[task]]" := visible_text rfl
    simp only [checkTaskNames, allFindings_append, located_reportIf_error, located, table,
      not_true_eq_false, false_implies, and_true, List.map_cons, freshBlanks_cons]

/-- Findings about one task's priority are located if its name shows something or it has none. -/
theorem checkPriority_located (task : Task) :
    AllFindings Diagnostic.Located (checkPriority task)
      ↔ (¬Visible task.name → 1 ≤ task.priority ∧ task.priority ≤ 31) := by
  have here : AllFindings (Diagnostic.ErrorAt task.name) (checkPriority task) := by
    simp [checkPriority]
  rw [located_iff_errorFree here, checkPriority_errorFree]

/-- Names joined by a comma show something. -/
theorem visible_intercalate {names : List String} (several : 1 < names.length) :
    Visible (String.intercalate ", " names) := by
  obtain _ | ⟨first, _ | ⟨second, rest⟩⟩ := names
  · simp at several
  · simp at several
  -- Between the first two names stands a comma.
  · rw [String.intercalate_cons_of_ne_nil (by simp)]
    exact visible_iff.mpr ⟨',', by simp, rfl⟩

/-- Findings about shared levels are located: they join several names. -/
theorem checkLevel_located (level : UInt8 × List String) :
    AllFindings Diagnostic.Located (checkLevel level) := by
  rw [checkLevel, allFindings_reportIf]
  exact visible_intercalate

/-- Findings about priorities are located unless a blank name has a priority out of range. -/
theorem checkPriorities_located (order : HashOrder) (tasks : List Task) :
    AllFindings Diagnostic.Located (checkPriorities order tasks)
      ↔ ∀ task ∈ tasks, ¬Visible task.name → 1 ≤ task.priority ∧ task.priority ≤ 31 := by
  simp only [checkPriorities, allFindings_append, allFindings_flatMap, checkPriority_located,
    checkLevel_located, implies_true, and_true]

/-- Findings about the tick rate are located. -/
theorem checkTickRate_located (tickRate : String) (tickHz : Option UInt64) :
    AllFindings Diagnostic.Located (checkTickRate tickRate tickHz) := by
  have table : Visible "[system]" := visible_text rfl
  -- Both findings are located at the table of the system.
  cases tickHz with
  | none => exact allFindings_singleton.mpr table
  | some hz => exact allFindings_reportIf.mpr fun _ => table

/-- Findings about a field that is no duration are errors at the task. -/
theorem parseDuration_errorAt (text : Option String) (task field : String) :
    AllFindings (Diagnostic.ErrorAt task) (parseDuration text task field).2 := by
  unfold parseDuration
  -- There is one finding, and it is an error at the task.
  split
  · exact allFindings_nil
  · split <;> simp

/-- Findings about a zero period are errors at the task. -/
theorem discardZeroPeriod_errorAt (task : String) (period : Option Duration) :
    AllFindings (Diagnostic.ErrorAt task) (discardZeroPeriod task period).2 := by
  unfold discardZeroPeriod
  -- There is one finding, and it is an error at the task.
  split
  · split <;> simp
  · exact allFindings_nil

/-- Findings about a deadline against the period are errors at the task. -/
theorem checkDeadline_errorAt (task : String) (period deadline : Option Duration) :
    AllFindings (Diagnostic.ErrorAt task) (checkDeadline task period deadline) := by
  unfold checkDeadline
  split <;> simp

/-- Findings about an execution time against the deadline are errors at the task. -/
theorem checkWcet_errorAt (task : String) (wcet deadline : Option Duration) :
    AllFindings (Diagnostic.ErrorAt task) (checkWcet task wcet deadline) := by
  unfold checkWcet
  split <;> simp

/-- The findings about one task's timing: its errors, the missing measurement, and the alignment. -/
theorem checkTaskTiming_parts (tickRate : String) (tickHz : Option UInt64) (task : Task) :
    ∃ errors misaligned,
      checkTaskTiming tickRate tickHz task = .ok (errors ++ checkUnmeasured task ++ misaligned)
        ∧ AllFindings (Diagnostic.ErrorAt task.name) errors
        ∧ (ErrorFree errors ↔ SoundTiming task)
        ∧ checkAlignment tickRate task.name ((readDuration task.period).filter (·.nanos ≠ 0)) tickHz
          = .ok misaligned := by
  obtain ⟨misaligned, tested, warned⟩ := checkAlignment_eq_ok tickRate task.name
    ((readDuration task.period).filter (·.nanos ≠ 0)) tickHz
  obtain ⟨found, checked, sound⟩ := checkTaskTiming_eq_ok tickRate tickHz task
  -- The fields are read as by the later checks, which never see a zero period.
  have run : checkTaskTiming tickRate tickHz task
      = .ok ((parseDuration task.period task.name "period").2
        ++ (discardZeroPeriod task.name (readDuration task.period)).2
        ++ (parseDuration task.deadline task.name "deadline").2
        ++ (parseDuration task.wcet task.name "wcet").2
        ++ checkDeadline task.name ((readDuration task.period).filter (·.nanos ≠ 0))
          (readDuration task.deadline)
        ++ checkWcet task.name (readDuration task.wcet) (readDuration task.deadline)
        ++ checkUnmeasured task ++ misaligned) := by
    simp only [checkTaskTiming, parseDuration_fst, discardZeroPeriod_fst, tested, ok_bind, pure_eq_ok]
  rw [run, Except.ok.injEq] at checked
  refine ⟨_, misaligned, run, ?_, ?_, tested⟩
  · simp only [allFindings_append, parseDuration_errorAt, discardZeroPeriod_errorAt,
      checkDeadline_errorAt, checkWcet_errorAt, and_self]
  -- The missing measurement and the alignment are only warned about.
  · rw [← sound, ← checked, errorFree_append _ misaligned, errorFree_append _ (checkUnmeasured task),
      and_iff_left warned, and_iff_left (checkUnmeasured_errorFree task)]

/-- Without a tick there is no alignment to check. -/
theorem checkAlignment_stopped (tickRate task : String) (period : Option Duration)
    {tickHz : Option UInt64} (stopped : ∀ hz ∈ tickHz, hz = 0) :
    checkAlignment tickRate task period tickHz = .ok [] := by
  unfold checkAlignment
  -- The check is skipped without a period or a rate, and left at a rate of zero.
  split
  · rw [if_pos (stopped _ rfl)]
    rfl
  · rfl

/-- The finding about alignment is located unless a blank name has a period off the tick. -/
theorem checkAlignment_located {tickRate : String} {tickHz : Option UInt64} {task : Task}
    {found : List Diagnostic} (completed : checkAlignment tickRate task.name
      ((readDuration task.period).filter (·.nanos ≠ 0)) tickHz = .ok found) :
    AllFindings Diagnostic.Located found
      ↔ (¬Visible task.name → ∀ hz ∈ tickHz, hz ≠ 0 → ¬Misaligned hz task) := by
  by_cases stopped : ∀ hz ∈ tickHz, hz = 0
  -- A rate that is unreadable or zero is reported at the system, not at the task.
  · rw [checkAlignment_stopped _ _ _ stopped, Except.ok.injEq] at completed
    rw [← completed]
    exact iff_of_true allFindings_nil fun _ hz given running => absurd (stopped hz given) running
  · push Not at stopped
    obtain ⟨hz, rfl, running⟩ := stopped
    have keys := raises_checkAlignment tickRate running task
    rw [findingsOf, completed] at keys
    -- The only key there is names the task.
    simp only [located_iff_raises, keys, and_imp, forall_eq_apply_imp_iff]
    constructor
    · intro located blank hz' given _ off
      rw [Option.mem_some_iff] at given
      subst given
      exact blank (located off)
    · intro aligned off
      by_contra blank
      exact aligned blank hz rfl running off

/-- A completed timing check of a task is located unless a blank name has a fault in its timing. -/
theorem checkTaskTiming_located (tickRate : String) (tickHz : Option UInt64) (task : Task) :
    (∃ found, checkTaskTiming tickRate tickHz task = .ok found
        ∧ AllFindings Diagnostic.Located found)
      ↔ (¬Visible task.name → SoundTiming task ∧ ¬Unmeasured task
        ∧ ∀ hz ∈ tickHz, hz ≠ 0 → ¬Misaligned hz task) := by
  -- The findings are errors at the task, then two kinds of warnings at it.
  obtain ⟨errors, misaligned, run, here, sound, tested⟩ := checkTaskTiming_parts tickRate tickHz task
  have unmeasured : AllFindings Diagnostic.Located (checkUnmeasured task)
      ↔ (¬Visible task.name → ¬Unmeasured task) := located_reportIf_warning
  simp only [run, Except.ok.injEq, exists_eq_left', allFindings_append, located_iff_errorFree here,
    sound, unmeasured, checkAlignment_located tested, ← imp_and, and_assoc]

/-- A stack of at least the minimum that is a power of two. -/
def PowerStack (task : Task) : Prop :=
  ∃ stack, ByteSize.fromStr task.stack = .ok stack ∧ 256 ≤ stack.bytes
    ∧ ∃ exponent, stack.bytes.toNat = 2 ^ exponent

/-- A completed stack check is located unless a blank name has a stack that is reported. -/
theorem checkStack_located {task : Task} {found : List Diagnostic}
    (completed : checkStack task = .ok found) :
    AllFindings Diagnostic.Located found ↔ (¬Visible task.name → PowerStack task) := by
  unfold PowerStack
  unfold checkStack at completed
  split at completed
  -- A stack that is no size is reported at the task, and is no power of two either.
  · rename_i parsed
    cases completed
    simp [parsed]
  · rename_i stack parsed
    obtain ⟨padded, rounded, remaining⟩ := bind_eq_ok.mp completed
    obtain ⟨wasteful, checked, joined⟩ := bind_eq_ok.mp remaining
    rw [pure_eq_ok, Except.ok.injEq] at joined
    -- The padding is reported unless rounding up changes nothing.
    have padding : AllFindings Diagnostic.Located wasteful ↔ (¬Visible task.name → padded = stack) := by
      unfold checkPadding at checked
      split at checked
      · rename_i same
        cases checked
        exact iff_of_true allFindings_nil fun _ => same
      · rename_i apart
        obtain ⟨wasted, -, warned⟩ := bind_eq_ok.mp checked
        rw [pure_eq_ok, Except.ok.injEq] at warned
        rw [← warned, allFindings_singleton, located_warning]
        simp [apart]
    have minimum : ¬stack.asBytes < minStack ↔ 256 ≤ stack.bytes := UInt64.not_lt
    rw [← joined, allFindings_append, located_reportIf_error, padding, minimum,
      ByteSize.eq_self_iff_of_rounded rounded, ← imp_and]
    simp [parsed]

/-- An urgent task sends over a blocking channel that a less urgent one drains. -/
def Inverted (manifest : Manifest) (channel : Channel) : Prop :=
  channel.overflow = "block" ∧ ∃ sender ∈ manifest.task channel.from,
    ∃ receiver ∈ manifest.task channel.to, receiver.priority < sender.priority

/-- The warning about inversion is located unless a blank channel is inverted. -/
theorem checkInversion_located (manifest : Manifest) (channel : Channel) :
    AllFindings Diagnostic.Located (checkInversion manifest channel)
      ↔ (¬Visible channel.name → ¬Inverted manifest channel) := by
  unfold checkInversion Inverted
  -- The check and the condition look the two tasks up alike.
  by_cases blocking : channel.overflow = "block"
  · rw [if_pos blocking]
    cases manifest.task channel.from with
    | none => simp
    | some sender =>
      cases manifest.task channel.to with
      | none => simp
      | some receiver =>
        simp only [located_reportIf_warning, blocking, Option.mem_some_iff, exists_eq_left', true_and]
  · simp [blocking]

/-- Findings about one channel are located unless a blank name has a fault. -/
theorem checkChannel_located (order : HashOrder) (manifest : Manifest) (channel : Channel) :
    AllFindings Diagnostic.Located
        (checkChannel order manifest ((manifest.tasks.map Task.name).dedup) channel)
      ↔ (¬Visible channel.name → SoundChannel manifest.tasks channel ∧ ¬Inverted manifest channel) := by
  have sound := checkChannel_errorFree order manifest channel
  -- The findings about a channel are errors at its name and one warning at it.
  unfold checkChannel at sound ⊢
  rw [located_append_iff channel.name (by simp [checkEndpoint])
    (checkInversion_errorFree manifest channel), sound, checkInversion_located, ← imp_and]

/-- Findings about the channels are located unless a blank name is repeated or has a fault. -/
theorem checkChannels_located (order : HashOrder) (manifest : Manifest) (seen : List String)
    (channels : List Channel) :
    AllFindings Diagnostic.Located
        (checkChannels order manifest ((manifest.tasks.map Task.name).dedup) seen channels)
      ↔ FreshBlanks seen (channels.map Channel.name) ∧ ∀ channel ∈ channels, ¬Visible channel.name →
        SoundChannel manifest.tasks channel ∧ ¬Inverted manifest channel := by
  -- The induction follows the channels, with the names seen so far growing.
  induction channels generalizing seen with
  | nil =>
    refine iff_of_true allFindings_nil ⟨⟨List.nodup_nil, ?_⟩, ?_⟩
    · simp
    · simp
  | cons channel rest located =>
    simp only [checkChannels, allFindings_append, located_reportIf_error, checkChannel_located,
      located, List.map_cons, freshBlanks_cons, List.forall_mem_cons]
    tauto

/-- A capability that names a channel is held at one of its ends, as the validator finds them. -/
def GrantHolds (manifest : Manifest) (task capability : String) : Prop :=
  ∀ channel, capability = "ipc." ++ channel →
    ∃ ends ∈ manifest.endpoints channel, ends.1 = task ∨ ends.2 = task

/-- The finding about a capability is located unless a blank task holds it wrongly. -/
theorem checkGrant_located (manifest : Manifest) (task capability : String) :
    AllFindings Diagnostic.Located (checkGrant manifest task capability)
      ↔ (¬Visible task → GrantHolds manifest task capability) := by
  unfold checkGrant GrantHolds
  simp only [← stripIpc_eq_some]
  cases ipc : stripIpc capability with
  | none => simp
  | some channel =>
    cases declared : manifest.endpoints channel with
    -- An undeclared channel has no ends that could hold the capability.
    | none => simp [declared]
    | some ends =>
      simp only [located_reportIf_error, Option.some.injEq, forall_eq', declared, Option.mem_some_iff,
        exists_eq_left', ne_eq, not_and_or, not_not]

/-- Findings about a task's capabilities are located unless a blank name has a fault in them. -/
theorem checkGrants_located (manifest : Manifest) (task : String) (seen capabilities : List String) :
    AllFindings Diagnostic.Located (checkGrants manifest task seen capabilities)
      ↔ (¬Visible task → capabilities.Nodup ∧ (∀ capability ∈ capabilities, capability ∉ seen)
        ∧ ∀ capability ∈ capabilities, GrantHolds manifest task capability) := by
  induction capabilities generalizing seen with
  | nil => simp [checkGrants]
  | cons capability rest located =>
    simp only [checkGrants, allFindings_append, located_reportIf_warning, checkGrant_located, located,
      List.nodup_cons, List.forall_mem_cons, ← imp_and]
    -- A later capability is new if it is neither this one nor seen before.
    have later : (∀ other ∈ rest, other ∉ capability :: seen)
        ↔ capability ∉ rest ∧ ∀ other ∈ rest, other ∉ seen := by
      simp only [List.mem_cons, not_or, forall_and, and_congr_left_iff]
      exact fun _ => ⟨fun apart listed => apart capability listed rfl,
        fun absent other listed same => absent (same ▸ listed)⟩
    rw [later]
    refine imp_congr_right fun _ => ⟨fun parts => ?_, fun parts => ?_⟩
    · obtain ⟨⟨new, holds⟩, distinct, ⟨absent, fresh⟩, grants⟩ := parts
      exact ⟨⟨absent, distinct⟩, ⟨new, fresh⟩, holds, grants⟩
    · obtain ⟨⟨absent, distinct⟩, ⟨new, fresh⟩, holds, grants⟩ := parts
      exact ⟨⟨new, holds⟩, distinct, ⟨absent, fresh⟩, grants⟩

/-- A channel's capability is held by a task at one of its ends. -/
def ClaimedChannel (tasks : List Task) (channel : Channel) : Prop :=
  ∃ task ∈ tasks, (task.name = channel.from ∨ task.name = channel.to)
    ∧ "ipc." ++ channel.name ∈ task.capabilities

/-- The warning about a dead channel is located unless a blank channel is dead. -/
theorem checkClaimed_located (tasks : List Task) (channel : Channel) :
    AllFindings Diagnostic.Located (checkClaimed tasks channel)
      ↔ (¬Visible channel.name → ClaimedChannel tasks channel) := by
  unfold checkClaimed ClaimedChannel
  simp only [located_reportIf_warning]
  refine imp_congr_right fun _ => ?_
  -- The check counts the holders, and one is enough.
  rw [← ne_eq, ← Nat.pos_iff_ne_zero, List.length_pos_iff_exists_mem]
  simp only [List.mem_filter, decide_eq_true_eq, and_assoc]
  rfl

/-- Findings about the capabilities are located unless a blank name has a fault in them. -/
theorem checkCapabilities_located (manifest : Manifest) :
    AllFindings Diagnostic.Located (checkCapabilities manifest)
      ↔ (∀ task ∈ manifest.tasks, ¬Visible task.name → task.capabilities.Nodup
          ∧ ∀ capability ∈ task.capabilities, GrantHolds manifest task.name capability)
        ∧ ∀ channel ∈ manifest.channels, ¬Visible channel.name →
          ClaimedChannel manifest.tasks channel := by
  simp only [checkCapabilities, allFindings_append, allFindings_flatMap, checkGrants_located,
    checkClaimed_located, List.not_mem_nil, not_false_eq_true, implies_true, true_and]

/-- A task that no check finds anything about, its name apart. -/
structure FaultlessTask (manifest : Manifest) (task : Task) : Prop where
  priority : 1 ≤ task.priority ∧ task.priority ≤ 31
  timing : SoundTiming task
  measured : ¬Unmeasured task
  aligned : ∀ hz ∈ parseTickHz manifest.system.tickRate, hz ≠ 0 → ¬Misaligned hz task
  stack : PowerStack task
  capabilities : task.capabilities.Nodup
  grants : ∀ capability ∈ task.capabilities, GrantHolds manifest task.name capability

/-- A channel that no check finds anything about, its name apart. -/
structure FaultlessChannel (manifest : Manifest) (channel : Channel) : Prop where
  sound : SoundChannel manifest.tasks channel
  ordered : ¬Inverted manifest channel
  claimed : ClaimedChannel manifest.tasks channel

/-- What is named by white space is declared once and has no other fault. -/
structure BlanksFaultless (manifest : Manifest) : Prop where
  -- A task and a channel may still have one name.
  task_names : FreshBlanks [] (manifest.tasks.map Task.name)
  channel_names : FreshBlanks [] (manifest.channels.map Channel.name)
  tasks : ∀ task ∈ manifest.tasks, ¬Visible task.name → FaultlessTask manifest task
  channels : ∀ channel ∈ manifest.channels, ¬Visible channel.name → FaultlessChannel manifest channel

/-- A finding is complete: it tells what is wrong, where, and what to do about it. -/
structure Diagnostic.Complete (finding : Diagnostic) : Prop where
  message : Visible finding.message
  location : Visible finding.location
  suggestion : Visible finding.suggestion

/-- Every finding of a report is located exactly when names of white space have no other fault. -/
theorem report_located_iff {manifest : Manifest} {order : HashOrder} {report : ValidationReport}
    (completed : manifest.validate order = .ok report) :
    AllFindings Diagnostic.Located report.diagnostics ↔ BlanksFaultless manifest := by
  have sized : ∀ task ∈ manifest.tasks,
      ((∃ found, checkStack task = .ok found ∧ AllFindings Diagnostic.Located found)
        ↔ (¬Visible task.name → PowerStack task)) := by
    intro task listed
    obtain ⟨found, checked⟩ :=
      (checkStack_returns task).mpr (manifest.roundable_of_validate completed task listed)
    simp only [checked, Except.ok.injEq, exists_eq_left', checkStack_located checked]
  rw [allFindings_report_iff completed, forall₂_congr sized]
  simp only [checkTaskNames_located, checkPriorities_located, checkTickRate_located,
    checkTaskTiming_located, checkChannels_located, checkCapabilities_located, true_and]
  -- The checks sweep the tasks one after another; the condition gathers what they say by task.
  constructor
  · intro located
    obtain ⟨names, priorities, timing, stack, ⟨channelNames, channels⟩, grants, claimed⟩ := located
    refine ⟨names, channelNames, fun task listed blank => ?_, fun channel listed blank => ?_⟩
    · obtain ⟨sound, measured, aligned⟩ := timing task listed blank
      obtain ⟨distinct, granted⟩ := grants task listed blank
      exact ⟨priorities task listed blank, sound, measured, aligned, stack task listed blank,
        distinct, granted⟩
    · obtain ⟨sound, ordered⟩ := channels channel listed blank
      exact ⟨sound, ordered, claimed channel listed blank⟩
  · intro faultless
    have task := faultless.tasks
    have channel := faultless.channels
    exact ⟨faultless.task_names, fun entry listed blank => (task entry listed blank).priority,
      fun entry listed blank => ⟨(task entry listed blank).timing, (task entry listed blank).measured,
        (task entry listed blank).aligned⟩,
      fun entry listed blank => (task entry listed blank).stack,
      ⟨faultless.channel_names, fun entry listed blank =>
        ⟨(channel entry listed blank).sound, (channel entry listed blank).ordered⟩⟩,
      fun entry listed blank =>
        ⟨(task entry listed blank).capabilities, (task entry listed blank).grants⟩,
      fun entry listed blank => (channel entry listed blank).claimed⟩

/--
Every finding of a report is complete exactly when names of white space have no other fault.

What is wrong and what to do about it is always told; where it is can be such a name.
-/
theorem report_complete_iff {manifest : Manifest} {order : HashOrder} {report : ValidationReport}
    (completed : manifest.validate order = .ok report) :
    (∀ finding ∈ report.diagnostics, finding.Complete) ↔ BlanksFaultless manifest := by
  -- Every finding has a message and a suggestion, so only its location is in question.
  have explained := report_explained completed
  rw [← report_located_iff completed]
  exact ⟨fun complete finding found => (complete finding found).location, fun located finding found =>
    ⟨(explained finding found).message, located finding found, (explained finding found).suggestion⟩⟩

/-- A task without a name that also claims the idle priority. -/
def namelessIdle : Manifest where
  system := ⟨"1MHz"⟩
  tasks := [⟨"", 0, "1KiB", none, none, none, []⟩]
  channels := []

/-- Its second finding is at the name, and tells no place. -/
theorem namelessIdle_unlocated :
    ¬(∀ report, namelessIdle.validate .insertion = .ok report →
        ∀ finding ∈ report.diagnostics, finding.Complete)
      ∧ (namelessIdle.validate .insertion).map (fun report => report.diagnostics.map Diagnostic.key)
        = .ok [(.error, "M0002", "[[task]]"), (.error, "M0004", "")] := by
  have keys : (namelessIdle.validate .insertion).map
      (fun report => report.diagnostics.map Diagnostic.key)
      = .ok [(.error, "M0002", "[[task]]"), (.error, "M0004", "")] := by decide +kernel
  refine ⟨fun complete => ?_, keys⟩
  cases run : namelessIdle.validate .insertion with
  | error panic =>
    rw [run] at keys
    cases keys
  | ok report =>
    rw [run] at keys
    have reported : report.diagnostics.map Diagnostic.key
        = [(.error, "M0002", "[[task]]"), (.error, "M0004", "")] := Except.ok.inj keys
    -- The finding about the priority is at the empty name.
    have listed : ((.error, "M0004", "") : FindingKey) ∈ report.diagnostics.map Diagnostic.key := by
      rw [reported]
      exact List.mem_cons_of_mem _ List.mem_cons_self
    obtain ⟨finding, found, named⟩ := List.mem_map.mp listed
    have place : finding.location = "" := congrArg (fun key => key.2.2) named
    have visible := (complete report run finding found).location
    rw [place] at visible
    exact visible rfl

/-- A task named by a blank that has no other fault, beside a named one that has. -/
def blankBesideNamed : Manifest where
  system := ⟨"1MHz"⟩
  tasks := [⟨" ", 5, "1KiB", none, none, none, []⟩, ⟨"idle", 0, "3KiB", none, none, none, []⟩]
  channels := []

/-- Its report is complete exactly if the blank has no other fault. -/
theorem blankBesideNamed_complete_iff : ∃ report, blankBesideNamed.validate .insertion = .ok report
    ∧ ((∀ finding ∈ report.diagnostics, finding.Complete) ↔ BlanksFaultless blankBesideNamed) := by
  have failed : (blankBesideNamed.validate .insertion).map ValidationReport.isOk = .ok false := by
    decide +kernel
  obtain ⟨report, completed, -⟩ := exists_report_isOk failed
  exact ⟨report, completed, report_complete_iff completed⟩

end Malleus
