import Malleus.Manifest.Findings
import Malleus.Manifest.TickRate

/-! Acceptance is exactly well-formedness, and validation completes exactly on roundable stacks. -/

namespace Malleus

open Machine

/-- One end of a channel is at fault exactly when no task has its name. -/
theorem checkEndpoint_errorFree (order : HashOrder) (names : List String)
    (channel role task : String) :
    ErrorFree (checkEndpoint order names channel role task) ↔ task ∈ names := by
  simp [checkEndpoint]

/-- Priority inversion is only ever a warning. -/
theorem checkInversion_errorFree (manifest : Manifest) (channel : Channel) :
    ErrorFree (checkInversion manifest channel) := by
  -- Whichever branch is taken, at most a warning is reported.
  unfold checkInversion
  split
  · split
    · exact errorFree_reportIf_warning _ _ _ _ _
    · exact errorFree_nil
  · exact errorFree_nil

/-- A channel joins two different declared tasks, holds a message, and says what to do when full. -/
structure SoundChannel (tasks : List Task) (channel : Channel) : Prop where
  from_declared : ∃ task ∈ tasks, task.name = channel.from
  to_declared : ∃ task ∈ tasks, task.name = channel.to
  from_ne_to : channel.from ≠ channel.to
  capacity_pos : 1 ≤ channel.capacity
  overflow_listed : channel.overflow ∈ ["block", "reject", "drop-oldest", "drop-newest"]

/-- A channel is reported without error exactly when it is sound. -/
theorem checkChannel_errorFree (order : HashOrder) (manifest : Manifest) (channel : Channel) :
    ErrorFree (checkChannel order manifest ((manifest.tasks.map Task.name).dedup) channel)
      ↔ SoundChannel manifest.tasks channel := by
  -- A capacity is a word, so not being zero is being at least one.
  have capacity : ¬channel.capacity = 0 ↔ 1 ≤ channel.capacity := by
    have one : (1 : UInt16).toNat = 1 := rfl
    rw [UInt16.le_iff_toNat_le, one, ← UInt16.toNat_inj]
    exact Nat.one_le_iff_ne_zero.symm
  -- Each error is absent exactly when its condition fails.
  simp only [checkChannel, errorFree_append, checkEndpoint_errorFree, errorFree_reportIf_error,
    checkInversion_errorFree, and_true, List.mem_dedup, List.mem_map, Decidable.not_not, capacity]
  constructor
  · intro clean
    obtain ⟨⟨⟨⟨sender, receiver⟩, distinct⟩, room⟩, policy⟩ := clean
    exact ⟨sender, receiver, distinct, room, policy⟩
  · intro sound
    exact ⟨⟨⟨⟨sound.from_declared, sound.to_declared⟩, sound.from_ne_to⟩, sound.capacity_pos⟩,
      sound.overflow_listed⟩

/-- Channel names seen once and never again, on channels each of which is sound. -/
theorem checkChannels_errorFree (order : HashOrder) (manifest : Manifest) (seen : List String)
    (channels : List Channel) :
    ErrorFree (checkChannels order manifest ((manifest.tasks.map Task.name).dedup) seen channels)
      ↔ (channels.map Channel.name).Nodup ∧ (∀ channel ∈ channels, channel.name ∉ seen)
        ∧ ∀ channel ∈ channels, SoundChannel manifest.tasks channel := by
  induction channels generalizing seen with
  | nil => simp [checkChannels]
  | cons channel rest checked =>
    -- The head joins the seen names, so the rest must avoid it.
    simp only [checkChannels, errorFree_append, errorFree_reportIf_error, checkChannel_errorFree,
      checked, List.map_cons, List.nodup_cons, List.mem_cons, not_or, forall_eq_or_imp,
      List.mem_map, not_exists, not_and, forall_and]
    tauto

/-- A capability names a channel exactly when it is the prefix followed by the channel's name. -/
theorem stripIpc_eq_some {capability channel : String} :
    stripIpc capability = some channel ↔ capability = "ipc." ++ channel := by
  have spelled : capability = "ipc." ++ channel
      ↔ capability.toList = "ipc.".toList ++ channel.toList := by
    rw [← String.toList_append, String.toList_inj]
  have four : "ipc.".toList.length = 4 := rfl
  rw [spelled, stripIpc]
  constructor
  · intro stripped
    split at stripped
    -- The first four characters spell the prefix, and the rest names the channel.
    · rename_i front
      obtain ⟨rest, whole⟩ := List.isPrefixOf_iff_prefix.mp front
      rw [Option.some.injEq, ← whole, ← four, List.drop_left] at stripped
      rw [← whole, ← stripped]
      simp
    · simp at stripped
  · intro whole
    -- The prefix is there, and what is dropped is exactly it.
    rw [whole, if_pos (List.isPrefixOf_iff_prefix.mpr (List.prefix_append _ _)), ← four,
      List.drop_left, String.ofList_toList]

/-- Scanning channels of distinct names leaves the endpoints of the one that carries the name. -/
theorem endpoints_foldl {channels : List Channel} (distinct : (channels.map Channel.name).Nodup)
    (name : String) (ends : String × String) (found : Option (String × String)) :
    channels.foldl (fun found channel =>
        if channel.name = name then some (channel.from, channel.to) else found) found = some ends
      ↔ (∃ channel ∈ channels, channel.name = name ∧ (channel.from, channel.to) = ends)
        ∨ (∀ channel ∈ channels, channel.name ≠ name) ∧ found = some ends := by
  induction channels generalizing found with
  | nil => simp
  | cons channel rest scanned =>
    rw [List.map_cons, List.nodup_cons] at distinct
    obtain ⟨fresh, others⟩ := distinct
    rw [List.foldl_cons, scanned others]
    by_cases here : channel.name = name
    -- No later channel carries the name again, so this one's endpoints stand.
    · have absent : ∀ other ∈ rest, other.name ≠ name := by
        intro other listed same
        exact fresh (List.mem_map.mpr ⟨other, listed, by rw [same, here]⟩)
      simp only [List.mem_cons, exists_eq_or_imp, here, true_and, forall_eq_or_imp, ne_eq,
        not_true, false_and, or_false, if_true, Option.some.injEq]
      constructor
      · intro found
        rcases found with ⟨other, listed, same, -⟩ | ⟨-, ends_⟩
        · exact absurd same (absent other listed)
        · exact .inl ends_
      · intro found
        rcases found with ends_ | ⟨other, listed, same, -⟩
        · exact .inr ⟨absent, ends_⟩
        · exact absurd same (absent other listed)
    · simp [here]

/-- With distinct channel names, a name has the endpoints of the one channel that carries it. -/
theorem Manifest.endpoints_eq_some {manifest : Manifest}
    (distinct : (manifest.channels.map Channel.name).Nodup) (name : String)
    (ends : String × String) :
    manifest.endpoints name = some ends
      ↔ ∃ channel ∈ manifest.channels, channel.name = name ∧ (channel.from, channel.to) = ends := by
  -- Names are distinct, so the last channel of a name is its only one.
  rw [endpoints, endpoints_foldl distinct]
  simp

/-- A task may hold the capability of a channel only if it is one of the channel's endpoints. -/
def SoundGrant (channels : List Channel) (task capability : String) : Prop :=
  ∀ name, capability = "ipc." ++ name →
    ∃ channel ∈ channels, channel.name = name ∧ (channel.from = task ∨ channel.to = task)

/-- A capability is reported without error exactly when it is none of IPC, or soundly granted. -/
theorem checkGrant_errorFree {manifest : Manifest}
    (distinct : (manifest.channels.map Channel.name).Nodup) (task capability : String) :
    ErrorFree (checkGrant manifest task capability)
      ↔ SoundGrant manifest.channels task capability := by
  unfold checkGrant SoundGrant
  simp only [← stripIpc_eq_some]
  split
  · rename_i other
    simp [other]
  · rename_i name ipc
    simp only [ipc, Option.some.injEq, forall_eq']
    split
    · rename_i undeclared
      -- No channel carries the name, or it would have endpoints.
      simp only [not_errorFree_error, false_iff]
      intro granted
      obtain ⟨channel, listed, same, -⟩ := granted
      have ends := (manifest.endpoints_eq_some distinct name (channel.from, channel.to)).mpr
        ⟨channel, listed, same, rfl⟩
      rw [undeclared] at ends
      simp at ends
    · rename_i sender receiver declared
      obtain ⟨channel, listed, same, ends⟩ :=
        (manifest.endpoints_eq_some distinct name (sender, receiver)).mp declared
      rw [errorFree_reportIf_error]
      constructor
      · intro endpoint
        refine ⟨channel, listed, same, ?_⟩
        rw [Prod.mk.injEq] at ends
        rw [ends.1, ends.2]
        tauto
      · intro granted
        obtain ⟨other, listed', same', endpoint⟩ := granted
        -- The channel of this name is unique, so the other one has the same endpoints.
        have ends' := (manifest.endpoints_eq_some distinct name (other.from, other.to)).mpr
          ⟨other, listed', same', rfl⟩
        rw [declared, Option.some.injEq, Prod.mk.injEq] at ends'
        rw [ends'.1, ends'.2]
        tauto

/-- A task's capabilities are reported without error exactly when each is soundly granted. -/
theorem checkGrants_errorFree {manifest : Manifest}
    (distinct : (manifest.channels.map Channel.name).Nodup) (task : String)
    (seen capabilities : List String) :
    ErrorFree (checkGrants manifest task seen capabilities)
      ↔ ∀ capability ∈ capabilities, SoundGrant manifest.channels task capability := by
  -- A repeated capability is only a warning, so each one is judged alone.
  induction capabilities generalizing seen with
  | nil => simp [checkGrants]
  | cons capability rest checked =>
    simp [checkGrants, checked, checkGrant_errorFree distinct]

/-- A dead channel is only ever a warning. -/
theorem checkCapabilities_errorFree {manifest : Manifest}
    (distinct : (manifest.channels.map Channel.name).Nodup) :
    ErrorFree (checkCapabilities manifest)
      ↔ ∀ task ∈ manifest.tasks, ∀ capability ∈ task.capabilities,
        SoundGrant manifest.channels task.name capability := by
  -- Only the grants can fail, a channel nobody claims is reported as a warning.
  have claimed : ∀ channel ∈ manifest.channels, ErrorFree (checkClaimed manifest.tasks channel) := by
    intro channel _
    exact errorFree_reportIf_warning _ _ _ _ _
  simp only [checkCapabilities, errorFree_append, errorFree_flatMap, and_iff_left claimed,
    checkGrants_errorFree distinct]

/-- A well-formed manifest: every condition its tasks, channels, and capabilities must meet. -/
structure WellFormed (manifest : Manifest) : Prop where
  tick_rate : ∃ hz, SpellsHz manifest.system.tickRate hz ∧ 0 < hz ∧ hz < 2 ^ 64
  task_name_ne_empty : ∀ task ∈ manifest.tasks, task.name ≠ ""
  task_names_distinct : (manifest.tasks.map Task.name).Nodup
  priority_range : ∀ task ∈ manifest.tasks, 1 ≤ task.priority ∧ task.priority ≤ 31
  timing : ∀ task ∈ manifest.tasks, SoundTiming task
  stack : ∀ task ∈ manifest.tasks, SoundStack task
  channel_names_distinct : (manifest.channels.map Channel.name).Nodup
  channel : ∀ channel ∈ manifest.channels, SoundChannel manifest.tasks channel
  grant : ∀ task ∈ manifest.tasks, ∀ capability ∈ task.capabilities,
    SoundGrant manifest.channels task.name capability

/-- A usable tick rate spells a positive frequency below the 64-bit limit. -/
theorem exists_parseTickHz_iff (text : String) :
    (∃ hz, parseTickHz text = some hz ∧ hz ≠ 0) ↔ ∃ hz, SpellsHz text hz ∧ 0 < hz ∧ hz < 2 ^ 64 := by
  constructor
  · intro usable
    obtain ⟨hz, parsed, nonzero⟩ := usable
    exact ⟨hz.toNat, parseTickHz_eq_some.mp parsed, UInt64.toNat_pos_iff.mpr nonzero, hz.toNat_lt⟩
  · intro spelled
    obtain ⟨hz, spells, positive, small⟩ := spelled
    -- A frequency below the limit is the value of a word.
    have value : (UInt64.ofNat hz).toNat = hz := UInt64.toNat_ofNat_of_lt' small
    exact ⟨UInt64.ofNat hz, parseTickHz_eq_some.mpr (by rw [value]; exact spells),
      UInt64.toNat_pos_iff.mp (by rw [value]; exact positive)⟩

/-- Visiting the stacks completes exactly when each of them rounds without overflow. -/
theorem visitAll_checkStack_returns (tasks : List Task) :
    (∃ found, visitAll checkStack tasks = .ok found) ↔ ∀ task ∈ tasks, RoundableStack task := by
  simp only [visitAll_eq_ok, checkStack_returns, exists_and_left, exists_eq, and_true]

/-- Completed stack findings are free of errors exactly when every stack is sound. -/
theorem visitAll_checkStack_errorFree {tasks : List Task} {found : List Diagnostic}
    (completed : visitAll checkStack tasks = .ok found) :
    ErrorFree found ↔ ∀ task ∈ tasks, SoundStack task := by
  -- The findings are those of the single visits, in order.
  obtain ⟨each, joined⟩ := (visitAll_eq_ok checkStack tasks found).mp completed
  rw [joined, errorFree_flatMap]
  refine forall₂_congr fun task listed => ?_
  obtain ⟨part, here⟩ := each task listed
  rw [findingsOf, here]
  exact checkStack_errorFree here

/-- A run of the validator, assembled from its two parts that could abort. -/
theorem Manifest.validate_eq_ok (manifest : Manifest) (order : HashOrder) (report : ValidationReport) :
    manifest.validate order = .ok report
      ↔ ∃ timing memory, checkTiming manifest = .ok timing
        ∧ visitAll checkStack manifest.tasks = .ok memory
        ∧ report.diagnostics = checkTaskNames [] manifest.tasks ++ checkPriorities order manifest.tasks
          ++ timing ++ memory
          ++ checkChannels order manifest ((manifest.tasks.map Task.name).dedup) [] manifest.channels
          ++ checkCapabilities manifest := by
  -- Only the timing and the stack checks compute, and the report joins all six.
  simp only [validate, Machine.bind_eq_ok, Machine.pure_eq_ok, Except.ok.injEq]
  constructor
  · intro completed
    obtain ⟨timing, timed, memory, visited, rfl⟩ := completed
    exact ⟨timing, memory, timed, visited, rfl⟩
  · intro parts
    obtain ⟨timing, memory, timed, visited, joined⟩ := parts
    exact ⟨timing, timed, memory, visited, by rw [← joined]⟩

/-- A run with an outcome produced a report of that outcome. -/
theorem exists_report_isOk {manifest : Manifest} {order : HashOrder} {fine : Bool}
    (outcome : (manifest.validate order).map ValidationReport.isOk = .ok fine) :
    ∃ report, manifest.validate order = .ok report ∧ report.isOk = fine := by
  -- An aborted run has no outcome.
  cases run : manifest.validate order with
  | error panic =>
    rw [run] at outcome
    cases outcome
  | ok report =>
    rw [run] at outcome
    exact ⟨report, rfl, Except.ok.inj outcome⟩

/-- On stacks that round without overflow the validator returns a report. -/
theorem Manifest.validate_returns {manifest : Manifest} (order : HashOrder)
    (bounded : ∀ task ∈ manifest.tasks, RoundableStack task) :
    ∃ report, manifest.validate order = .ok report := by
  -- The timing check always completes, and the stack check does on these stacks.
  obtain ⟨memory, visited⟩ := (visitAll_checkStack_returns manifest.tasks).mpr bounded
  obtain ⟨timing, timed, -⟩ := checkTiming_eq_ok manifest
  exact ⟨⟨_⟩, (manifest.validate_eq_ok order _).mpr ⟨timing, memory, timed, visited, rfl⟩⟩

/-- Where the validator returned, every stack rounds without overflow. -/
theorem Manifest.roundable_of_validate {manifest : Manifest} {order : HashOrder}
    {report : ValidationReport} (completed : manifest.validate order = .ok report) :
    ∀ task ∈ manifest.tasks, RoundableStack task := by
  -- The report holds the findings of the stack check, so it completed.
  obtain ⟨-, memory, -, visited, -⟩ := (manifest.validate_eq_ok order report).mp completed
  exact (visitAll_checkStack_returns manifest.tasks).mp ⟨memory, visited⟩

/-- The validator returns a report exactly when every stack that is a size is at most half the
64-bit range: the rounding to a power of two is its only step that can abort. -/
theorem validate_returns_iff (manifest : Manifest) (order : HashOrder) :
    (∃ report, manifest.validate order = .ok report)
      ↔ ∀ task ∈ manifest.tasks, RoundableStack task := by
  -- The stack check is the only one that can abort.
  constructor
  · intro returned
    obtain ⟨report, completed⟩ := returned
    exact Manifest.roundable_of_validate completed
  · exact Manifest.validate_returns order

/-- A single task whose stack is one byte over half the 64-bit range. -/
def oversizedStack : Manifest where
  system := ⟨"1MHz"⟩
  tasks := [⟨"control", 7, "9223372036854775809B", none, none, none, []⟩]
  channels := []

/-- Rounding that stack up to a power of two aborts the validator. -/
theorem oversizedStack_aborts : oversizedStack.validate .insertion = .error .overflow
    ∧ ¬∃ report, oversizedStack.validate .insertion = .ok report := by
  -- The next power of two is 2 to the 64th, one past the range.
  have aborted : oversizedStack.validate .insertion = .error .overflow := by decide
  refine ⟨aborted, ?_⟩
  rw [aborted]
  simp

/-- A report is fine exactly when the manifest is well formed. -/
theorem isOk_iff_wellFormed {manifest : Manifest} {order : HashOrder} {report : ValidationReport}
    (completed : manifest.validate order = .ok report) :
    report.isOk = true ↔ WellFormed manifest := by
  -- The findings are those of the six checks.
  obtain ⟨timing, memory, timed, visited, joined⟩ := (manifest.validate_eq_ok order report).mp completed
  obtain ⟨found, same, sound⟩ := checkTiming_eq_ok manifest
  rw [timed, Except.ok.injEq] at same
  subst same
  rw [report.isOk_iff, joined]
  -- Each check is free of errors exactly on its part of the predicate.
  simp only [errorFree_append, checkTaskNames_errorFree, checkPriorities_errorFree, sound,
    exists_parseTickHz_iff, visitAll_checkStack_errorFree visited, checkChannels_errorFree,
    List.not_mem_nil, not_false_iff, implies_true, true_and]
  constructor
  · intro clean
    obtain ⟨⟨⟨⟨⟨⟨names, nonempty⟩, priorities⟩, rate, timings⟩, sizes⟩, channels, ends⟩, grants⟩ := clean
    exact ⟨rate, nonempty, names, priorities, timings, sizes, channels, ends,
      (checkCapabilities_errorFree channels).mp grants⟩
  · intro formed
    exact ⟨⟨⟨⟨⟨⟨formed.task_names_distinct, formed.task_name_ne_empty⟩, formed.priority_range⟩,
      formed.tick_rate, formed.timing⟩, formed.stack⟩, formed.channel_names_distinct, formed.channel⟩,
      (checkCapabilities_errorFree formed.channel_names_distinct).mpr formed.grant⟩

/-- In a well-formed manifest only endpoints hold a channel's capability. -/
theorem WellFormed.endpoint_of_grant {manifest : Manifest} (formed : WellFormed manifest)
    {task : Task} {channel : Channel} (listed : task ∈ manifest.tasks)
    (declared : channel ∈ manifest.channels) (held : "ipc." ++ channel.name ∈ task.capabilities) :
    channel.from = task.name ∨ channel.to = task.name := by
  -- The capability is granted for some channel of that name.
  obtain ⟨other, declared', same, endpoint⟩ :=
    formed.grant task listed _ held channel.name rfl
  -- There is only one channel of the name.
  have unique : other = channel :=
    List.inj_on_of_nodup_map formed.channel_names_distinct declared' declared same
  rw [← unique]
  exact endpoint

/-- On stacks of at most half the 64-bit range the validator returns, accepts exactly the
well-formed manifests, and accepts none in which a task that is no endpoint of a channel holds its
capability, in whatever order tasks and channels are declared. -/
theorem validate_accepts_iff (manifest : Manifest) (order : HashOrder)
    (bounded : ∀ task ∈ manifest.tasks, RoundableStack task) :
    ∃ report, manifest.validate order = .ok report
      ∧ (report.isOk = true ↔ WellFormed manifest)
      ∧ (report.isOk = true → ∀ task ∈ manifest.tasks, ∀ channel ∈ manifest.channels,
        "ipc." ++ channel.name ∈ task.capabilities
          → channel.from = task.name ∨ channel.to = task.name) := by
  obtain ⟨report, completed⟩ := Manifest.validate_returns order bounded
  refine ⟨report, completed, isOk_iff_wellFormed completed, ?_⟩
  -- Acceptance is well-formedness, which grants capabilities to endpoints only.
  intro accepted task listed channel declared held
  exact ((isOk_iff_wellFormed completed).mp accepted).endpoint_of_grant listed declared held

/-- Two tasks and a channel between them, each holding its capability. -/
def sensorPipeline : Manifest where
  system := ⟨" 1 MHz"⟩
  tasks := [⟨"sensor", 7, "2KiB", some "1ms", some "500us", some "180us", ["ipc.samples"]⟩,
    ⟨"telemetry", 2, "4KiB", none, none, none, ["ipc.samples", "net.mqtt"]⟩]
  channels := [⟨"samples", "sensor", "telemetry", 16, "drop-oldest"⟩]

/-- The pipeline's stacks are far below half the 64-bit range. -/
theorem sensorPipeline_bounded : ∀ task ∈ sensorPipeline.tasks, RoundableStack task := by
  -- Two and four kibibytes are far below the limit.
  have small : ByteSize.fromStr "2KiB" = .ok ⟨2048⟩ ∧ ByteSize.fromStr "4KiB" = .ok ⟨4096⟩ := by decide
  intro task listed stack parsed
  simp only [sensorPipeline, List.mem_cons, List.not_mem_nil, or_false] at listed
  rcases listed with rfl | rfl
  · rw [small.1] at parsed
    cases parsed
    decide
  · rw [small.2] at parsed
    cases parsed
    decide

/-- The pipeline is validated, and accepted exactly because it is well formed. -/
theorem sensorPipeline_accepts :
    ∃ report, sensorPipeline.validate .insertion = .ok report
      ∧ (report.isOk = true ↔ WellFormed sensorPipeline)
      ∧ (report.isOk = true → ∀ task ∈ sensorPipeline.tasks, ∀ channel ∈ sensorPipeline.channels,
        "ipc." ++ channel.name ∈ task.capabilities
          → channel.from = task.name ∨ channel.to = task.name) :=
  validate_accepts_iff sensorPipeline .insertion sensorPipeline_bounded

end Malleus
