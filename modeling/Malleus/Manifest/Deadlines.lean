import Malleus.Manifest.Acceptance
import Malleus.Manifest.Codes
import Malleus.Manifest.Levels

/-! Where a declared deadline enters the report: the checks that never read it, and the three
findings that do. -/

namespace Malleus

open Machine

/-- A task without its declared deadline. -/
def Task.eraseDeadline (task : Task) : Task := { task with deadline := none }

/-- A manifest without its declared deadlines. -/
def Manifest.eraseDeadlines (manifest : Manifest) : Manifest :=
  { manifest with tasks := manifest.tasks.map Task.eraseDeadline }

/-- The check of the task names reads no deadline. -/
theorem checkTaskNames_erase (seen : List String) (tasks : List Task) :
    checkTaskNames seen (tasks.map Task.eraseDeadline) = checkTaskNames seen tasks := by
  -- Only names are compared.
  induction tasks generalizing seen with
  | nil => rfl
  | cons task rest same => simp only [List.map_cons, checkTaskNames, same, Task.eraseDeadline]

/-- The check of the stacks reads no deadline. -/
theorem visitAll_checkStack_erase (tasks : List Task) :
    visitAll checkStack (tasks.map Task.eraseDeadline) = visitAll checkStack tasks := by
  -- Only the name and the stack of a task are read.
  induction tasks with
  | nil => rfl
  | cons task rest same =>
    simp only [List.map_cons, visitAll, same, checkStack, Task.eraseDeadline]

/-- The names a manifest declares are those it declares without deadlines. -/
theorem names_erase (tasks : List Task) :
    (tasks.map Task.eraseDeadline).map Task.name = tasks.map Task.name := by
  -- Erasing a deadline keeps the name.
  rw [List.map_map]
  rfl

/-- The check for priority inversion reads no deadline. -/
theorem checkInversion_erase (manifest : Manifest) (channel : Channel) :
    checkInversion manifest.eraseDeadlines channel = checkInversion manifest channel := by
  have found : ∀ name, manifest.eraseDeadlines.task name
      = (manifest.task name).map Task.eraseDeadline := by
    intro name
    rw [Manifest.task, Manifest.eraseDeadlines, List.find?_map]
    rfl
  simp only [checkInversion, found]
  -- Both lookups find the same tasks, apart from their deadlines.
  cases manifest.task channel.from <;> cases manifest.task channel.to <;>
    simp only [Option.map_none, Option.map_some, Task.eraseDeadline]

/-- The check of the channels reads no deadline. -/
theorem checkChannels_erase (order : HashOrder) (manifest : Manifest) (names seen : List String)
    (channels : List Channel) :
    checkChannels order manifest.eraseDeadlines names seen channels
      = checkChannels order manifest names seen channels := by
  -- The tasks of a manifest enter only the check for priority inversion.
  induction channels generalizing seen with
  | nil => rfl
  | cons channel rest same =>
    simp only [checkChannels, checkChannel, checkInversion_erase, same]

/-- The check of the capabilities reads no deadline. -/
theorem checkCapabilities_erase (manifest : Manifest) :
    checkCapabilities manifest.eraseDeadlines = checkCapabilities manifest := by
  -- The channels are untouched, so capabilities name the same endpoints.
  have ends : ∀ name, manifest.eraseDeadlines.endpoints name = manifest.endpoints name :=
    fun _ => rfl
  have grants : ∀ (task : String) (capabilities seen : List String),
      checkGrants manifest.eraseDeadlines task seen capabilities
        = checkGrants manifest task seen capabilities := by
    intro task capabilities
    induction capabilities with
    | nil => intro seen; rfl
    | cons capability rest same =>
      intro seen
      simp only [checkGrants, checkGrant, ends, same]
  -- Counting the holders of a capability reads names and capabilities only.
  have holders : ∀ (channel : Channel) (capability : String),
      (((manifest.tasks.map Task.eraseDeadline).filter
          fun task => task.name = channel.from ∨ task.name = channel.to).filter
        fun task => capability ∈ task.capabilities).length
      = ((manifest.tasks.filter fun task => task.name = channel.from ∨ task.name = channel.to).filter
        fun task => capability ∈ task.capabilities).length := by
    intro channel capability
    rw [List.filter_map, List.filter_map, List.length_map]
    rfl
  have tasks : manifest.eraseDeadlines.tasks = manifest.tasks.map Task.eraseDeadline := rfl
  have channels : manifest.eraseDeadlines.channels = manifest.channels := rfl
  have claimed : checkClaimed (manifest.tasks.map Task.eraseDeadline)
      = checkClaimed manifest.tasks := by
    funext channel
    simp only [checkClaimed, holders]
  simp only [checkCapabilities, tasks, channels, List.flatMap_map, grants, claimed,
    Task.eraseDeadline]

/-- The findings that no declared deadline enters, given those about the stacks. -/
def deadlineFree (order : HashOrder) (manifest : Manifest) (memory : List Diagnostic) :
    List Diagnostic :=
  checkTaskNames [] manifest.tasks ++ manifest.tasks.flatMap checkPriority
    ++ checkTickRate manifest.system.tickRate (parseTickHz manifest.system.tickRate) ++ memory
    ++ checkChannels order manifest ((manifest.tasks.map Task.name).dedup) [] manifest.channels
    ++ checkCapabilities manifest

/-- They are the findings about the manifest without its deadlines. -/
theorem deadlineFree_erase (order : HashOrder) (manifest : Manifest) (memory : List Diagnostic) :
    deadlineFree order manifest.eraseDeadlines memory = deadlineFree order manifest memory := by
  -- Each part reads other fields of the tasks, or none at all.
  have tasks : manifest.eraseDeadlines.tasks = manifest.tasks.map Task.eraseDeadline := rfl
  have channels : manifest.eraseDeadlines.channels = manifest.channels := rfl
  have system : manifest.eraseDeadlines.system = manifest.system := rfl
  have priority : ∀ task : Task, checkPriority task.eraseDeadline = checkPriority task := by
    intro task
    simp only [checkPriority, Task.eraseDeadline]
    rfl
  simp only [deadlineFree, checkChannels_erase, checkCapabilities_erase, tasks, channels, system,
    checkTaskNames_erase, names_erase, List.flatMap_map, priority]

/-- The order of a hash collection enters no key of the channel findings. -/
theorem raises_checkChannels_order (first second : HashOrder) (manifest : Manifest)
    (names seen : List String) (channels : List Channel) (key : FindingKey) :
    Raises (checkChannels first manifest names seen channels) key
      ↔ Raises (checkChannels second manifest names seen channels) key := by
  induction channels generalizing seen with
  | nil => exact Iff.rfl
  | cons channel rest same =>
    -- The order only enters the suggestion of an unknown endpoint.
    have ends : ∀ (order : HashOrder) (role task : String),
        Raises (checkEndpoint order names channel.name role task) key
          ↔ task ∉ names ∧ key = (.error, "M0014", channel.name) :=
      fun _ _ _ => raises_reportIf _ _ _
    simp only [checkChannels, checkChannel, raises_append, same, ends]

/-- The order of a hash collection enters no key of the findings without a deadline. -/
theorem raises_deadlineFree_order (first second : HashOrder) (manifest : Manifest)
    (memory : List Diagnostic) (key : FindingKey) :
    Raises (deadlineFree first manifest memory) key
      ↔ Raises (deadlineFree second manifest memory) key := by
  simp only [deadlineFree, raises_append, raises_checkChannels_order first second]

/-- A task declares a deadline shorter than its execution time. -/
def Overruns (task : Task) : Prop :=
  ∃ cost ∈ readDuration task.wcet, ∃ due ∈ readDuration task.deadline, due.nanos < cost.nanos

/-- A task declares a deadline but no execution time. -/
def Unmeasured (task : Task) : Prop := task.deadline.isSome ∧ task.wcet.isNone

/-- A text joins the names of a level shared by tasks with declared deadlines. -/
def JoinsLevel (tasks : List Task) (level : UInt8) (text : String) : Prop :=
  1 < (deadlineNames level tasks).length
    ∧ text = String.intercalate ", " (deadlineNames level tasks)

/-- Findings about one task's timing, those that need the deadline apart. -/
def timingRest (tickRate : String) (tickHz : Option UInt64) (task : Task) : List Diagnostic :=
  (parseDuration task.period task.name "period").2
    ++ (discardZeroPeriod task.name (readDuration task.period)).2
    ++ (parseDuration task.deadline task.name "deadline").2
    ++ (parseDuration task.wcet task.name "wcet").2
    ++ checkDeadline task.name ((readDuration task.period).filter (·.nanos ≠ 0))
      (readDuration task.deadline)
    ++ findingsOf (fun period => checkAlignment tickRate task.name period tickHz)
      ((readDuration task.period).filter (·.nanos ≠ 0))

/-- The alignment check returns its findings. -/
theorem checkAlignment_findings (tickRate task : String) (period : Option Duration)
    (tickHz : Option UInt64) :
    checkAlignment tickRate task period tickHz
      = .ok (findingsOf (fun period => checkAlignment tickRate task period tickHz) period) := by
  -- It always completes.
  obtain ⟨found, tested, -⟩ := checkAlignment_eq_ok tickRate task period tickHz
  rw [findingsOf, tested]

/-- The keys of a task's timing findings: two of them need the deadline. -/
theorem raises_checkTaskTiming (tickRate : String) (tickHz : Option UInt64) (task : Task)
    (key : FindingKey) :
    Raises (findingsOf (checkTaskTiming tickRate tickHz) task) key
      ↔ Raises (timingRest tickRate tickHz task) key
        ∨ Overruns task ∧ key = (.error, "M0007", task.name)
        ∨ Unmeasured task ∧ key = (.warning, "M0008", task.name) := by
  have tested := checkAlignment_findings tickRate task.name
    ((readDuration task.period).filter (·.nanos ≠ 0)) tickHz
  -- The comparison with the execution time is one of the two that need the deadline.
  have overruns : ∀ key, Raises (checkWcet task.name (readDuration task.wcet)
      (readDuration task.deadline)) key ↔ Overruns task ∧ key = (.error, "M0007", task.name) := by
    intro key
    unfold Overruns
    cases readDuration task.wcet <;> cases readDuration task.deadline <;> simp [checkWcet]
  -- The missing measurement is the other one.
  have unmeasured : ∀ key, Raises (checkUnmeasured task) key
      ↔ Unmeasured task ∧ key = (.warning, "M0008", task.name) := by
    intro key
    simp only [checkUnmeasured, raises_reportIf, Diagnostic.key_warning, Unmeasured]
  rw [findingsOf]
  simp only [timingRest, checkTaskTiming, parseDuration_fst, discardZeroPeriod_fst, tested,
    Machine.ok_bind, Machine.pure_eq_ok, raises_append, overruns, unmeasured]
  apply iff_of_eq
  ac_rfl

/-- The levels reported are those shared by tasks with declared deadlines, in whatever order. -/
theorem raises_checkLevels (order : HashOrder) (tasks : List Task) (key : FindingKey) :
    Raises ((order.levels (byPriority tasks)).flatMap checkLevel) key
      ↔ ∃ level text, JoinsLevel tasks level text ∧ key = (.warning, "M0005", text) := by
  have held := (byPriority_spec tasks).2
  simp only [raises_flatMap, (order.levels_perm _).mem_iff, Prod.exists, held, checkLevel,
    raises_reportIf, Diagnostic.key_warning, JoinsLevel]
  constructor
  · intro raised
    obtain ⟨level, names, ⟨-, rfl⟩, shared, same⟩ := raised
    exact ⟨level, _, ⟨shared, rfl⟩, same⟩
  · intro shared
    obtain ⟨level, text, ⟨several, rfl⟩, same⟩ := shared
    -- A level of several names is one of the map's entries.
    have nonempty : deadlineNames level tasks ≠ [] := by
      intro empty
      simp [empty] at several
    exact ⟨level, _, ⟨nonempty, rfl⟩, several, same⟩

/-- The keys of a report: those no deadline enters, and the three that need one. -/
theorem raises_report {manifest : Manifest} {order : HashOrder} {report : ValidationReport}
    (completed : manifest.validate order = .ok report) :
    ∃ memory, visitAll checkStack manifest.tasks = .ok memory ∧ ∀ key,
      Raises report.diagnostics key
        ↔ Raises (deadlineFree order manifest memory) key
          ∨ (∃ task ∈ manifest.tasks, Raises (timingRest manifest.system.tickRate
            (parseTickHz manifest.system.tickRate) task) key)
          ∨ (∃ level text, JoinsLevel manifest.tasks level text ∧ key = (.warning, "M0005", text))
          ∨ (∃ task ∈ manifest.tasks, Overruns task ∧ key = (.error, "M0007", task.name))
          ∨ ∃ task ∈ manifest.tasks, Unmeasured task ∧ key = (.warning, "M0008", task.name) := by
  -- The report joins the findings of the six checks.
  obtain ⟨timing, memory, timed, visited, joined⟩ := (manifest.validate_eq_ok order report).mp completed
  refine ⟨memory, visited, ?_⟩
  intro key
  obtain ⟨found, swept, listed⟩ := Machine.bind_eq_ok.mp timed
  rw [Machine.pure_eq_ok, Except.ok.injEq] at listed
  have parts := ((visitAll_eq_ok _ _ _).mp swept).2
  -- The timing check goes through the tasks one by one.
  have timings : Raises timing key ↔ Raises (checkTickRate manifest.system.tickRate
        (parseTickHz manifest.system.tickRate)) key
      ∨ (∃ task ∈ manifest.tasks, Raises (timingRest manifest.system.tickRate
        (parseTickHz manifest.system.tickRate) task) key)
      ∨ (∃ task ∈ manifest.tasks, Overruns task ∧ key = (.error, "M0007", task.name))
      ∨ ∃ task ∈ manifest.tasks, Unmeasured task ∧ key = (.warning, "M0008", task.name) := by
    rw [← listed, parts, raises_append, raises_flatMap]
    simp only [raises_checkTaskTiming, and_or_left, exists_or]
  rw [joined]
  simp only [raises_append, checkPriorities, deadlineFree, timings, raises_checkLevels]
  apply iff_of_eq
  ac_rfl

/-- The codes of the findings that need a declared deadline. -/
def deadlineCodes : List String := ["M0005", "M0007", "M0008"]

/-- The codes of the findings no deadline enters. -/
def structuralCodes : List String :=
  ["M0001", "M0002", "M0003", "M0004", "M0010", "M0011", "M0012", "M0024", "M0025"]
    ++ channelCodes ++ capabilityCodes

/-- The findings no deadline enters have their own codes. -/
theorem deadlineFree_codes (order : HashOrder) {manifest : Manifest} {memory : List Diagnostic}
    (visited : visitAll checkStack manifest.tasks = .ok memory) :
    CodesIn (deadlineFree order manifest memory) structuralCodes := by
  -- Each check has codes of its own.
  obtain ⟨each, joined⟩ := (visitAll_eq_ok checkStack manifest.tasks memory).mp visited
  have sized : CodesIn memory structuralCodes := by
    rw [joined, codesIn_flatMap]
    intro task listed
    obtain ⟨part, here⟩ := each task listed
    rw [findingsOf, here]
    exact (checkStack_codes here).mono (by decide)
  simp only [deadlineFree, codesIn_append, codesIn_flatMap]
  exact ⟨⟨⟨⟨⟨(checkTaskNames_codes _ _).mono (by decide),
    fun task _ => (checkPriority_codes task).mono (by decide)⟩,
    (checkTickRate_codes _ _).mono (by decide)⟩, sized⟩,
    (checkChannels_codes _ _ _ _ _).mono (by decide)⟩,
    (checkCapabilities_codes manifest).mono (by decide)⟩

/-- The findings no deadline enters have other codes than those that need one. -/
theorem deadlineFree_avoids (order : HashOrder) {manifest : Manifest} {memory : List Diagnostic}
    (visited : visitAll checkStack manifest.tasks = .ok memory) :
    Avoids (deadlineFree order manifest memory) deadlineCodes :=
  (deadlineFree_codes order visited).avoids (by decide)

/-- The rest of a task's timing findings have their own codes. -/
theorem timingRest_codes (tickRate : String) (tickHz : Option UInt64) (task : Task) :
    CodesIn (timingRest tickRate tickHz task) ["M0006", "M0009", "M0023", "M0026"] := by
  -- The comparison with the execution time is left out, and so is its code.
  have tested := checkAlignment_findings tickRate task.name
    ((readDuration task.period).filter (·.nanos ≠ 0)) tickHz
  simp only [timingRest, codesIn_append]
  exact ⟨⟨⟨⟨⟨(parseDuration_codes _ _ _).mono (by decide),
    (discardZeroPeriod_codes _ _).mono (by decide)⟩,
    (parseDuration_codes _ _ _).mono (by decide)⟩,
    (parseDuration_codes _ _ _).mono (by decide)⟩,
    (checkDeadline_codes _ _ _).mono (by decide)⟩,
    (checkAlignment_codes tested).mono (by decide)⟩

/-- None of them is a code of a finding that needs a deadline. -/
theorem timingRest_avoids (tickRate : String) (tickHz : Option UInt64) (task : Task) :
    Avoids (timingRest tickRate tickHz task) deadlineCodes :=
  (timingRest_codes tickRate tickHz task).avoids (by decide)

/-- The three findings that need a deadline, each told apart by its code. -/
theorem raises_report_deadlines {manifest : Manifest} {order : HashOrder} {report : ValidationReport}
    (completed : manifest.validate order = .ok report) (location : String) :
    (Raises report.diagnostics (.warning, "M0005", location)
        ↔ ∃ level, JoinsLevel manifest.tasks level location)
      ∧ (Raises report.diagnostics (.error, "M0007", location)
        ↔ ∃ task ∈ manifest.tasks, Overruns task ∧ task.name = location)
      ∧ (Raises report.diagnostics (.warning, "M0008", location)
        ↔ ∃ task ∈ manifest.tasks, Unmeasured task ∧ task.name = location) := by
  -- No other finding of the report has one of the three codes.
  obtain ⟨memory, visited, parts⟩ := raises_report completed
  have free : ∀ severity code, code ∈ deadlineCodes →
      ¬Raises (deadlineFree order manifest memory) (severity, code, location) :=
    fun severity code listed raised => deadlineFree_avoids order visited _ raised listed
  have rest : ∀ severity code, code ∈ deadlineCodes → ∀ task,
      ¬Raises (timingRest manifest.system.tickRate (parseTickHz manifest.system.tickRate) task)
        (severity, code, location) :=
    fun severity code listed task raised => timingRest_avoids _ _ task _ raised listed
  simp only [parts, free _ "M0005" (by decide), free _ "M0007" (by decide), free _ "M0008" (by decide),
    rest _ "M0005" (by decide), rest _ "M0007" (by decide), rest _ "M0008" (by decide)]
  simp [eq_comm]

/-- Two reports that agree on the findings without a deadline have the same keys exactly when they
agree on the three findings that need one. -/
theorem same_keys_iff {manifest written : Manifest} {first second : HashOrder}
    {report other : ValidationReport} (completed : manifest.validate first = .ok report)
    (completed' : written.validate second = .ok other)
    (erased : written.eraseDeadlines = manifest.eraseDeadlines)
    (rest : ∀ key,
      (∃ task ∈ written.tasks, Raises (timingRest written.system.tickRate
        (parseTickHz written.system.tickRate) task) key)
      ↔ ∃ task ∈ manifest.tasks, Raises (timingRest manifest.system.tickRate
        (parseTickHz manifest.system.tickRate) task) key) :
    (∀ key, Raises other.diagnostics key ↔ Raises report.diagnostics key)
      ↔ (∀ text, (∃ level, JoinsLevel written.tasks level text)
          ↔ ∃ level, JoinsLevel manifest.tasks level text)
        ∧ (∀ name, (∃ task ∈ written.tasks, Overruns task ∧ task.name = name)
          ↔ ∃ task ∈ manifest.tasks, Overruns task ∧ task.name = name)
        ∧ ∀ name, (∃ task ∈ written.tasks, Unmeasured task ∧ task.name = name)
          ↔ ∃ task ∈ manifest.tasks, Unmeasured task ∧ task.name = name := by
  constructor
  · intro same
    -- Each of the three is the report's keys of one code.
    refine ⟨?_, ?_, ?_⟩
    · intro text
      rw [← (raises_report_deadlines completed text).1, ← (raises_report_deadlines completed' text).1]
      exact same _
    · intro name
      rw [← (raises_report_deadlines completed name).2.1,
        ← (raises_report_deadlines completed' name).2.1]
      exact same _
    · intro name
      rw [← (raises_report_deadlines completed name).2.2,
        ← (raises_report_deadlines completed' name).2.2]
      exact same _
  · intro agree key
    obtain ⟨levels, overruns, unmeasured⟩ := agree
    obtain ⟨memory, visited, parts⟩ := raises_report completed
    obtain ⟨memory', visited', parts'⟩ := raises_report completed'
    -- The stacks read no deadline, so both reports hold the same findings about them.
    have reserved : memory' = memory := by
      have tasks : ∀ declared : Manifest,
          declared.eraseDeadlines.tasks = declared.tasks.map Task.eraseDeadline := fun _ => rfl
      rw [← visitAll_checkStack_erase, ← tasks, erased, tasks, visitAll_checkStack_erase,
        visited] at visited'
      exact (Except.ok.inj visited').symm
    have free : Raises (deadlineFree second written memory') key
        ↔ Raises (deadlineFree first manifest memory) key := by
      rw [reserved, ← deadlineFree_erase, erased, deadlineFree_erase,
        raises_deadlineFree_order second first]
    have joined : ∀ declared : Manifest,
        (∃ level text, JoinsLevel declared.tasks level text ∧ key = (.warning, "M0005", text))
          ↔ ∃ text, (∃ level, JoinsLevel declared.tasks level text)
            ∧ key = (.warning, "M0005", text) := by
      intro declared
      rw [exists_comm]
      simp only [exists_and_right]
    have named : ∀ (declared : Manifest) (reported : Task → Prop) (severity : Severity)
        (code : String),
        (∃ task ∈ declared.tasks, reported task ∧ key = (severity, code, task.name))
          ↔ ∃ name, (∃ task ∈ declared.tasks, reported task ∧ task.name = name)
            ∧ key = (severity, code, name) := by
      intro declared reported severity code
      constructor
      · intro raised
        obtain ⟨task, listed, found, same⟩ := raised
        exact ⟨task.name, ⟨task, listed, found, rfl⟩, same⟩
      · intro raised
        obtain ⟨name, ⟨task, listed, found, rfl⟩, same⟩ := raised
        exact ⟨task, listed, found, same⟩
    rw [parts, parts', free, rest, joined, joined, named, named, named, named]
    simp only [levels, overruns, unmeasured]

end Malleus
