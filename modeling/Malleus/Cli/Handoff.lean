import Malleus.Cli.Analyze
import Malleus.Manifest.Acceptance
import Malleus.Manifest.Ticks

/-! What an accepted manifest hands to the analyser: the command cannot fail, and its task set is
well formed. -/

namespace Malleus

open Machine

/-- A field of ticks: the duration it holds, converted. -/
def ticksOf (tickHz : UInt64) (text : Option String) : Option UInt64 :=
  (readDuration text).map (·.toTicks tickHz)

/-- A task as the analyser is given it, when all of its fields parse. -/
def timingOf (tickHz : UInt64) (task : Task) : TaskTiming where
  name := task.name
  priority := task.priority
  period := ticksOf tickHz task.period
  deadline := ticksOf tickHz task.deadline
  wcet := ticksOf tickHz task.wcet
  blocking := 0

/-- Where the guarded reading finds a frequency, the unguarded one finds the same. -/
theorem analyze_parseTickHz {text : String} {hz : UInt64} (guarded : parseTickHz text = some hz) :
    Analyze.parseTickHz text = .ok (.ok hz) := by
  simp only [parseTickHz, Option.bind_eq_bind, Option.bind_eq_some_iff, Prod.exists] at guarded
  obtain ⟨number, unit, cut, value, numeral, scaled⟩ := guarded
  -- One case per unit; any other unit has no frequency.
  rcases scaleTickHz_cases scaled with ⟨same, exact_⟩ | ⟨same, product⟩ | ⟨same, product⟩
  · subst exact_
    simp only [Analyze.parseTickHz, cut, numeral, same]
    rfl
  · simp only [Analyze.parseTickHz, cut, numeral, same, UInt64.strictMul_eq_ok_of_checkedMul product]
    rfl
  · simp only [Analyze.parseTickHz, cut, numeral, same, UInt64.strictMul_eq_ok_of_checkedMul product]
    rfl

/-- A field that parses converts to the ticks of its duration. -/
theorem analyze_toTicks {text : Option String} (tickHz : UInt64)
    (parses : text.isSome → (readDuration text).isSome) :
    Analyze.toTicks text tickHz = .ok (ticksOf tickHz text) := by
  cases text with
  | none => rfl
  | some text =>
    obtain ⟨duration, held⟩ := Option.isSome_iff_exists.mp (parses rfl)
    -- A field that holds a duration has a text that parses.
    have parsed : Duration.fromStr text = .ok duration := by
      rw [readDuration, Option.bind_some] at held
      cases shown : Duration.fromStr text with
      | error error => simp [shown, Except.toOption] at held
      | ok other =>
        rw [shown] at held
        exact congrArg Except.ok (Option.some.inj held)
    rw [Analyze.toTicks, parsed, ticksOf, held]
    rfl

/-- A soundly timed task converts to its timing. -/
theorem analyze_timing {task : Task} (tickHz : UInt64) (sound : SoundTiming task) :
    Analyze.timing tickHz task = .ok (timingOf tickHz task) := by
  -- Each of the three fields that is given parses.
  rw [Analyze.timing, analyze_toTicks tickHz sound.period_parses,
    analyze_toTicks tickHz sound.deadline_parses, analyze_toTicks tickHz sound.wcet_parses]
  rfl

/-- Soundly timed tasks convert to their timings, in order. -/
theorem analyze_timings {tasks : List Task} (tickHz : UInt64)
    (sound : ∀ task ∈ tasks, SoundTiming task) :
    Analyze.timings tickHz tasks = .ok (tasks.map (timingOf tickHz)) := by
  -- No task stops the conversion.
  induction tasks with
  | nil => rfl
  | cons task rest converted =>
    obtain ⟨first, others⟩ := List.forall_mem_cons.mp sound
    rw [Analyze.timings, analyze_timing tickHz first, converted others]
    rfl

/-- The frequency of a well-formed manifest. -/
theorem WellFormed.exists_tickHz {manifest : Manifest} (formed : WellFormed manifest) :
    ∃ hz, parseTickHz manifest.system.tickRate = some hz ∧ hz ≠ 0 :=
  (exists_parseTickHz_iff _).mpr formed.tick_rate

/-- The frequency that a well-formed manifest spells is not zero. -/
theorem WellFormed.running {manifest : Manifest} (formed : WellFormed manifest) {hz : UInt64}
    (rate : parseTickHz manifest.system.tickRate = some hz) : hz ≠ 0 := by
  -- The one frequency it is accepted with runs.
  obtain ⟨hz', found, running⟩ := formed.exists_tickHz
  exact Option.some.inj (rate.symm.trans found) ▸ running

/-- On an accepted manifest the command reaches the analyser with the timing of every task. -/
theorem analyze_run {manifest : Manifest} {order : HashOrder} {report : ValidationReport}
    (completed : manifest.validate order = .ok report) (accepted : report.isOk = true) {hz : UInt64}
    (rate : parseTickHz manifest.system.tickRate = some hz) :
    Analyze.run manifest order = .ok (.ok (analyse (manifest.tasks.map (timingOf hz)))) := by
  -- An accepted report has no errors, so the command goes on.
  have formed := (isOk_iff_wellFormed completed).mp accepted
  have clean : ¬report.errorCount > 0 := by
    have none_ : report.errorCount = 0 := by simpa [ValidationReport.isOk] using accepted
    omega
  rw [Analyze.run, completed, Machine.ok_bind, if_neg clean, analyze_parseTickHz rate, Machine.ok_bind]
  simp only [analyze_timings hz formed.timing, Machine.pure_eq_ok]

/-- A task set the analyser's assumptions hold of. -/
structure WellFormedTimings (timings : List TaskTiming) : Prop where
  names_distinct : (timings.map TaskTiming.name).Nodup
  priority_range : ∀ timing ∈ timings, 1 ≤ timing.priority ∧ timing.priority ≤ 31
  period_pos : ∀ timing ∈ timings, ∀ period ∈ timing.period, 1 ≤ period
  deadline_le_period : ∀ timing ∈ timings, ∀ period ∈ timing.period, ∀ deadline ∈ timing.deadline,
    deadline ≤ period
  wcet_le_deadline : ∀ timing ∈ timings, ∀ deadline ∈ timing.deadline, ∀ wcet ∈ timing.wcet,
    wcet ≤ deadline

/-- The timings of a well-formed manifest are a well-formed task set at every running tick rate. -/
theorem WellFormed.timings {manifest : Manifest} (formed : WellFormed manifest) {hz : UInt64}
    (running : hz ≠ 0) : WellFormedTimings (manifest.tasks.map (timingOf hz)) := by
  refine ⟨?_, ?_, ?_, ?_, ?_⟩
  · have same : (manifest.tasks.map (timingOf hz)).map TaskTiming.name
        = manifest.tasks.map Task.name := by
      rw [List.map_map]
      rfl
    rw [same]
    exact formed.task_names_distinct
  · intro timing listed
    obtain ⟨task, declared, rfl⟩ := List.mem_map.mp listed
    exact formed.priority_range task declared
  -- A nonzero period lasts at least one tick.
  · intro timing listed period given
    obtain ⟨task, declared, rfl⟩ := List.mem_map.mp listed
    obtain ⟨duration, held, rfl⟩ := Option.map_eq_some_iff.mp given
    exact Duration.toTicks_pos ((formed.timing task declared).period_ne_zero duration held) running
  -- Conversion keeps the order the validator checked in nanoseconds.
  · intro timing listed period given deadline due
    obtain ⟨task, declared, rfl⟩ := List.mem_map.mp listed
    obtain ⟨long, held, rfl⟩ := Option.map_eq_some_iff.mp given
    obtain ⟨short, held', rfl⟩ := Option.map_eq_some_iff.mp due
    exact Duration.toTicks_mono hz
      ((formed.timing task declared).deadline_le_period long held short held')
  · intro timing listed deadline due wcet cost
    obtain ⟨task, declared, rfl⟩ := List.mem_map.mp listed
    obtain ⟨long, held, rfl⟩ := Option.map_eq_some_iff.mp due
    obtain ⟨short, held', rfl⟩ := Option.map_eq_some_iff.mp cost
    exact Duration.toTicks_mono hz
      ((formed.timing task declared).wcet_le_deadline short held' long held)

/-- On a manifest the validator accepts the command cannot fail: both readings of the tick rate
agree on one running frequency, every field converts, and the analyser is given the timing of every
task in order, which is a task set of distinct names, priorities in range, nonzero periods, and
ordered deadlines and execution times. -/
theorem analyze_of_accepted {manifest : Manifest} {order : HashOrder} {report : ValidationReport}
    (completed : manifest.validate order = .ok report) (accepted : report.isOk = true) :
    ∃ hz timings, parseTickHz manifest.system.tickRate = some hz ∧ hz ≠ 0
      ∧ Analyze.parseTickHz manifest.system.tickRate = .ok (.ok hz)
      ∧ timings = manifest.tasks.map (timingOf hz)
      ∧ Analyze.timings hz manifest.tasks = .ok timings
      ∧ Analyze.run manifest order = .ok (.ok (analyse timings))
      ∧ WellFormedTimings timings := by
  -- Everything follows from the manifest being well formed.
  have formed := (isOk_iff_wellFormed completed).mp accepted
  obtain ⟨hz, rate, running⟩ := formed.exists_tickHz
  exact ⟨hz, manifest.tasks.map (timingOf hz), rate, running, analyze_parseTickHz rate, rfl,
    analyze_timings hz formed.timing, analyze_run completed accepted rate, formed.timings running⟩

/-- Two tasks and a clock that does not divide their times evenly. -/
def meteredLine : Manifest where
  system := ⟨"32768 Hz"⟩
  tasks := [⟨"meter", 9, "1KiB", some "1ms", some "900us", some "250us", []⟩,
    ⟨"display", 3, "2KiB", some "1s", none, some "30ms", []⟩]
  channels := []

/-- The metered line is accepted, so the command analyses it. -/
theorem meteredLine_analyzed :
    ∃ hz timings, parseTickHz meteredLine.system.tickRate = some hz ∧ hz ≠ 0
      ∧ Analyze.parseTickHz meteredLine.system.tickRate = .ok (.ok hz)
      ∧ timings = meteredLine.tasks.map (timingOf hz)
      ∧ Analyze.timings hz meteredLine.tasks = .ok timings
      ∧ Analyze.run meteredLine .insertion = .ok (.ok (analyse timings))
      ∧ WellFormedTimings timings := by
  -- The line validates without an error.
  obtain ⟨report, completed, accepted⟩ := exists_report_isOk
    (show (meteredLine.validate .insertion).map ValidationReport.isOk = .ok true by decide)
  exact analyze_of_accepted completed accepted

end Malleus
