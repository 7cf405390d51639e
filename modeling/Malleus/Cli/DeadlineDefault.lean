import Malleus.Analyzer.Interference
import Malleus.Cli.Handoff
import Malleus.Manifest.Deadlines

/-! An omitted deadline against one equal to the period: verdicts agree, findings may not. -/

namespace Malleus

open Machine

/-- A task with a deadline written out. -/
def Task.withDeadline (task : Task) (text : String) : Task := { task with deadline := some text }

/-- A timing whose deadline is the one the analyser checks. -/
def TaskTiming.defaulted (timing : TaskTiming) : TaskTiming :=
  { timing with deadline := timing.effectiveDeadline }

/-- The interferers of a task read no deadline. -/
theorem interferers_defaulted (timing : TaskTiming) (all : List TaskTiming) :
    interferers timing.defaulted (all.map TaskTiming.defaulted) = interferers timing all := by
  -- Names, priorities, periods and execution times are all it reads.
  induction all with
  | nil => rfl
  | cons other rest same =>
    simp only [List.map_cons, interferers, same]
    rfl

/-- The analyser applies the default itself, so writing it out changes no verdict. -/
theorem verdictFor_defaulted (timing : TaskTiming) (all : List TaskTiming) :
    verdictFor timing.defaulted (all.map TaskTiming.defaulted) = verdictFor timing all := by
  -- Applying the default a second time changes nothing.
  have twice : (timing.deadline.or timing.period).or timing.period
      = timing.deadline.or timing.period := by
    cases timing.deadline <;> cases timing.period <;> rfl
  simp only [verdictFor, interferers_defaulted]
  simp only [TaskTiming.defaulted, TaskTiming.effectiveDeadline, twice]
  rfl

/-- Task sets that agree once the default is written out have the same verdicts. -/
theorem verdicts_congr {timings others : List TaskTiming}
    (same : others.map TaskTiming.defaulted = timings.map TaskTiming.defaulted) :
    (analyse others).verdicts = (analyse timings).verdicts := by
  -- A verdict depends on the timings with their defaults only.
  have written : ∀ all : List TaskTiming, (analyse all).verdicts
      = (all.map TaskTiming.defaulted).map fun timing =>
        (timing.name, verdictFor timing (all.map TaskTiming.defaulted)) := by
    intro all
    rw [analyse, List.map_map]
    apply List.map_congr_left
    intro timing _
    simp only [Function.comp_apply, verdictFor_defaulted]
    rfl
  rw [written, written, same]

section Written

variable {task : Task} {text : String} {period : Duration}

/-- Writing out a task's default deadline keeps its timing, once the default is applied. -/
theorem timing_withDeadline (undeclared : task.deadline = none)
    (timed : readDuration task.period = some period) (equal : readDuration (some text) = some period)
    (hz : UInt64) :
    (Analyze.timing hz (task.withDeadline text)).map TaskTiming.defaulted
      = (Analyze.timing hz task).map TaskTiming.defaulted := by
  have repeats : Analyze.toTicks task.period hz = .ok (some (period.toTicks hz)) := by
    rw [analyze_toTicks hz fun _ => by rw [timed]; rfl, ticksOf, timed]
    rfl
  have due : Analyze.toTicks (some text) hz = .ok (some (period.toTicks hz)) := by
    rw [analyze_toTicks hz fun _ => by rw [equal]; rfl, ticksOf, equal]
    rfl
  simp only [Analyze.timing, undeclared, Task.withDeadline, repeats, due]
  -- An execution time that cannot be converted stops both conversions alike.
  cases Analyze.toTicks task.wcet hz with
  | error error => rfl
  | ok wcet => rfl

/-- Writing out one task's default deadline keeps all timings, once the default is applied. -/
theorem timings_withDeadline (undeclared : task.deadline = none)
    (timed : readDuration task.period = some period) (equal : readDuration (some text) = some period)
    (hz : UInt64) (before after : List Task) :
    (Analyze.timings hz (before ++ task.withDeadline text :: after)).map
        (List.map TaskTiming.defaulted)
      = (Analyze.timings hz (before ++ task :: after)).map (List.map TaskTiming.defaulted) := by
  -- Converting one more task first keeps the agreement of what follows.
  have step : ∀ {first second : Except ParseUnitError TaskTiming}
      {rest others : Except ParseUnitError (List TaskTiming)},
      first.map TaskTiming.defaulted = second.map TaskTiming.defaulted →
      rest.map (List.map TaskTiming.defaulted) = others.map (List.map TaskTiming.defaulted) →
      (do let head ← first; let tail ← rest; return head :: tail).map (List.map TaskTiming.defaulted)
        = (do let head ← second; let tail ← others; return head :: tail).map
          (List.map TaskTiming.defaulted) := by
    intro first second rest others heads tails
    cases first <;> cases second <;> cases rest <;> cases others <;>
      simp_all [Except.map, bind, Except.bind, pure, Except.pure]
  induction before with
  | nil => exact step (timing_withDeadline undeclared timed equal hz) rfl
  | cons head front same => exact step rfl same

/-- The verdicts on some tasks at a tick rate, if all of their fields convert. -/
def verdictsAt (hz : UInt64) (tasks : List Task) :
    Except ParseUnitError (List (String × Verdict)) :=
  (Analyze.timings hz tasks).map fun timings => (analyse timings).verdicts

/-- Writing out one task's default deadline changes no verdict at any tick rate. -/
theorem verdictsAt_withDeadline (undeclared : task.deadline = none)
    (timed : readDuration task.period = some period) (equal : readDuration (some text) = some period)
    (hz : UInt64) (before after : List Task) :
    verdictsAt hz (before ++ task.withDeadline text :: after)
      = verdictsAt hz (before ++ task :: after) := by
  -- Both lists fail to convert with the same error, or both convert.
  have same := timings_withDeadline undeclared timed equal hz before after
  simp only [verdictsAt]
  cases written : Analyze.timings hz (before ++ task.withDeadline text :: after) with
  | error error =>
    cases omitted : Analyze.timings hz (before ++ task :: after) with
    | error other => simpa [written, omitted, Except.map] using same
    | ok timings => simp [written, omitted, Except.map] at same
  | ok others =>
    cases omitted : Analyze.timings hz (before ++ task :: after) with
    | error other => simp [written, omitted, Except.map] at same
    | ok timings =>
      have equal : others.map TaskTiming.defaulted = timings.map TaskTiming.defaulted := by
        simpa [written, omitted, Except.map] using same
      exact congrArg Except.ok (verdicts_congr equal)

/-- One task of a list replaced by a task of the same name, for which a report may newly hold: the
names reported stay the same if it does not hold, or is reported under that name already. -/
theorem named_replace_iff (reported : Task → Prop) {task written : Task} (before after : List Task)
    (same : written.name = task.name) (silent : ¬reported task) :
    (∀ name, (∃ entry ∈ before ++ written :: after, reported entry ∧ entry.name = name)
        ↔ ∃ entry ∈ before ++ task :: after, reported entry ∧ entry.name = name)
      ↔ (reported written →
        ∃ other ∈ before ++ after, reported other ∧ other.name = task.name) := by
  -- A reported name is the name of the replaced task, or of another one.
  have others : ∀ (entry : Task) (name : String),
      (∃ other ∈ before ++ entry :: after, reported other ∧ other.name = name)
        ↔ (reported entry ∧ entry.name = name)
          ∨ ∃ other ∈ before ++ after, reported other ∧ other.name = name := by
    intro entry name
    simp only [List.mem_append, List.mem_cons, or_and_right, exists_or, exists_eq_left]
    apply iff_of_eq
    ac_rfl
  simp only [others, silent, false_and, false_or, or_iff_right_iff_imp, and_imp, same]
  constructor
  · intro covered found
    exact covered task.name found rfl
  · intro covered name found named
    subst named
    exact covered found

/-- A text joins the names of another level. -/
def JoinsOtherLevel (tasks : List Task) (priority : UInt8) (text : String) : Prop :=
  ∃ level ≠ priority, JoinsLevel tasks level text

/-- The names of a level, and those names with the task's own among them. -/
def levelText (priority : UInt8) (tasks : List Task) : String :=
  String.intercalate ", " (deadlineNames priority tasks)

/-- A task that declares no deadline joins no level. -/
theorem deadlineNames_undeclared {task : Task} (undeclared : task.deadline = none) (level : UInt8)
    (before after : List Task) :
    deadlineNames level (before ++ task :: after) = deadlineNames level (before ++ after) := by
  simp [deadlineNames, undeclared]

/-- A task that writes its default out joins the level of its priority, and no other. -/
theorem deadlineNames_withDeadline (task : Task) (text : String) (level : UInt8)
    (before after : List Task) :
    deadlineNames level (before ++ task.withDeadline text :: after)
      = if task.priority = level then
          deadlineNames level before ++ task.name :: deadlineNames level after
        else deadlineNames level (before ++ after) := by
  by_cases own : task.priority = level <;> simp [deadlineNames, Task.withDeadline, own]

/-- Joining a level changes no level's text exactly when the level stays a level of one, or its
texts with and without the task are texts of other levels too. -/
theorem levels_withDeadline_iff (undeclared : task.deadline = none) (text : String)
    (before after : List Task) :
    (∀ names, (∃ level, JoinsLevel (before ++ task.withDeadline text :: after) level names)
        ↔ ∃ level, JoinsLevel (before ++ task :: after) level names)
      ↔ (deadlineNames task.priority (before ++ after) ≠ [] →
        JoinsOtherLevel (before ++ after) task.priority
            (levelText task.priority (before ++ task.withDeadline text :: after))
          ∧ (1 < (deadlineNames task.priority (before ++ after)).length →
            JoinsOtherLevel (before ++ after) task.priority
              (levelText task.priority (before ++ after)))) := by
  -- A text of the list is the text of the task's own level, if that is shared, or of another.
  have own_or_other : ∀ (tasks : List Task),
      (∀ level ≠ task.priority, deadlineNames level tasks = deadlineNames level (before ++ after)) →
      ∀ text, (∃ level, JoinsLevel tasks level text)
        ↔ (1 < (deadlineNames task.priority tasks).length ∧ text = levelText task.priority tasks)
          ∨ JoinsOtherLevel (before ++ after) task.priority text := by
    intro tasks unchanged text
    constructor
    · intro joined
      obtain ⟨level, shared, written⟩ := joined
      by_cases own : level = task.priority
      · subst own
        exact .inl ⟨shared, written⟩
      · rw [unchanged level own] at shared written
        exact .inr ⟨level, own, shared, written⟩
    · intro joined
      cases joined with
      | inl own => exact ⟨task.priority, own⟩
      | inr other =>
        obtain ⟨level, apart, shared, written⟩ := other
        refine ⟨level, ?_⟩
        rw [JoinsLevel, unchanged level apart]
        exact ⟨shared, written⟩
  have omitted := own_or_other (before ++ task :: after)
    fun level _ => deadlineNames_undeclared undeclared level before after
  have written := own_or_other (before ++ task.withDeadline text :: after) fun level apart => by
    rw [deadlineNames_withDeadline task text, if_neg (Ne.symm apart)]
  have joined := deadlineNames_withDeadline task text task.priority before after
  rw [if_pos rfl] at joined
  have longer : (deadlineNames task.priority (before ++ task.withDeadline text :: after)).length
      = (deadlineNames task.priority (before ++ after)).length + 1 := by
    rw [joined, deadlineNames_append, List.length_append, List.length_append, List.length_cons]
    omega
  simp only [omitted, written, longer, deadlineNames_undeclared undeclared, levelText]
  constructor
  · intro same several
    -- The text with the task in it is not the text without.
    have differ : String.intercalate ", " (deadlineNames task.priority (before ++ task.withDeadline text :: after))
        ≠ String.intercalate ", " (deadlineNames task.priority (before ++ after)) := by
      rw [deadlineNames_append] at several
      rw [joined, deadlineNames_append]
      exact intercalate_ne_insert task.name several
    have present := List.length_pos_iff.mpr several
    refine ⟨?_, ?_⟩
    · cases (same _).mp (.inl ⟨by omega, rfl⟩) with
      | inl own => exact absurd own.2 differ
      | inr other => exact other
    · intro shared
      cases (same _).mpr (.inl ⟨shared, rfl⟩) with
      | inl own => exact absurd own.2.symm differ
      | inr other => exact other
  · intro covered names
    by_cases alone : deadlineNames task.priority (before ++ after) = []
    · simp [alone]
    -- Both texts of the level are texts of other levels already.
    · obtain ⟨with_, without⟩ := covered alone
      refine ⟨?_, ?_⟩
      · intro raised
        cases raised with
        | inl own => exact .inr (own.2 ▸ with_)
        | inr other => exact .inr other
      · intro raised
        cases raised with
        | inl own => exact .inr (own.2 ▸ without own.1)
        | inr other => exact .inr other

/-- The rest of a task's timing findings do not see its default written out. -/
theorem timingRest_withDeadline (undeclared : task.deadline = none)
    (timed : readDuration task.period = some period) (equal : readDuration (some text) = some period)
    (tickRate : String) (tickHz : Option UInt64) :
    timingRest tickRate tickHz (task.withDeadline text) = timingRest tickRate tickHz task := by
  have parses : (parseDuration (some text) task.name "deadline").2 = [] := by
    rw [readDuration, Option.bind_some] at equal
    cases shown : Duration.fromStr text with
    | ok duration => simp only [parseDuration, shown]
    | error error => simp [shown, Except.toOption] at equal
  -- The period is no longer than itself.
  have within : checkDeadline task.name ((readDuration task.period).filter (·.nanos ≠ 0))
      (readDuration (some text)) = [] := by
    rw [timed, equal]
    by_cases zero : period.nanos = 0 <;> simp [Option.filter, zero, checkDeadline, reportIf]
  have absent : checkDeadline task.name ((readDuration task.period).filter (·.nanos ≠ 0)) none = [] := by
    cases (readDuration task.period).filter (·.nanos ≠ 0) <;> rfl
  have undated : readDuration none = none := rfl
  have silent : (parseDuration none task.name "deadline").2 = [] := rfl
  simp only [timingRest, Task.withDeadline, undeclared, parses, within, undated, silent, absent]

end Written

/-- What a manifest comes to: whether validation returns, and if it does whether the manifest is fine
and the keys of its findings; and the verdicts on its tasks at any tick rate. -/
structure SameOutcome (first second : HashOrder) (manifest written : Manifest) : Prop where
  returns : (∃ other, written.validate second = .ok other)
    ↔ ∃ report, manifest.validate first = .ok report
  isOk : ∀ report other, manifest.validate first = .ok report → written.validate second = .ok other →
    other.isOk = report.isOk
  keys : ∀ report other, manifest.validate first = .ok report → written.validate second = .ok other →
    ∀ key, Raises other.diagnostics key ↔ Raises report.diagnostics key
  verdicts : ∀ hz, verdictsAt hz written.tasks = verdictsAt hz manifest.tasks

/-- A default deadline that, written out, gives the checks that read it nothing new to find. -/
structure DefaultHarmless (before after : List Task) (task : Task) (text : String) : Prop where
  -- The execution time is given, or another task of its name is reported for the lack of one.
  measured : task.wcet.isNone → ∃ other ∈ before ++ after, Unmeasured other ∧ other.name = task.name
  -- It fits the period, or another task of its name is reported for not fitting its deadline.
  feasible : (∃ cost ∈ readDuration task.wcet, ∃ period ∈ readDuration task.period,
      period.nanos < cost.nanos) →
    ∃ other ∈ before ++ after, Overruns other ∧ other.name = task.name
  -- No task of its priority declares a deadline, or other levels are reported in the same words.
  unshared : deadlineNames task.priority (before ++ after) ≠ [] →
    JoinsOtherLevel (before ++ after) task.priority
        (levelText task.priority (before ++ task.withDeadline text :: after))
      ∧ (1 < (deadlineNames task.priority (before ++ after)).length →
        JoinsOtherLevel (before ++ after) task.priority (levelText task.priority (before ++ after)))

/-- Two completed reports, without and with the deadline, have the same keys exactly when it is
harmless. -/
theorem keys_withDeadline_iff {manifest : Manifest} {before after : List Task} {task : Task}
    {period : Duration} {text : String} {first second : HashOrder} {report other : ValidationReport}
    (split : manifest.tasks = before ++ task :: after) (undeclared : task.deadline = none)
    (timed : readDuration task.period = some period) (equal : readDuration (some text) = some period)
    (completed : manifest.validate first = .ok report)
    (completed' : { manifest with tasks := before ++ task.withDeadline text :: after }.validate second
      = .ok other) :
    (∀ key, Raises other.diagnostics key ↔ Raises report.diagnostics key)
      ↔ DefaultHarmless before after task text := by
  -- Without deadlines the two manifests are the same.
  have erased : { manifest with tasks := before ++ task.withDeadline text :: after }.eraseDeadlines
      = manifest.eraseDeadlines := by
    simp only [Manifest.eraseDeadlines, split, List.map_append, List.map_cons]
    rfl
  have rest : ∀ key,
      (∃ entry ∈ before ++ task.withDeadline text :: after,
        Raises (timingRest manifest.system.tickRate (parseTickHz manifest.system.tickRate) entry) key)
      ↔ ∃ entry ∈ manifest.tasks,
        Raises (timingRest manifest.system.tickRate (parseTickHz manifest.system.tickRate) entry) key := by
    intro key
    simp only [split, List.mem_append, List.mem_cons, or_and_right, exists_or, exists_eq_left,
      timingRest_withDeadline undeclared timed equal]
  -- The deadline written out is the period.
  have overruns : Overruns (task.withDeadline text)
      ↔ ∃ cost ∈ readDuration task.wcet, ∃ limit ∈ readDuration task.period,
        limit.nanos < cost.nanos := by
    rw [Overruns, Task.withDeadline, equal, timed]
  have unmeasured : Unmeasured (task.withDeadline text) ↔ task.wcet.isNone := by
    simp [Unmeasured, Task.withDeadline]
  have unbounded : ¬Overruns task := by
    simp [Overruns, undeclared, readDuration]
  have undated : ¬Unmeasured task := by
    simp [Unmeasured, undeclared]
  have sameName : (task.withDeadline text).name = task.name := rfl
  -- What remains are the three findings that need a deadline.
  rw [same_keys_iff completed completed' erased rest, split]
  dsimp only
  rw [levels_withDeadline_iff undeclared, named_replace_iff Overruns before after sameName unbounded,
    named_replace_iff Unmeasured before after sameName undated, overruns, unmeasured]
  constructor
  · intro agree
    obtain ⟨unshared, feasible, measured⟩ := agree
    exact ⟨measured, feasible, unshared⟩
  · intro harmless
    exact ⟨harmless.unshared, harmless.feasible, harmless.measured⟩

/-- Writing out the default deadline of a task with a valid period changes nothing exactly when
validation aborts anyway, or the three checks that read the declared deadline find nothing new. -/
theorem sameOutcome_iff {manifest : Manifest} {before after : List Task} {task : Task}
    {period : Duration} {text : String} (first second : HashOrder)
    (split : manifest.tasks = before ++ task :: after) (undeclared : task.deadline = none)
    (timed : readDuration task.period = some period) (equal : readDuration (some text) = some period) :
    SameOutcome first second manifest
        { manifest with tasks := before ++ task.withDeadline text :: after }
      ↔ ((∀ entry ∈ manifest.tasks, RoundableStack entry)
        → DefaultHarmless before after task text) := by
  -- The deadline is not part of the stack.
  have bounded : (∀ entry ∈ before ++ task.withDeadline text :: after, RoundableStack entry)
      ↔ ∀ entry ∈ manifest.tasks, RoundableStack entry := by
    simp only [split, List.forall_mem_append, List.forall_mem_cons]
    rfl
  constructor
  · intro same roundable
    obtain ⟨report, completed⟩ := Manifest.validate_returns first roundable
    obtain ⟨other, completed'⟩ := same.returns.mpr ⟨report, completed⟩
    exact (keys_withDeadline_iff split undeclared timed equal completed completed').mp
      (same.keys report other completed completed')
  · intro harmless
    have keys : ∀ report other, manifest.validate first = .ok report →
        { manifest with tasks := before ++ task.withDeadline text :: after }.validate second
          = .ok other →
        ∀ key, Raises other.diagnostics key ↔ Raises report.diagnostics key :=
      fun report other completed completed' =>
        (keys_withDeadline_iff split undeclared timed equal completed completed').mpr
          (harmless (Manifest.roundable_of_validate completed))
    refine ⟨?_, ?_, keys, ?_⟩
    · constructor
      · intro returned
        obtain ⟨other, completed⟩ := returned
        exact Manifest.validate_returns first
          (bounded.mp (Manifest.roundable_of_validate completed))
      · intro returned
        obtain ⟨report, completed⟩ := returned
        exact Manifest.validate_returns second
          (bounded.mpr (Manifest.roundable_of_validate completed))
    -- Whether a report is fine is decided by its keys.
    · intro report other completed completed'
      rw [Bool.eq_iff_iff, ValidationReport.isOk_iff, ValidationReport.isOk_iff]
      exact errorFree_congr (keys report other completed completed')
    · intro hz
      rw [split]
      exact verdictsAt_withDeadline undeclared timed equal hz before after

/-- A control loop whose execution time fits the period it repeats with. -/
def controlLoop : Task := ⟨"control-loop", 9, "2KiB", some "1ms", none, some "250us", []⟩

/-- A logger with a deadline of its own, on a lower level. -/
def eventLogger : Task := ⟨"event-logger", 3, "1KiB", some "1s", some "500ms", some "40ms", []⟩

/-- Writing the control loop's deadline out, in another unit, changes nothing. -/
theorem controlLoop_same : SameOutcome .insertion .insertion
    ⟨⟨"1MHz"⟩, [eventLogger, controlLoop], []⟩
    ⟨⟨"1MHz"⟩, [eventLogger, controlLoop.withDeadline "1000us"], []⟩ := by
  -- The loop is measured, fits its period and is alone on its level.
  have timed : readDuration controlLoop.period = some ⟨1000000⟩ := by decide
  have cost : readDuration controlLoop.wcet = some ⟨250000⟩ := by decide
  have split : (⟨⟨"1MHz"⟩, [eventLogger, controlLoop], []⟩ : Manifest).tasks
      = [eventLogger] ++ controlLoop :: [] := rfl
  refine (sameOutcome_iff .insertion .insertion split rfl timed (by decide)).mpr fun _ => ⟨?_, ?_, ?_⟩
  · intro unmeasured
    cases unmeasured
  · simp [timed, cost]
  · intro shared
    exact absurd (by decide) shared

/-- A motor loop that needs twice its period. -/
def overloadedMotor : Task := ⟨"motor", 9, "2KiB", some "1ms", none, some "2ms", []⟩

/-- The motor loop is accepted while its deadline is omitted, and refused once the deadline it already
has is written out. -/
theorem overloadedMotor_slips_through :
    ((⟨⟨"1MHz"⟩, [overloadedMotor], []⟩ : Manifest).validate .insertion).map ValidationReport.isOk
        = .ok true
      ∧ ((⟨⟨"1MHz"⟩, [overloadedMotor.withDeadline "1ms"], []⟩ : Manifest).validate .insertion).map
        ValidationReport.isOk = .ok false
      ∧ ¬SameOutcome .insertion .insertion ⟨⟨"1MHz"⟩, [overloadedMotor], []⟩
        ⟨⟨"1MHz"⟩, [overloadedMotor.withDeadline "1ms"], []⟩ := by
  have omitted : ((⟨⟨"1MHz"⟩, [overloadedMotor], []⟩ : Manifest).validate .insertion).map
      ValidationReport.isOk = .ok true := by decide
  have written : ((⟨⟨"1MHz"⟩, [overloadedMotor.withDeadline "1ms"], []⟩ : Manifest).validate
      .insertion).map ValidationReport.isOk = .ok false := by decide
  refine ⟨omitted, written, ?_⟩
  intro same
  -- One run is fine and the other is not.
  obtain ⟨report, completed, accepted⟩ := exists_report_isOk omitted
  obtain ⟨other, completed', refused⟩ := exists_report_isOk written
  have agree := same.isOk report other completed completed'
  rw [accepted, refused] at agree
  cases agree

end Malleus
