import Malleus.Analyzer.Isolation
import Malleus.Analyzer.Reasons
import Malleus.Cli.RealTime
import Malleus.Manifest.Deadlines

/-! What the analysis leaves unknown, read off the manifest: each reason against its missing field. -/

namespace Malleus

open Machine

/-- Why the analysis of an accepted manifest has no number for a task. -/
inductive Unanswered (hz : UInt64) (manifest : Manifest) (task : Task) : String → Prop
  | noWcet (uncosted : task.wcet = none) : Unanswered hz manifest task Reason.noWcet
  | noContract (costed : task.wcet ≠ none) (unlimited : task.deadline = none)
      (aperiodic : task.period = none) : Unanswered hz manifest task Reason.noContract
  | noPeriod (costed : task.wcet ≠ none) (limited : task.deadline ≠ none)
      (aperiodic : task.period = none) : Unanswered hz manifest task Reason.noPeriod
  | undeclared (costed : task.wcet ≠ none) (periodic : task.period ≠ none) {other : Task}
      (listed : other ∈ manifest.tasks) (urgent : task.priority < other.priority)
      (gap : other.period = none ∨ other.wcet = none) :
      Unanswered hz manifest task Reason.undeclared
  | noConvergence (costed : task.wcet ≠ none) (periodic : task.period ≠ none)
      (declared : ∀ other ∈ manifest.tasks, task.priority < other.priority →
        other.period ≠ none ∧ other.wcet ≠ none)
      (unsettled : ¬Settles (timingOf hz task).searchBase
        ((timingOf hz task).effectiveDeadline.getD 0)
        ((moreUrgent (timingOf hz task) (analysedTasks hz manifest)).map TaskTiming.times)
        maxIterations (timingOf hz task).searchBase.toNat) :
      Unanswered hz manifest task Reason.noConvergence

variable {manifest : Manifest} {hz : UInt64} {task : Task}

/-- Only a task without an execution time is told to measure it. -/
theorem Unanswered.uncosted {reason : String} (why : Unanswered hz manifest task reason)
    (told : reason = Reason.noWcet) : task.wcet = none := by
  -- Every other reason has a text of its own.
  cases why with
  | noWcet uncosted => exact uncosted
  | noContract _ _ _ => exact absurd told (by decide)
  | noPeriod _ _ _ => exact absurd told (by decide)
  | undeclared _ _ _ _ _ => exact absurd told (by decide)
  | noConvergence _ _ _ _ => exact absurd told (by decide)

/-- An analysis has unknowns if some verdict of it is one. -/
theorem hasUnknowns_iff {tasks : List TaskTiming} :
    (analyse tasks).hasUnknowns = true
      ↔ ∃ timing ∈ tasks, ∃ reason, verdictFor timing tasks = .unknown reason := by
  simp only [Analysis.hasUnknowns, analyse, List.any_map, List.any_eq_true, Function.comp_apply]
  refine exists_congr fun timing => and_congr_right fun _ => ?_
  cases verdictFor timing tasks <;> simp

/-- A field that parses has ticks exactly if it is given. -/
theorem ticksOf_eq_none {text : Option String} (parses : text.isSome → (readDuration text).isSome) :
    ticksOf hz text = none ↔ text = none := by
  rw [ticksOf, Option.map_eq_none_iff]
  cases text with
  | none => simp [readDuration]
  | some text => simpa using Option.isSome_iff_ne_none.mp (parses rfl)

/-- The analyser misses exactly the fields that the manifest leaves out. -/
theorem missing_timingOf_iff (hz : UInt64) (sound : SoundTiming task) :
    ((timingOf hz task).period = none ↔ task.period = none)
      ∧ ((timingOf hz task).deadline = none ↔ task.deadline = none)
      ∧ ((timingOf hz task).wcet = none ↔ task.wcet = none) :=
  ⟨ticksOf_eq_none sound.period_parses, ticksOf_eq_none sound.deadline_parses,
    ticksOf_eq_none sound.wcet_parses⟩

/-- A task of an accepted manifest that cannot be charged leaves its period or its cost out. -/
theorem unchargeable_timingOf_iff (formed : WellFormed manifest) (running : hz ≠ 0)
    (listed : task ∈ manifest.tasks) {reason : String} :
    Unchargeable (timingOf hz task) reason
      ↔ reason = Reason.undeclared ∧ (task.period = none ∨ task.wcet = none) := by
  have present : timingOf hz task ∈ manifest.tasks.map (timingOf hz) := List.mem_map_of_mem listed
  -- An accepted period lasts at least one tick, so it is never the zero the scan looks for.
  have finite : (timingOf hz task).period ≠ some 0 := fun zero =>
    absurd ((formed.timings running).period_pos _ present 0 zero) (by decide)
  obtain ⟨period, -, wcet⟩ := missing_timingOf_iff hz (formed.timing task listed)
  constructor
  · intro why
    cases why with
    | unbounded zero => exact absurd zero finite
    | missing _ gap => exact ⟨rfl, gap.imp period.mp wcet.mp⟩
  · intro why
    obtain ⟨rfl, gap⟩ := why
    exact .missing finite (gap.imp period.mpr wcet.mpr)

/-- What can preempt a task is what its manifest declares above it. -/
theorem mem_preempters_timingOf (formed : WellFormed manifest) (running : hz ≠ 0)
    (listed : task ∈ manifest.tasks) {timing : TaskTiming} :
    timing ∈ preempters (timingOf hz task) (analysedTasks hz manifest)
      ↔ ∃ other ∈ manifest.tasks, task.priority < other.priority ∧ timingOf hz other = timing := by
  -- Accepted names are distinct, so a task is told from its interferers by priority alone.
  have distinct : ((analysedTasks hz manifest).map TaskTiming.name).Nodup :=
    (formed.timings running).names_distinct
  rw [preempters_eq_moreUrgent distinct (List.mem_map_of_mem listed), mem_moreUrgent]
  constructor
  · intro member
    obtain ⟨other, declared, rfl⟩ := List.mem_map.mp member.1
    exact ⟨other, declared, member.2, rfl⟩
  · intro member
    obtain ⟨other, declared, urgent, rfl⟩ := member
    exact ⟨List.mem_map_of_mem declared, urgent⟩

/-- Everything above a task is charged exactly if all of it declares its period and its cost. -/
theorem declared_above_iff (formed : WellFormed manifest) (running : hz ≠ 0)
    (listed : task ∈ manifest.tasks) :
    (∀ timing ∈ preempters (timingOf hz task) (analysedTasks hz manifest), timing.Declared)
      ↔ ∀ other ∈ manifest.tasks, task.priority < other.priority →
        other.period ≠ none ∧ other.wcet ≠ none := by
  -- A conversion to ticks adds and drops no field, so a task has its gaps in the manifest already.
  have single : ∀ other ∈ manifest.tasks,
      (timingOf hz other).Declared ↔ other.period ≠ none ∧ other.wcet ≠ none := by
    intro other declared
    rw [← not_or, ← not_iff_not, not_not]
    constructor
    · intro undeclared
      obtain ⟨_, why⟩ := exists_unchargeable undeclared
      exact ((unchargeable_timingOf_iff formed running declared).mp why).2
    · exact fun gap => ((unchargeable_timingOf_iff formed running declared).mpr ⟨rfl, gap⟩).not_declared
  constructor
  · intro charged other declared urgent
    exact (single other declared).mp
      (charged _ ((mem_preempters_timingOf formed running listed).mpr ⟨other, declared, urgent, rfl⟩))
  · intro complete timing member
    obtain ⟨other, declared, urgent, rfl⟩ := (mem_preempters_timingOf formed running listed).mp member
    exact (single other declared).mpr (complete other declared urgent)

/-- On an accepted manifest the analyser withholds a number for a reason the manifest shows. -/
theorem withheld_timingOf_iff (formed : WellFormed manifest) (running : hz ≠ 0)
    (listed : task ∈ manifest.tasks) {reason : String} :
    Withheld (timingOf hz task) (analysedTasks hz manifest) reason
      ↔ Unanswered hz manifest task reason := by
  obtain ⟨period, deadline, wcet⟩ := missing_timingOf_iff hz (formed.timing task listed)
  have urgent : preempters (timingOf hz task) (analysedTasks hz manifest)
      = moreUrgent (timingOf hz task) (analysedTasks hz manifest) :=
    preempters_eq_moreUrgent (formed.timings running).names_distinct (List.mem_map_of_mem listed)
  have declaredAbove := declared_above_iff formed running listed
  constructor
  · intro withheld
    cases withheld with
    | noWcet uncosted => exact .noWcet (wcet.mp uncosted)
    | noContract costed unlimited aperiodic =>
      exact .noContract (mt wcet.mpr costed) (deadline.mp unlimited) (period.mp aperiodic)
    | noPeriod costed limited aperiodic =>
      exact .noPeriod (mt wcet.mpr costed) (mt deadline.mpr limited) (period.mp aperiodic)
    -- The first entry that cannot be charged is some task above, with a gap of its own.
    | @uncharged costed periodic before after timing _ first _ why =>
      have member := List.mem_append_right before (@List.mem_cons_self _ timing after)
      rw [← first, mem_preempters_timingOf formed running listed] at member
      obtain ⟨other, declared, above, rfl⟩ := member
      obtain ⟨rfl, gap⟩ := (unchargeable_timingOf_iff formed running declared).mp why
      exact .undeclared (mt wcet.mpr costed) (mt period.mpr periodic) declared above gap
    | noConvergence costed periodic declared unsettled =>
      rw [urgent] at unsettled
      exact .noConvergence (mt wcet.mpr costed) (mt period.mpr periodic) (declaredAbove.mp declared)
        unsettled
  · intro unanswered
    cases unanswered with
    | noWcet uncosted => exact .noWcet (wcet.mpr uncosted)
    | noContract costed unlimited aperiodic =>
      exact .noContract (mt wcet.mp costed) (deadline.mpr unlimited) (period.mpr aperiodic)
    | noPeriod costed limited aperiodic =>
      exact .noPeriod (mt wcet.mp costed) (mt deadline.mp limited) (period.mpr aperiodic)
    | undeclared costed periodic declared above gap =>
      -- The scan stops at some gap, and every gap has the same reason.
      cases scanned : interferers (timingOf hz task) (analysedTasks hz manifest) with
      | ok preempting =>
        have complete := declaredAbove.mp (interferers_eq_ok.mp scanned).1 _ declared above
        rcases gap with aperiodic | uncosted
        · exact absurd aperiodic complete.1
        · exact absurd uncosted complete.2
      | error why =>
        obtain ⟨before, timing, after, first, earlier, because⟩ := interferers_eq_error.mp scanned
        have member := List.mem_append_right before (@List.mem_cons_self _ timing after)
        rw [← first, mem_preempters_timingOf formed running listed] at member
        obtain ⟨other, declared, -, rfl⟩ := member
        obtain ⟨rfl, -⟩ := (unchargeable_timingOf_iff formed running declared).mp because
        exact .uncharged (mt wcet.mp costed) (mt period.mp periodic) first earlier because
    | noConvergence costed periodic complete unsettled =>
      rw [← urgent] at unsettled
      exact .noConvergence (mt wcet.mp costed) (mt period.mp periodic) (declaredAbove.mpr complete)
        unsettled

/--
The report gives every task without a number the one reason its manifest shows.

A period of zero is never given as a reason, the order of the tasks does not enter it, and the
validator's warning of an unmeasured deadline is borne out by the verdict it announces.
-/
theorem analyze_explains_unknowns {order : HashOrder} {report : ValidationReport}
    (completed : manifest.validate order = .ok report) (accepted : report.isOk = true)
    (rate : parseTickHz manifest.system.tickRate = some hz) :
    ∃ analysis, Analyze.run manifest order = .ok (.ok analysis)
      ∧ (analysis.hasUnknowns = true
        ↔ ∃ task ∈ manifest.tasks, ∃ reason, Unanswered hz manifest task reason)
      ∧ ∀ task ∈ manifest.tasks,
        (∀ reason, (task.name, .unknown reason) ∈ analysis.verdicts
          ↔ Unanswered hz manifest task reason)
        ∧ (Raises report.diagnostics (.warning, "M0008", task.name)
          ↔ task.deadline ≠ none ∧ (task.name, .unknown Reason.noWcet) ∈ analysis.verdicts) := by
  have formed := (isOk_iff_wellFormed completed).mp accepted
  have running := formed.running rate
  have distinct := (formed.timings running).names_distinct
  have entry : ∀ task ∈ manifest.tasks, ∀ reason,
      (task.name, .unknown reason) ∈ (analyse (analysedTasks hz manifest)).verdicts
        ↔ Unanswered hz manifest task reason := by
    intro task listed reason
    rw [← withheld_timingOf_iff formed running listed, ← verdictFor_eq_unknown_iff, @eq_comm Verdict]
    exact mem_verdicts_iff distinct (List.mem_map_of_mem listed)
  -- Names are distinct, so an entry of the report belongs to one task.
  refine ⟨analyse (analysedTasks hz manifest), analyze_run completed accepted rate, ?_, ?_⟩
  · rw [hasUnknowns_iff]
    constructor
    · intro unknown
      obtain ⟨timing, member, reason, given⟩ := unknown
      obtain ⟨task, listed, rfl⟩ := List.mem_map.mp member
      exact ⟨task, listed, reason, (entry task listed reason).mp
        ((mem_verdicts_iff distinct member).mpr given.symm)⟩
    · intro unanswered
      obtain ⟨task, listed, reason, why⟩ := unanswered
      have member : timingOf hz task ∈ analysedTasks hz manifest := List.mem_map_of_mem listed
      exact ⟨_, member, reason, ((mem_verdicts_iff distinct member).mp
        ((entry task listed reason).mpr why)).symm⟩
  · intro task listed
    refine ⟨entry task listed, ?_⟩
    rw [(raises_report_deadlines completed task.name).2.2, entry task listed]
    constructor
    · intro warned
      obtain ⟨other, declared, ⟨contract, uncosted⟩, named⟩ := warned
      obtain rfl := List.inj_on_of_nodup_map formed.task_names_distinct declared listed named
      exact ⟨Option.isSome_iff_ne_none.mp contract, .noWcet (Option.isNone_iff_eq_none.mp uncosted)⟩
    · intro unmeasured
      obtain ⟨contract, why⟩ := unmeasured
      exact ⟨task, listed, ⟨Option.isSome_iff_ne_none.mpr contract,
        Option.isNone_iff_eq_none.mpr (why.uncosted rfl)⟩, rfl⟩

/-- A line whose sampler is not measured yet, with a filter under it and a shell without a contract. -/
def unmeasuredLine : Manifest where
  system := ⟨"1MHz"⟩
  tasks := [⟨"sampler", 9, "1KiB", some "1ms", some "500us", none, []⟩,
    ⟨"filter", 5, "1KiB", some "5ms", none, some "1ms", []⟩,
    ⟨"shell", 1, "2KiB", none, none, some "2ms", []⟩]
  channels := []

/-- The report on the line names the sampler's execution time, as the validator announced. -/
theorem unmeasuredLine_explained : ∃ report analysis,
    unmeasuredLine.validate .insertion = .ok report
      ∧ Analyze.run unmeasuredLine .insertion = .ok (.ok analysis)
      ∧ (analysis.hasUnknowns = true
        ↔ ∃ task ∈ unmeasuredLine.tasks, ∃ reason, Unanswered 1000000 unmeasuredLine task reason)
      ∧ ∀ task ∈ unmeasuredLine.tasks,
        (∀ reason, (task.name, .unknown reason) ∈ analysis.verdicts
          ↔ Unanswered 1000000 unmeasuredLine task reason)
        ∧ (Raises report.diagnostics (.warning, "M0008", task.name)
          ↔ task.deadline ≠ none ∧ (task.name, .unknown Reason.noWcet) ∈ analysis.verdicts) := by
  obtain ⟨report, completed, accepted⟩ := exists_report_isOk
    (show (unmeasuredLine.validate .insertion).map ValidationReport.isOk = .ok true by decide)
  have rate : parseTickHz unmeasuredLine.system.tickRate = some 1000000 := by decide
  obtain ⟨analysis, ran, rest⟩ := analyze_explains_unknowns completed accepted rate
  exact ⟨report, analysis, completed, ran, rest⟩

end Malleus
