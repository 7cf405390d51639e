import Malleus.Cli.Contract
import Malleus.Kernel.ClosedLoop
import Malleus.Manifest.Alignment

/-! From the manifest to the clock: what an analysed system keeps of its declared nanoseconds. -/

namespace Malleus

open Machine Realtime

/-- The task set an accepted manifest is analysed as. -/
def analysedTasks (hz : UInt64) (manifest : Manifest) : List TaskTiming :=
  manifest.tasks.map (timingOf hz)

/-- Every declared period is a whole number of ticks, below the end of the timeline. -/
structure PeriodsOnTicks (hz : UInt64) (manifest : Manifest) : Prop where
  whole : ∀ task ∈ manifest.tasks, ∀ period ∈ readDuration task.period,
    1000000000 ∣ period.nanos.toNat * hz.toNat
  inside : ∀ task ∈ manifest.tasks, ∀ period ∈ readDuration task.period,
    exactTicks period.nanos.toNat hz.toNat < 18446744073709551615

variable {manifest : Manifest} {hz : UInt64}

/-- A whole period converts without loss at a rate of 32 bits. -/
theorem PeriodsOnTicks.toTicks_eq (onTicks : PeriodsOnTicks hz manifest) (running : hz ≠ 0)
    (ratable : hz.toNat < 2 ^ 32) {task : Task} (listed : task ∈ manifest.tasks) {period : Duration}
    (held : readDuration task.period = some period) :
    (period.toTicks hz).toNat = exactTicks period.nanos.toNat hz.toNat := by
  rw [Duration.toTicks_eq_exact period running (Duration.rest_fits _ ratable)]
  exact min_eq_left (onTicks.inside task listed period held).le

/-- An accepted manifest with periods on ticks is analysed as a constrained task set. -/
theorem WellFormed.constrained (formed : WellFormed manifest) (running : hz ≠ 0)
    (ratable : hz.toNat < 2 ^ 32) (onTicks : PeriodsOnTicks hz manifest) :
    Constrained (analysedTasks hz manifest) := by
  have timings := formed.timings running
  refine ⟨timings.names_distinct, ?_, ?_⟩
  · intro timing listed period given
    have positive := timings.period_pos timing listed period given
    obtain ⟨task, declared, rfl⟩ := List.mem_map.mp listed
    obtain ⟨duration, held, rfl⟩ := Option.map_eq_some_iff.mp given
    refine ⟨?_, ?_⟩
    -- A period that is zero in ticks is refused before the analysis.
    · rintro zero
      rw [zero] at positive
      exact absurd positive (by decide)
    · rw [onTicks.toTicks_eq running ratable declared held]
      exact onTicks.inside task declared duration held
  · intro timing listed deadline period contract given
    -- The deadline is the declared one or, where none is declared, the period itself.
    rcases Option.or_eq_some_iff.mp contract with due | ⟨-, same⟩
    · exact timings.deadline_le_period timing listed period given deadline due
    · rw [given, Option.some.injEq] at same
      exact same ▸ UInt64.le_refl _

/-- Without blocking, distinct priorities leave nothing for a blocking term to cover. -/
theorem coversHolds_of_distinct {tasks : List TaskTiming}
    (levels : (tasks.map TaskTiming.priority).Nodup) : CoversHolds tasks fun _ => 0 := by
  -- At distinct priorities a task has no peers to wait for.
  intro task listed
  have none_ : peers task tasks = [] := by
    rw [List.eq_nil_iff_forall_not_mem]
    intro other member
    obtain ⟨present, different, level⟩ := mem_peers.mp member
    exact different (List.inj_on_of_nodup_map levels present listed level)
  rw [none_]
  exact Nat.zero_le _

/-- A number of ticks is less than one tick over the time it was rounded up from. -/
theorem exactTicks_lt (nanos hz : ℕ) : exactTicks nanos hz * 1000000000 < nanos * hz + 1000000000 := by
  rw [exactTicks, Nat.ceilDiv_eq_add_pred_div]
  have rounded := Nat.div_mul_le_self (nanos * hz + 1000000000 - 1) 1000000000
  omega

/--
Where the analysis passes, a system on whole-tick periods keeps its declared times on the clock.

In every preemptive run of the tasks' loops the releases are exactly the declared period apart, counted
in nanoseconds times the rate, and every job is done less than one tick after its declared deadline.
-/
theorem analysed_loops_keep_time {order : HashOrder} {analysis : Analysis}
    (ran : Analyze.run manifest order = .ok (.ok analysis))
    (schedulable : analysis.isSchedulable = true)
    (rate : parseTickHz manifest.system.tickRate = some hz) (ratable : hz.toNat < 2 ^ 32)
    (levels : (manifest.tasks.map Task.priority).Nodup) (onTicks : PeriodsOnTicks hz manifest)
    {count : TaskTiming → ℕ} {start : TaskTiming → Instant} {completed : TaskTiming → ℕ → Instant}
    {work : Workload (Activation (analysedTasks hz manifest) count) TaskTiming}
    {run : Run (Activation (analysedTasks hz manifest) count)}
    (loop : ClosedLoop (analysedTasks hz manifest) count start completed work run)
    (inside : ∀ job, work.release job < 18446744073709551615)
    (legal : Preemptive work TaskTiming.urgency run)
    (job : Activation (analysedTasks hz manifest) count) :
    ∃ task ∈ manifest.tasks, timingOf hz task = job.1 ∧
      ∃ period limit, readDuration task.period = some period ∧ declaredDeadline task = some limit
        ∧ work.release job * 1000000000 = (start job.1).ticks.toNat * 1000000000
          + (job.2 + 1) * (period.nanos.toNat * hz.toNat)
        ∧ ∃ finish, Finished work run job finish ∧ finish * 1000000000
          < work.release job * 1000000000 + limit.nanos.toNat * hz.toNat + 1000000000 := by
  obtain ⟨report, validated, accepted⟩ := accepted_of_analyze_run ran
  have formed := (isOk_iff_wellFormed validated).mp accepted
  have running := formed.running rate
  rw [analyze_run validated accepted rate, Except.ok.injEq, Except.ok.injEq] at ran
  -- The command's analysis is that of the task set, and all of its tasks pass.
  have passes : (analyse (analysedTasks hz manifest)).isSchedulable = true := ran ▸ schedulable
  have constrained := formed.constrained running ratable onTicks
  have distinct : ((analysedTasks hz manifest).map TaskTiming.priority).Nodup := by
    rw [analysedTasks, List.map_map]
    exact levels
  have covers := coversHolds_of_distinct distinct
  have meets := loop.meets constrained covers passes inside legal.conserving
    fun task _ => legal.heldAtMost_zero task.urgency
  have declared : ∀ task ∈ analysedTasks hz manifest, task.Declared :=
    fun task listed => constrained.declared passes listed
  obtain ⟨response, slack, passed, done⟩ := meets job
  have onGrid := loop.release_onGrid constrained declared inside meets job
  obtain ⟨task, listed, same⟩ := List.mem_map.mp job.1.2
  refine ⟨task, listed, same, ?_⟩
  -- The analysed period and deadline are the declared ones, converted.
  obtain ⟨ticks, interval⟩ := Option.isSome_iff_exists.mp (declared _ job.1.2).2.1
  have interval' := interval
  rw [← same] at interval'
  obtain ⟨period, held, converted⟩ := Option.map_eq_some_iff.mp interval'
  obtain ⟨wcet, deadline, -, -, contract, -, -⟩ := verdictFor_decided (by rw [passed]; rfl)
  obtain ⟨-, established⟩ := verdictFor_establishes constrained.distinct job.1.2 contract
    (by rw [passed]; rfl)
  rw [passed] at established
  rw [← same, effectiveDeadline_timingOf] at contract
  obtain ⟨limit, due, limited⟩ := Option.map_eq_some_iff.mp contract
  refine ⟨period, limit, held, due, ?_, work.release job + response.toNat, done, ?_⟩
  -- A period of whole ticks was not rounded, so the grid is the declared one.
  · have exact_ : job.1.1.periodTicks = exactTicks period.nanos.toNat hz.toNat := by
      rw [TaskTiming.periodTicks, interval, Option.getD_some, ← converted]
      exact onTicks.toTicks_eq running ratable listed held
    rw [onGrid, exact_, Nat.add_mul, Nat.mul_assoc,
      exactTicks_of_dvd (onTicks.whole task listed period held)]
  -- The deadline was rounded up by less than a tick.
  · have within := UInt64.le_iff_toNat_le.mp established.2.1
    have converted := Duration.toTicks_le_exact limit hz
    rw [limited] at converted
    have late := Nat.mul_le_mul_right 1000000000 (within.trans converted)
    rw [Nat.add_mul, Nat.add_assoc]
    exact Nat.add_lt_add_left (late.trans_lt (exactTicks_lt limit.nanos.toNat hz.toNat)) _

/-- Two loops on whole milliseconds, counted in microseconds. -/
def timedPair : Manifest :=
  pairManifest "1MHz" (urgentTask "1ms" "100us") (patientTask "10ms" (some "5ms") "1ms")

/-- The patient task of the pair, in ticks. -/
def timedLow : TaskTiming := ⟨"low", 3, some 10000, some 5000, some 1000, 0⟩

/-- The pair in ticks. -/
theorem timedPair_analysed : analysedTasks 1000000 timedPair
    = [⟨"high", 7, some 1000, none, some 100, 0⟩, timedLow] := by decide

/-- The periods of the pair are whole milliseconds. -/
theorem timedPair_onTicks : PeriodsOnTicks 1000000 timedPair := by
  constructor <;> decide

/-- Three activations of each loop of the pair, started at tick 50. -/
abbrev timedWork : Workload (Activation (analysedTasks 1000000 timedPair) fun _ => 3) TaskTiming :=
  slottedWork (analysedTasks 1000000 timedPair) (fun _ => 3) fun _ => ⟨50⟩

/-- The second activation of the patient task. -/
def timedJob : Activation (analysedTasks 1000000 timedPair) fun _ => 3 :=
  ⟨⟨timedLow, by decide⟩, 1⟩

/-- The second activation of the patient task is released at its nanosecond, and done before the next
tick after its deadline. -/
theorem timedPair_keeps_time : ∃ task ∈ timedPair.tasks, timingOf 1000000 task = timedLow ∧
    ∃ period limit, readDuration task.period = some period ∧ declaredDeadline task = some limit
      ∧ timedWork.release timedJob * 1000000000 = 50 * 1000000000
        + (1 + 1) * (period.nanos.toNat * 1000000)
      ∧ ∃ finish, Finished timedWork
          (slottedRun (analysedTasks 1000000 timedPair) (fun _ => 3) fun _ => ⟨50⟩) timedJob finish
        ∧ finish * 1000000000
          < timedWork.release timedJob * 1000000000 + limit.nanos.toNat * 1000000 + 1000000000 := by
  have ran : Analyze.run timedPair .insertion
      = .ok (.ok ⟨[("high", .pass 100 900), ("low", .pass 1200 3800)], 200000⟩) := by decide
  have constrained : Constrained (analysedTasks 1000000 timedPair) := by
    obtain ⟨report, validated, accepted⟩ := accepted_of_analyze_run ran
    exact ((isOk_iff_wellFormed validated).mp accepted).constrained (by decide) (by decide)
      timedPair_onTicks
  have schedulable : (analyse (analysedTasks 1000000 timedPair)).isSchedulable = true := by decide
  have covers : CoversHolds (analysedTasks 1000000 timedPair) fun _ => 0 :=
    coversHolds_of_distinct (by decide)
  -- Four slots of the longest period stay inside the timeline.
  have room : ∀ task ∈ analysedTasks 1000000 timedPair,
      50 + (3 + 1) * task.periodTicks < 18446744073709551615 := by
    rw [timedPair_analysed]
    decide
  have inside : ∀ job, timedWork.release job < 18446744073709551615 := by
    intro job
    have last := room job.1 job.1.2
    have below : job.2.1 < 3 := job.2.2
    have slots := Nat.mul_le_mul_right job.1.1.periodTicks (show job.2.1 + 1 ≤ 3 + 1 by omega)
    simp only [timedWork, slottedWork]
    have fifty : (50 : UInt64).toNat = 50 := rfl
    omega
  exact analysed_loops_keep_time ran schedulable (show parseTickHz "1MHz" = some 1000000 by decide)
    (by decide) (by decide) timedPair_onTicks
    (slottedRun_closedLoop constrained covers schedulable room) inside
    (slottedRun_preemptive (analysedTasks 1000000 timedPair) (fun _ => 3) fun _ => ⟨50⟩) timedJob

/-- What a number of ticks adds to the time it was rounded up from, in nanoseconds times the rate. -/
def tickDefect (nanos hz : ℕ) : ℕ := exactTicks nanos hz * 1000000000 - nanos * hz

/-- The ticks last the declared time and their defect. -/
theorem exactTicks_eq_add_defect (nanos hz : ℕ) :
    exactTicks nanos hz * 1000000000 = nanos * hz + tickDefect nanos hz := by
  -- Rounding up leaves at least the declared time.
  have enough : nanos * hz ≤ exactTicks nanos hz * 1000000000 := by
    rw [exactTicks, Nat.mul_comm (_ ⌈/⌉ _)]
    exact (ceilDiv_le_iff_le_mul (by omega)).mp le_rfl
  rw [tickDefect]
  omega

/-- The defect is less than one tick. -/
theorem tickDefect_lt (nanos hz : ℕ) : tickDefect nanos hz < 1000000000 := by
  have less := exactTicks_lt nanos hz
  rw [exactTicks_eq_add_defect] at less
  omega

/-- There is a defect exactly where the time is no whole number of ticks. -/
theorem tickDefect_pos_iff (nanos hz : ℕ) :
    0 < tickDefect nanos hz ↔ ¬1000000000 ∣ nanos * hz := by
  -- Without a defect the tick count itself is the quotient.
  rw [Nat.pos_iff_ne_zero, not_iff_not]
  constructor
  · intro none_
    have exact_ := exactTicks_eq_add_defect nanos hz
    rw [none_, Nat.add_zero] at exact_
    exact Dvd.intro_left _ exact_
  · intro whole
    rw [tickDefect, exactTicks_of_dvd whole, Nat.sub_self]

/-- Before either end is reached, a schedule has moved on by one interval per completion and per miss. -/
theorem Period.nextActivation_eq_of_inside (start : Instant) {interval : UInt64} (positive : interval ≠ 0)
    {nows : List Instant}
    (inside : ((startingAt start interval).after nows).nextActivation.ticks < UInt64.MAX)
    (counted : ((startingAt start interval).after nows).missedActivations < UInt32.MAX) :
    ((startingAt start interval).after nows).nextActivation.ticks.toNat = start.ticks.toNat
      + (nows.length + 1 + ((startingAt start interval).after nows).missedActivations.toNat)
        * interval.toNat := by
  -- Neither the target nor the count was clipped, so both are the unbounded schedule's.
  have within := within_of_nextActivation_lt start positive inside
  have follows := after_follows start positive nows
  have largest : UInt32.MAX.toNat = 4294967295 := rfl
  have length : (tickCounts nows).length = nows.length := List.length_map _
  rw [UInt32.lt_iff_toNat_lt, missedActivations, follows.counted, largest] at counted
  rw [nextActivation, missedActivations, follows.clipped, follows.counted, min_eq_left within,
    min_eq_left (by omega), unbounded, Schedule.target_after, length, Nat.add_comm 1]

/-- The schedule of a declared period's loop after some completions. -/
abbrev declaredLoop (period : Duration) (hz : UInt64) (start : Instant) (nows : List Instant) : Period :=
  (Period.startingAt start (period.toTicks hz)).after nows

/--
A loop drifts from its declared period exactly where the validator warns of it.

Every period that passes, waited for or missed, adds the same part of a tick, so the drift grows with
the length of the run and never comes back. The warning is exact at the rates that divide a second.
-/
theorem loops_drift_where_warned {order : HashOrder} {report : ValidationReport}
    (completed : manifest.validate order = .ok report) (accepted : report.isOk = true)
    (rate : parseTickHz manifest.system.tickRate = some hz) (ratable : hz.toNat < 2 ^ 32)
    {task : Task} (listed : task ∈ manifest.tasks) {period : Duration}
    (given : readDuration task.period = some period)
    (inside : exactTicks period.nanos.toNat hz.toNat < 18446744073709551615) :
    ∃ defect < 1000000000,
      (hz.toNat ∣ 1000000000 →
        (Raises report.diagnostics (.warning, "M0009", task.name) ↔ 0 < defect))
      ∧ ∀ (start : Instant) (nows : List Instant),
        (declaredLoop period hz start nows).nextActivation.ticks < UInt64.MAX →
        (declaredLoop period hz start nows).missedActivations < UInt32.MAX →
        (declaredLoop period hz start nows).nextActivation.ticks.toNat * 1000000000
          = start.ticks.toNat * 1000000000
            + (nows.length + 1 + (declaredLoop period hz start nows).missedActivations.toNat)
              * (period.nanos.toNat * hz.toNat + defect) := by
  have formed := (isOk_iff_wellFormed completed).mp accepted
  have running := formed.running rate
  refine ⟨tickDefect period.nanos.toNat hz.toNat, tickDefect_lt _ _, ?_, ?_⟩
  · intro divides
    rw [tickDefect_pos_iff]
    have owed := Duration.alignsExactly_of_agree running
      (truncatedMultiple_of_dvd period.nanos.toNat divides)
    apply owed.warned manifest order report completed rate task listed given
    -- The task is the only one of its name.
    intro other present same
    rw [List.inj_on_of_nodup_map formed.task_names_distinct present listed same]
    exact given
  · intro start nows early counted
    have converted : (period.toTicks hz).toNat = exactTicks period.nanos.toNat hz.toNat := by
      rw [Duration.toTicks_eq_exact period running (Duration.rest_fits _ ratable)]
      exact min_eq_left inside.le
    -- An accepted period is not zero, and lasts at least one tick.
    have nonzero := (formed.timing task listed).period_ne_zero period given
    have positive : period.toTicks hz ≠ 0 := fun zero =>
      absurd (Duration.toTicks_pos nonzero running) (zero ▸ by decide)
    rw [Period.nextActivation_eq_of_inside start positive early counted, converted, Nat.add_mul,
      Nat.mul_assoc, exactTicks_eq_add_defect]

/-- A period of a tick and a half. -/
def halfTickPair : Manifest :=
  pairManifest "1kHz" (urgentTask "1500us" "500us") (patientTask "20ms" none "1ms")

/-- The urgent loop of the pair drifts, as its warning says, and its drift is the same in every run. -/
theorem halfTickPair_drifts : ∃ report, halfTickPair.validate .insertion = .ok report ∧
    ∃ defect < 1000000000,
      ((1000 : UInt64).toNat ∣ 1000000000 →
        (Raises report.diagnostics (.warning, "M0009", "high") ↔ 0 < defect))
      ∧ ∀ (start : Instant) (nows : List Instant),
        (declaredLoop ⟨1500000⟩ 1000 start nows).nextActivation.ticks < UInt64.MAX →
        (declaredLoop ⟨1500000⟩ 1000 start nows).missedActivations < UInt32.MAX →
        (declaredLoop ⟨1500000⟩ 1000 start nows).nextActivation.ticks.toNat * 1000000000
          = start.ticks.toNat * 1000000000
            + (nows.length + 1 + (declaredLoop ⟨1500000⟩ 1000 start nows).missedActivations.toNat)
              * (1500000 * 1000 + defect) := by
  obtain ⟨report, completed, accepted⟩ := accepted_of_analyze_run
    (show Analyze.run halfTickPair .insertion
      = .ok (.ok ⟨[("high", .pass 1 1), ("low", .pass 2 18)], 550000⟩) by decide)
  exact ⟨report, completed, loops_drift_where_warned completed accepted
    (show parseTickHz "1kHz" = some 1000 by decide) (by decide) List.mem_cons_self
    (show readDuration (some "1500us") = some ⟨1500000⟩ by decide) (by decide)⟩

end Malleus
