import Malleus.Analyzer.TaskSet
import Malleus.Cli.Handoff
import Malleus.Realtime.Rescale

/-! What a pass of the command says about the contract declared in nanoseconds. -/

namespace Malleus

open Machine Realtime

/-- The tasks of strictly higher priority. -/
def moreUrgentTasks (task : Task) (tasks : List Task) : List Task :=
  tasks.filter fun other => task.priority < other.priority

/-- The nanoseconds a field holds, read as zero where it holds none. -/
def nanosOf (text : Option String) : ℕ := ((readDuration text).map (·.nanos.toNat)).getD 0

/-- The declared deadline, or the declared period when there is none. -/
def declaredDeadline (task : Task) : Option Duration :=
  (readDuration task.deadline).or (readDuration task.period)

/-- The right-hand side of the recurrence on the declared nanoseconds. -/
def declaredDemand (tasks : List Task) (task : Task) : ℕ → ℕ :=
  periodicDemand (nanosOf task.wcet) ((moreUrgentTasks task tasks).map fun other =>
    (nanosOf other.period, nanosOf other.wcet))

/-- A task's period rounded up to whole ticks, in parts of a nanosecond of which there are `hz`, and
its execution time in nanoseconds. -/
def tickedTimes (hz : ℕ) (task : Task) : ℕ × ℕ :=
  (exactTicks (nanosOf task.period) hz * 1000000000, nanosOf task.wcet)

/-- The right-hand side of the recurrence with every period rounded up to whole ticks. -/
def tickedDemand (hz : ℕ) (tasks : List Task) (task : Task) (window : ℕ) : ℕ :=
  periodicDemand (nanosOf task.wcet) ((moreUrgentTasks task tasks).map (tickedTimes hz)) (window * hz)

/-- A timing's period and execution time in ticks. -/
def TaskTiming.ticks (timing : TaskTiming) : ℕ × ℕ := (timing.periodTicks, timing.wcetTicks)

/-- The conversion of an execution time below a second stays in range. -/
def Unclipped (hz : ℕ) (task : Task) : Prop := nanosOf task.wcet % 1000000000 * hz < 2 ^ 64

instance (hz : ℕ) (task : Task) : Decidable (Unclipped hz task) :=
  inferInstanceAs (Decidable (_ < _))

/-- The command has an analysis only of an accepted manifest. -/
theorem accepted_of_analyze_run {manifest : Manifest} {order : HashOrder} {analysis : Analysis}
    (ran : Analyze.run manifest order = .ok (.ok analysis)) :
    ∃ report, manifest.validate order = .ok report ∧ report.isOk = true := by
  -- A report with errors ends the command.
  obtain ⟨report, completed, analyzed⟩ := Machine.bind_eq_ok.mp ran
  refine ⟨report, completed, ?_⟩
  split at analyzed
  · cases analyzed
  · rename_i clean
    simpa [ValidationReport.isOk] using clean

/-- The command's verdict on a task is the analyser's on its timing. -/
theorem verdict_of_analyze_run {manifest : Manifest} {order : HashOrder} {analysis : Analysis}
    (ran : Analyze.run manifest order = .ok (.ok analysis)) {hz : UInt64}
    (rate : parseTickHz manifest.system.tickRate = some hz) {task : Task}
    (listed : task ∈ manifest.tasks) {verdict : Verdict}
    (published : (task.name, verdict) ∈ analysis.verdicts) :
    verdict = verdictFor (timingOf hz task) (manifest.tasks.map (timingOf hz)) := by
  obtain ⟨report, completed, accepted⟩ := accepted_of_analyze_run ran
  have formed := (isOk_iff_wellFormed completed).mp accepted
  rw [analyze_run completed accepted rate, Except.ok.injEq, Except.ok.injEq] at ran
  rw [← ran, analyse, List.map_map] at published
  obtain ⟨other, declared, same⟩ := List.mem_map.mp published
  rw [Function.comp_apply, Prod.mk.injEq] at same
  -- Names are distinct, so the entry of this name is this task's.
  have this : other = task :=
    List.inj_on_of_nodup_map formed.task_names_distinct declared listed same.1
  rw [← same.2, this]

/-- The timings of the more urgent tasks are the more urgent of the timings. -/
theorem moreUrgent_timingOf (hz : UInt64) (task : Task) (tasks : List Task) :
    moreUrgent (timingOf hz task) (tasks.map (timingOf hz))
      = (moreUrgentTasks task tasks).map (timingOf hz) := by
  -- The conversion keeps priorities.
  rw [moreUrgent, List.filter_map]
  rfl

/-- A pass on a well-formed task set solves the recurrence exactly, unless the deadline is clamped. -/
theorem WellFormedTimings.pass_exact {timings : List TaskTiming} (formed : WellFormedTimings timings)
    {timing : TaskTiming} (listed : timing ∈ timings) (unblocked : timing.blocking = 0)
    {response slack : UInt64} (passed : verdictFor timing timings = .pass response slack) :
    ∃ deadline, timing.effectiveDeadline = some deadline ∧ timing.Declared
      ∧ (∀ other ∈ moreUrgent timing timings, other.Declared) ∧ response ≤ deadline
      ∧ (deadline < .MAX → periodicDemand timing.wcetTicks
        ((moreUrgent timing timings).map TaskTiming.ticks) response.toNat = response.toNat) := by
  have decided : (verdictFor timing timings).isDecided = true := by rw [passed]; rfl
  obtain ⟨wcet, deadline, cost, timed, contract, above, -⟩ := verdictFor_decided decided
  rw [preempters_eq_moreUrgent formed.names_distinct listed] at above
  have declared : timing.Declared := by
    refine ⟨by rw [cost]; rfl, timed, ?_⟩
    intro zero
    exact absurd (formed.period_pos timing listed 0 zero) (by decide)
  obtain ⟨wcet', cost', positive, established⟩ :=
    verdictFor_established formed.names_distinct listed declared above unblocked contract
  rw [passed] at established
  refine ⟨deadline, contract, declared, above, established.2.1, ?_⟩
  intro unclamped
  -- The response is at most the deadline, so no sum was cut at the top of the range.
  have below : response.toNat < 18446744073709551615 := by
    have within := UInt64.le_iff_toNat_le.mp established.2.1
    have short := UInt64.lt_iff_toNat_lt.mp unclamped
    rw [UInt64.toNat_MAX] at short
    omega
  have fixed := established.fixed positive below
  rw [exactDemand, exactTimes, List.map_map] at fixed
  rw [TaskTiming.wcetTicks, cost']
  exact fixed

/-- The ticks of a field are at most its nanoseconds, converted exactly and rounded up. -/
theorem ticksOf_le_exact (hz : UInt64) (text : Option String) :
    ((ticksOf hz text).getD 0).toNat ≤ exactTicks (nanosOf text) hz.toNat := by
  -- A field without a duration counts as zero on both sides.
  unfold ticksOf nanosOf
  cases readDuration text with
  | none => exact Nat.zero_le _
  | some duration => exact duration.toTicks_le_exact hz

/-- The ticks of a field cover its nanoseconds, unless the conversion clipped. -/
theorem nanosOf_le_ticksOf {hz : UInt64} (running : hz ≠ 0) {text : Option String}
    (whole : nanosOf text % 1000000000 * hz.toNat < 2 ^ 64)
    (below : ((ticksOf hz text).getD 0).toNat < 18446744073709551615) :
    nanosOf text * hz.toNat ≤ ((ticksOf hz text).getD 0).toNat * 1000000000 := by
  unfold ticksOf nanosOf at *
  cases held : readDuration text with
  | none => simp
  | some duration =>
    simp only [held, Option.map_some, Option.getD_some] at whole below ⊢
    rw [duration.toTicks_eq_exact running whole] at below ⊢
    -- Neither the seconds nor the rest clipped, so the ticks are the exact ceiling.
    have exact_ : exactTicks duration.nanos.toNat hz.toNat < 18446744073709551615 := by omega
    rw [min_eq_left exact_.le, Nat.mul_comm _ 1000000000, exactTicks]
    exact (ceilDiv_le_iff_le_mul (by omega)).mp le_rfl

/-- A pass on the ticks makes the declared demand fit the response, measured in nanoseconds. -/
theorem prefixed_tickedDemand {hz : UInt64} (running : hz ≠ 0) {tasks : List Task} {task : Task}
    {response : ℕ} (below : response < 18446744073709551615)
    (whole : ∀ other ∈ task :: moreUrgentTasks task tasks, Unclipped hz.toNat other)
    (above : ∀ other ∈ moreUrgentTasks task tasks, (timingOf hz other).Declared)
    (settled : periodicDemand (timingOf hz task).wcetTicks
      ((moreUrgentTasks task tasks).map fun other => (timingOf hz other).ticks) response = response) :
    Prefixed (tickedDemand hz.toNat tasks task) (response * 1000000000 / hz.toNat) := by
  have rate := UInt64.toNat_pos_iff.mpr running
  obtain ⟨own, others⟩ := List.forall_mem_cons.mp whole
  have inside := Nat.div_mul_le_self (response * 1000000000) hz.toNat
  -- Every cost that counts is at most the response, so its conversion did not clip.
  have base : nanosOf task.wcet * hz.toNat ≤ (timingOf hz task).wcetTicks * 1000000000 := by
    apply nanosOf_le_ticksOf running own
    have part := base_le_periodicDemand (timingOf hz task).wcetTicks
      ((moreUrgentTasks task tasks).map fun other => (timingOf hz other).ticks) response
    rw [settled] at part
    exact part.trans_lt below
  have costs : ∀ other ∈ moreUrgentTasks task tasks, 0 < response →
      (tickedTimes hz.toNat other).2 * hz.toNat ≤ (timingOf hz other).ticks.2 * 1000000000 := by
    intro other urgent started
    apply nanosOf_le_ticksOf running (others other urgent)
    have part := activations_le_periodicDemand
      (List.mem_map_of_mem (f := fun other => (timingOf hz other).ticks) urgent)
      (timingOf hz task).wcetTicks response
    rw [settled] at part
    have once := ceilDiv_pos started (above other urgent).period_pos
    have := Nat.le_mul_of_pos_left (timingOf hz other).wcetTicks once
    exact (this.trans part).trans_lt below
  have periods : ∀ other ∈ moreUrgentTasks task tasks,
      (timingOf hz other).ticks.1 * 1000000000 ≤ (tickedTimes hz.toNat other).1 :=
    fun other _ => Nat.mul_le_mul_right _ (ticksOf_le_exact hz other.period)
  have rescaled := periodicDemand_rescale hz.toNat (tickedTimes hz.toNat)
    (fun other => (timingOf hz other).ticks) inside (moreUrgentTasks task tasks) (by omega)
    (fun other urgent => (above other urgent).period_pos) periods costs base
  rw [settled] at rescaled
  rw [Prefixed, tickedDemand, Nat.le_div_iff_mul_le rate]
  exact rescaled

/-- Rounding periods that are whole numbers of ticks already changes no demand. -/
theorem tickedDemand_eq_declaredDemand {hz : ℕ} (running : 0 < hz) {tasks : List Task} {task : Task}
    (aligned : ∀ other ∈ moreUrgentTasks task tasks,
      0 < nanosOf other.period ∧ 1000000000 ∣ nanosOf other.period * hz) (window : ℕ) :
    tickedDemand hz tasks task window = declaredDemand tasks task window := by
  rw [tickedDemand, declaredDemand, periodicDemand, periodicDemand, List.map_map, List.map_map]
  congr 2
  apply List.map_congr_left
  intro other urgent
  obtain ⟨positive, whole⟩ := aligned other urgent
  -- A whole number of ticks is not rounded, so the common rate cancels from both numbers.
  simp only [Function.comp_apply, tickedTimes, exactTicks_of_dvd whole,
    mul_ceilDiv_mul_right running positive]

/-- The recurrence on the declared nanoseconds has a solution within the declared deadline. -/
def KeepsContract (tasks : List Task) (task : Task) : Prop :=
  ∃ response limit, declaredDeadline task = some limit
    ∧ declaredDemand tasks task response = response ∧ nanosOf task.wcet ≤ response
    ∧ response ≤ limit.nanos.toNat

/-- The same with the more urgent periods and the deadline rounded up to whole ticks. -/
structure KeepsTickedContract (hz : ℕ) (tasks : List Task) (task : Task) : Prop where
  declared : task.wcet.isSome
    ∧ ∀ other ∈ moreUrgentTasks task tasks, other.period.isSome ∧ other.wcet.isSome
  solved : ∃ response limit, declaredDeadline task = some limit
    ∧ tickedDemand hz tasks task response = response ∧ nanosOf task.wcet ≤ response
    ∧ response * hz ≤ exactTicks limit.nanos.toNat hz * 1000000000

/-- The more urgent periods and the deadline are whole numbers of ticks. -/
structure WholeTicks (hz : ℕ) (tasks : List Task) (task : Task) : Prop where
  period : ∀ other ∈ moreUrgentTasks task tasks, 1000000000 ∣ nanosOf other.period * hz
  deadline : ∀ limit ∈ declaredDeadline task, 1000000000 ∣ limit.nanos.toNat * hz

/-- On whole ticks the rounded contract is the declared one. -/
theorem KeepsTickedContract.keepsContract {hz : ℕ} (running : 0 < hz) {tasks : List Task}
    {task : Task} (kept : KeepsTickedContract hz tasks task)
    (positive : ∀ other ∈ moreUrgentTasks task tasks, 0 < nanosOf other.period)
    (whole : WholeTicks hz tasks task) : KeepsContract tasks task := by
  obtain ⟨response, limit, contract, solved, base, within⟩ := kept.solved
  refine ⟨response, limit, contract, ?_, base, ?_⟩
  · rw [← tickedDemand_eq_declaredDemand running
      (fun other urgent => ⟨positive other urgent, whole.period other urgent⟩)]
    exact solved
  -- A deadline of whole ticks is not rounded up.
  · rw [exactTicks_of_dvd (whole.deadline limit contract)] at within
    exact Nat.le_of_mul_le_mul_right within running

/-- A field whose ticks are given is given. -/
theorem isSome_of_ticksOf {hz : UInt64} {text : Option String} (given : (ticksOf hz text).isSome) :
    text.isSome := by
  -- An absent field holds no duration to convert.
  cases text with
  | none => simp [ticksOf, readDuration] at given
  | some text => rfl

/-- A nonzero declared period is a positive number of nanoseconds. -/
theorem SoundTiming.period_pos {task : Task} (sound : SoundTiming task) (given : task.period.isSome) :
    0 < nanosOf task.period := by
  -- A given period parses, and it is not zero.
  obtain ⟨duration, held⟩ := Option.isSome_iff_exists.mp (sound.period_parses given)
  rw [nanosOf, held]
  exact UInt64.toNat_pos_iff.mpr (sound.period_ne_zero duration held)

/-- The deadline the analyser checks is the declared one, converted. -/
theorem effectiveDeadline_timingOf (hz : UInt64) (task : Task) :
    (timingOf hz task).effectiveDeadline = (declaredDeadline task).map (·.toTicks hz) := by
  -- Falling back to the period commutes with the conversion.
  unfold TaskTiming.effectiveDeadline declaredDeadline timingOf ticksOf
  cases readDuration task.deadline <;> rfl

/-- A pass of the command on a task of an accepted manifest means that the recurrence on the declared
nanoseconds, with the more urgent periods and the deadline rounded up to whole ticks, has a solution
within the deadline; on whole ticks that is the declared contract itself. -/
theorem pass_keeps_ticked_contract {manifest : Manifest} {order : HashOrder} {analysis : Analysis}
    (ran : Analyze.run manifest order = .ok (.ok analysis)) {hz : UInt64}
    (rate : parseTickHz manifest.system.tickRate = some hz) {task : Task}
    (listed : task ∈ manifest.tasks) {response slack : UInt64}
    (passed : (task.name, .pass response slack) ∈ analysis.verdicts)
    (unclipped : ∀ other ∈ task :: moreUrgentTasks task manifest.tasks, Unclipped hz.toNat other)
    (unclamped : ∀ limit ∈ declaredDeadline task, limit.toTicks hz < .MAX) :
    KeepsTickedContract hz.toNat manifest.tasks task
      ∧ (WholeTicks hz.toNat manifest.tasks task → KeepsContract manifest.tasks task) := by
  obtain ⟨report, completed, accepted⟩ := accepted_of_analyze_run ran
  have formed := (isOk_iff_wellFormed completed).mp accepted
  have running : hz ≠ 0 := by
    obtain ⟨hz', rate', nonzero⟩ := formed.exists_tickHz
    rw [rate, Option.some.injEq] at rate'
    rw [rate']
    exact nonzero
  have positive := UInt64.toNat_pos_iff.mpr running
  have verdict := (verdict_of_analyze_run ran rate listed passed).symm
  obtain ⟨deadline, contract, own, above, within, solved⟩ :=
    (formed.timings running).pass_exact (List.mem_map_of_mem listed) rfl verdict
  rw [effectiveDeadline_timingOf, Option.map_eq_some_iff] at contract
  obtain ⟨limit, declared, rfl⟩ := contract
  -- The solution in ticks, read in nanoseconds, bounds the least solution from above.
  have settled := solved (unclamped limit declared)
  rw [moreUrgent_timingOf] at above settled
  rw [List.map_map] at settled
  have urgent : ∀ other ∈ moreUrgentTasks task manifest.tasks, (timingOf hz other).Declared :=
    fun other member => above _ (List.mem_map_of_mem member)
  have below := UInt64.lt_iff_toNat_lt.mp (unclamped limit declared)
  rw [UInt64.toNat_MAX] at below
  have response_le := UInt64.le_iff_toNat_le.mp within
  have enough := prefixed_tickedDemand running (response_le.trans_lt below) unclipped urgent settled
  have mono : Monotone (tickedDemand hz.toNat manifest.tasks task) := by
    intro narrow wide wider
    exact periodicDemand_mono _ _ (Nat.mul_le_mul_right _ wider)
  obtain ⟨least, least_le, fixed, -⟩ := exists_least_fixed mono enough
  have kept : KeepsTickedContract hz.toNat manifest.tasks task := by
    refine ⟨⟨isSome_of_ticksOf own.1, ?_⟩, least, limit, declared, fixed, ?_, ?_⟩
    · intro other member
      exact ⟨isSome_of_ticksOf (urgent other member).2.1, isSome_of_ticksOf (urgent other member).1⟩
    · rw [← fixed]
      exact base_le_periodicDemand _ _ _
    · calc least * hz.toNat ≤ response.toNat * 1000000000 / hz.toNat * hz.toNat :=
            Nat.mul_le_mul_right _ least_le
        _ ≤ response.toNat * 1000000000 := Nat.div_mul_le_self _ _
        _ ≤ exactTicks limit.nanos.toNat hz.toNat * 1000000000 :=
            Nat.mul_le_mul_right _ (response_le.trans (limit.toTicks_le_exact hz))
  refine ⟨kept, kept.keepsContract positive ?_⟩
  intro other member
  have sound := formed.timing other (List.mem_filter.mp member).1
  exact sound.period_pos (isSome_of_ticksOf (urgent other member).2.1)

/-- An urgent task of implicit deadline. -/
def urgentTask (period wcet : String) : Task := ⟨"high", 7, "2KiB", some period, none, some wcet, []⟩

/-- A task below the urgent one. -/
def patientTask (period : String) (deadline : Option String) (wcet : String) : Task :=
  ⟨"low", 3, "2KiB", some period, deadline, some wcet, []⟩

/-- A manifest of an urgent task and a patient one. -/
def pairManifest (tickRate : String) (high low : Task) : Manifest := ⟨⟨tickRate⟩, [high, low], []⟩

/-- The patient task of a pair on whole microseconds passes, so it keeps its contract. -/
theorem patientTask_keeps_contract :
    KeepsTickedContract (1000000 : UInt64).toNat
        [urgentTask "1ms" "100us", patientTask "10ms" (some "5ms") "1ms"]
        (patientTask "10ms" (some "5ms") "1ms")
      ∧ (WholeTicks (1000000 : UInt64).toNat
          [urgentTask "1ms" "100us", patientTask "10ms" (some "5ms") "1ms"]
          (patientTask "10ms" (some "5ms") "1ms")
        → KeepsContract [urgentTask "1ms" "100us", patientTask "10ms" (some "5ms") "1ms"]
          (patientTask "10ms" (some "5ms") "1ms")) :=
  pass_keeps_ticked_contract
    (show Analyze.run (pairManifest "1MHz" (urgentTask "1ms" "100us")
        (patientTask "10ms" (some "5ms") "1ms")) .insertion
      = .ok (.ok ⟨[("high", .pass 100 900), ("low", .pass 1200 3800)], 200000⟩) by decide)
    (by decide) (by decide) (show ("low", Verdict.pass 1200 3800) ∈ _ by decide) (by decide)
    (by decide)

/-- The patient task of a pair is accepted and passes alone at its priority, but the recurrence on the
declared nanoseconds has no solution within its deadline. -/
def PassesBrokenContract (tickRate : String) (high low : Task) : Prop :=
  (∃ analysis response slack,
      Analyze.run (pairManifest tickRate high low) .insertion = .ok (.ok analysis)
        ∧ (low.name, .pass response slack) ∈ analysis.verdicts)
    ∧ (∀ other ∈ [high, low], other.priority = low.priority → other = low)
    ∧ ¬KeepsContract [high, low] low

/-- A pair whose demand exceeds every window up to the deadline breaks the contract. -/
theorem not_keepsContract {high low : Task} (period cost own : ℕ) (limit : Duration)
    (urgent : (moreUrgentTasks low [high, low]).map (fun other =>
      (nanosOf other.period, nanosOf other.wcet)) = [(period, cost)])
    (base : nanosOf low.wcet = own) (contract : declaredDeadline low = some limit)
    (overloaded : ∀ window ≤ limit.nanos.toNat,
      own + (window + period - 1) / period * cost ≠ window) :
    ¬KeepsContract [high, low] low := by
  -- A solution within the deadline would be one of the windows ruled out.
  intro kept
  obtain ⟨response, limit', contract', solved, -, within⟩ := kept
  rw [contract, Option.some.injEq] at contract'
  subst contract'
  apply overloaded response within
  rw [declaredDemand, urgent, base, periodicDemand_cons, periodicDemand_nil,
    Nat.ceilDiv_eq_add_pred_div] at solved
  exact solved

/-- A pass on the ticks can hide a missed contract: where the deadline or a period is no whole number
of ticks, where an execution time clips, and where the deadline is clamped. -/
theorem pass_hides_missed_contract :
    PassesBrokenContract "1MHz" (urgentTask "10us" "1us") (patientTask "10us" (some "1500ns") "1us")
      ∧ PassesBrokenContract "1MHz" (urgentTask "1500ns" "1us") (patientTask "3us" (some "2us") "1us")
      ∧ PassesBrokenContract "1000000MHz" (urgentTask "1s" "900ms") (patientTask "1s" none "900ms")
      ∧ PassesBrokenContract "10000000000000MHz" (urgentTask "5s" "5s")
        (patientTask "10s" none "5s") := by
  -- The command is evaluated; what remains is that no window fits.
  refine ⟨⟨⟨⟨[("high", .pass 1 9), ("low", .pass 2 0)], 200000⟩, 2, 0, by decide, by decide⟩,
      by decide, ?_⟩,
    ⟨⟨⟨[("high", .pass 1 1), ("low", .pass 2 0)], 833333⟩, 2, 0, by decide, by decide⟩,
      by decide, ?_⟩,
    ⟨⟨⟨[("high", .pass 18446744074 981553255926), ("low", .pass 36893488148 963106511852)], 36892⟩,
      36893488148, 963106511852, by decide, by decide⟩, by decide, ?_⟩,
    ⟨⟨⟨[("high", .pass .MAX 0), ("low", .pass .MAX 0)], 2⟩, .MAX, 0, by decide, by decide⟩,
      by decide, ?_⟩⟩
  · apply not_keepsContract 10000 1000 1000 ⟨1500⟩ (by decide) (by decide) (by decide)
    intro window within
    have : window ≤ 1500 := within
    omega
  · apply not_keepsContract 1500 1000 1000 ⟨2000⟩ (by decide) (by decide) (by decide)
    intro window within
    have : window ≤ 2000 := within
    omega
  · apply not_keepsContract 1000000000 900000000 900000000 ⟨1000000000⟩ (by decide) (by decide)
      (by decide)
    intro window within
    have : window ≤ 1000000000 := within
    omega
  · apply not_keepsContract 5000000000 5000000000 5000000000 ⟨10000000000⟩ (by decide) (by decide)
      (by decide)
    intro window within
    have : window ≤ 10000000000 := within
    omega

end Malleus
