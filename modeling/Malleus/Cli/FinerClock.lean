import Malleus.Analyzer.Rescaling
import Malleus.Cli.Contract

/-! A faster clock: manifests whose times are whole ticks are analysed alike at every multiple of the rate. -/

namespace Malleus

open Machine

/-- Every duration a task declares is a whole number of ticks. -/
def OnTicks (hz : UInt64) (task : Task) : Prop :=
  ∀ text ∈ [task.period, task.deadline, task.wcet], ∀ duration ∈ readDuration text,
    1000000000 ∣ duration.nanos.toNat * hz.toNat

instance (hz : UInt64) (task : Task) : Decidable (OnTicks hz task) :=
  inferInstanceAs (Decidable (∀ text ∈ _, ∀ duration ∈ readDuration text, _))

/-- A manifest with another tick rate. -/
def Manifest.atRate (manifest : Manifest) (tickRate : String) : Manifest :=
  { manifest with system := ⟨tickRate⟩ }

@[simp] theorem Manifest.tasks_atRate (manifest : Manifest) (tickRate : String) :
    (manifest.atRate tickRate).tasks = manifest.tasks := rfl

variable {hz fine factor : UInt64}

/-- A whole number of ticks is the multiple of them at a multiple of the rate. -/
theorem Duration.toTicks_faster (running : hz ≠ 0) (nonzero : factor ≠ 0)
    (multiple : fine.toNat = hz.toNat * factor.toNat) (ratable : fine.toNat < 2 ^ 32)
    {duration : Duration} (whole : 1000000000 ∣ duration.nanos.toNat * hz.toNat)
    (fits : Fits factor (duration.toTicks hz)) :
    duration.toTicks fine = duration.toTicks hz * factor := by
  have unit := UInt64.toNat_pos_iff.mpr nonzero
  have positive := UInt64.toNat_pos_iff.mpr running
  have runningFine : fine ≠ 0 := by
    rw [← UInt64.toNat_pos_iff, multiple]
    exact Nat.mul_pos positive unit
  -- At either rate the conversion rounds the exact quotient up, and clips it.
  have slower : hz.toNat ≤ fine.toNat := multiple ▸ Nat.le_mul_of_pos_right _ unit
  have coarse := toTicks_eq_exact duration running (rest_fits _ (slower.trans_lt ratable))
  have wholeFine : 1000000000 ∣ duration.nanos.toNat * fine.toNat := by
    rw [multiple, ← Nat.mul_assoc]
    exact Dvd.dvd.mul_right whole _
  -- On whole ticks nothing is rounded, so the exact numbers differ by the factor.
  have scaled : exactTicks duration.nanos.toNat fine.toNat
      = exactTicks duration.nanos.toNat hz.toNat * factor.toNat := by
    have first := exactTicks_of_dvd whole
    have second := exactTicks_of_dvd wholeFine
    rw [multiple, ← Nat.mul_assoc, ← first, Nat.mul_right_comm] at second
    rw [multiple]
    exact Nat.eq_of_mul_eq_mul_right (by omega) second
  rw [← UInt64.toNat_inj, fits.toNat_mul, toTicks_eq_exact duration runningFine (rest_fits _ ratable),
    scaled, coarse]
  unfold Fits at fits
  rw [coarse] at fits
  rcases Nat.lt_or_ge 18446744073709551615 (exactTicks duration.nanos.toNat hz.toNat) with
    clipped | inside
  -- A clipped number of ticks fits only in its own unit.
  · rw [min_eq_right clipped.le] at fits ⊢
    have same : factor.toNat = 1 := by omega
    rw [same, Nat.mul_one, Nat.mul_one]
    exact min_eq_right clipped.le
  · rw [min_eq_left inside] at fits ⊢
    exact min_eq_left (Nat.le_of_lt_succ fits)

/-- A field of whole ticks holds the multiple of them at a multiple of the rate. -/
theorem ticksOf_faster (running : hz ≠ 0) (nonzero : factor ≠ 0)
    (multiple : fine.toNat = hz.toNat * factor.toNat) (ratable : fine.toNat < 2 ^ 32)
    {text : Option String}
    (whole : ∀ duration ∈ readDuration text, 1000000000 ∣ duration.nanos.toNat * hz.toNat)
    (fits : ∀ ticks ∈ ticksOf hz text, Fits factor ticks) :
    ticksOf fine text = (ticksOf hz text).map (· * factor) := by
  unfold ticksOf at fits ⊢
  cases held : readDuration text with
  -- What is left out has no ticks at any rate.
  | none => rfl
  | some duration =>
    rw [held] at fits
    simp only [Option.map_some, Option.some.injEq]
    exact Duration.toTicks_faster running nonzero multiple ratable (whole duration held)
      (fits _ rfl)

/-- The timing of a task on whole ticks is scaled by the factor between the rates. -/
theorem timingOf_faster (running : hz ≠ 0) (nonzero : factor ≠ 0)
    (multiple : fine.toNat = hz.toNat * factor.toNat) (ratable : fine.toNat < 2 ^ 32)
    {task : Task} (whole : OnTicks hz task) (fits : FitsTimes factor (timingOf hz task)) :
    timingOf fine task = (timingOf hz task).scaled factor := by
  -- Each of the three times is whole ticks, so each is scaled by itself.
  have period := ticksOf_faster running nonzero multiple ratable (whole task.period (by simp))
    fits.period
  have deadline := ticksOf_faster running nonzero multiple ratable (whole task.deadline (by simp))
    fits.deadline
  have wcet := ticksOf_faster running nonzero multiple ratable (whole task.wcet (by simp))
    fun ticks given => fits.cost given
  simp only [timingOf, TaskTiming.scaled, period, deadline, wcet, UInt64.zero_mul]

/-- Another usable tick rate keeps a manifest well formed. -/
theorem WellFormed.atRate {manifest : Manifest} (formed : WellFormed manifest) {tickRate : String}
    (rate : parseTickHz tickRate = some fine) (running : fine ≠ 0) :
    WellFormed (manifest.atRate tickRate) where
  tick_rate := (exists_parseTickHz_iff tickRate).mp ⟨fine, rate, running⟩
  task_name_ne_empty := formed.task_name_ne_empty
  task_names_distinct := formed.task_names_distinct
  priority_range := formed.priority_range
  timing := formed.timing
  stack := formed.stack
  channel_names_distinct := formed.channel_names_distinct
  channel := formed.channel
  grant := formed.grant

/-- Two tasks in whole milliseconds. -/
def coarsePair : Manifest :=
  pairManifest "1kHz" (urgentTask "10ms" "1ms") (patientTask "20ms" (some "15ms") "4ms")

/-- The analysis of the pair in milliseconds. -/
def coarseAnalysis : Analysis := ⟨[("high", .pass 1 9), ("low", .pass 5 10)], 300000⟩

/-- Every time of the pair, and everything its analysis adds up, fits in microseconds. -/
theorem coarsePair_rescalable : Rescalable 1000 (coarsePair.tasks.map (timingOf 1000)) := by
  have timings : coarsePair.tasks.map (timingOf 1000)
      = [⟨"high", 7, some 10, none, some 1, 0⟩, ⟨"low", 3, some 20, some 15, some 4, 0⟩] := by decide
  rw [timings]
  exact ⟨by decide, by decide, by decide⟩

end Malleus
