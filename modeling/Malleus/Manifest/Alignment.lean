import Malleus.Manifest.Deadlines
import Malleus.Manifest.Ticks

/-! Tick alignment: what the truncated tick length decides, and when that is a whole number of ticks. -/

namespace Malleus

open Machine

/-- Divisibility of a product is divisibility of one factor by what the other leaves of the divisor. -/
theorem dvd_mul_iff_div_gcd_dvd {divisor : ℕ} (positive : 0 < divisor) (value factor : ℕ) :
    divisor ∣ value * factor ↔ divisor / divisor.gcd factor ∣ value := by
  rw [Nat.div_dvd_iff_dvd_mul (Nat.gcd_dvd_left _ _) (Nat.gcd_pos_of_pos_left _ positive),
    Nat.mul_comm (divisor.gcd factor), Nat.dvd_mul_gcd_iff_dvd_mul]

/-- The nanoseconds of one tick, cut to a whole number. -/
def truncatedTick (hz : ℕ) : ℕ := 1000000000 / hz

/-- The least number of nanoseconds that is a whole number of ticks. -/
def wholeTicks (hz : ℕ) : ℕ := 1000000000 / Nat.gcd 1000000000 hz

/-- A number of nanoseconds is a multiple of a truncated tick that is not zero. -/
def TruncatedMultiple (nanos hz : ℕ) : Prop := hz ≤ 1000000000 ∧ truncatedTick hz ∣ nanos

/-- A number of nanoseconds lasts a whole number of ticks. -/
def WholeMultiple (nanos hz : ℕ) : Prop := wholeTicks hz ∣ nanos

/-- The least whole number of ticks decides divisibility. -/
theorem wholeMultiple_iff (nanos hz : ℕ) :
    WholeMultiple nanos hz ↔ 1000000000 ∣ nanos * hz :=
  (dvd_mul_iff_div_gcd_dvd (by omega) nanos hz).symm

/-- A rate that divides a second has a tick of whole nanoseconds. -/
theorem truncatedTick_eq_wholeTicks {hz : ℕ} (divides : hz ∣ 1000000000) :
    truncatedTick hz = wholeTicks hz := by
  rw [truncatedTick, wholeTicks, Nat.gcd_eq_right divides]

/-- At a rate that divides a second, both multiples are the same. -/
theorem truncatedMultiple_of_dvd (nanos : ℕ) {hz : ℕ} (divides : hz ∣ 1000000000) :
    TruncatedMultiple nanos hz ↔ WholeMultiple nanos hz := by
  have below := Nat.le_of_dvd (by omega) divides
  rw [TruncatedMultiple, WholeMultiple, truncatedTick_eq_wholeTicks divides, and_iff_right below]

/-- At any other rate some number of nanoseconds is a multiple of only one of the two. -/
theorem exists_multiple_apart {hz : ℕ} (positive : 0 < hz) (apart : ¬hz ∣ 1000000000) :
    ∃ nanos ≤ 1000000000, ¬(TruncatedMultiple nanos hz ↔ WholeMultiple nanos hz) := by
  have common := Nat.gcd_dvd_left 1000000000 hz
  have shared : 0 < Nat.gcd 1000000000 hz := Nat.gcd_pos_of_pos_left _ (by omega)
  have whole : wholeTicks hz * Nat.gcd 1000000000 hz = 1000000000 := Nat.div_mul_cancel common
  have inside : wholeTicks hz ≤ 1000000000 := Nat.div_le_self _ _
  rcases Nat.lt_or_ge 1000000000 hz with fast | slow
  -- Above a gigahertz nothing is a multiple of the truncated tick.
  · refine ⟨wholeTicks hz, inside, fun same => ?_⟩
    exact absurd (same.mpr dvd_rfl).1 (not_le.mpr fast)
  -- Otherwise the truncated tick itself is shorter than a whole number of ticks.
  · refine ⟨truncatedTick hz, Nat.div_le_self _ _, fun same => ?_⟩
    have longest : wholeTicks hz ≤ truncatedTick hz :=
      Nat.le_of_dvd (Nat.div_pos slow positive) (same.mp ⟨slow, dvd_rfl⟩)
    have second : truncatedTick hz * hz ≤ 1000000000 := Nat.div_mul_le_self _ _
    have bounded : wholeTicks hz * hz ≤ wholeTicks hz * Nat.gcd 1000000000 hz :=
      (Nat.mul_le_mul_right hz longest).trans (second.trans_eq whole.symm)
    have nonzero : 0 < wholeTicks hz := Nat.pos_of_ne_zero fun none_ => by simp [none_] at whole
    have divisor := Nat.le_of_mul_le_mul_left bounded nonzero
    have same := Nat.le_antisymm (Nat.gcd_le_right _ positive) divisor
    exact apart (same ▸ common)

namespace Duration

/-- The test is whether the duration is a multiple of the truncated tick. -/
theorem isTickAligned_eq (duration : Duration) {tickHz : UInt64} (running : tickHz ≠ 0) :
    ∃ aligned, duration.isTickAligned tickHz = .ok aligned
      ∧ (aligned = true ↔ TruncatedMultiple duration.nanos.toNat tickHz.toNat) := by
  have billion : (1000000000 : UInt64).toNat = 1000000000 := rfl
  have positive := UInt64.toNat_pos_iff.mpr running
  -- The truncated tick is zero exactly above a gigahertz.
  have below : (1000000000 : UInt64) / tickHz ≠ 0 ↔ tickHz.toNat ≤ 1000000000 := by
    rw [← UInt64.toNat_pos_iff, UInt64.toNat_div, billion, Nat.div_pos_iff, and_iff_right positive]
  refine ⟨_, by rw [isTickAligned, if_neg running, UInt64.strictDiv, if_neg running]; rfl, ?_⟩
  rw [Bool.and_eq_true, decide_eq_true_iff, below, UInt64.isMultipleOf_iff, UInt64.toNat_div, billion]
  rfl

end Duration

/-- A task declares a period that is not zero and is found to be off the tick. -/
def Misaligned (tickHz : UInt64) (task : Task) : Prop :=
  ∃ period ∈ readDuration task.period, period.nanos ≠ 0 ∧ period.isTickAligned tickHz = .ok false

/-- The alignment check warns of a misaligned task and of nothing else. -/
theorem raises_checkAlignment (tickRate : String) {tickHz : UInt64} (running : tickHz ≠ 0) (task : Task)
    (key : FindingKey) :
    Raises (findingsOf (fun period => checkAlignment tickRate task.name period (some tickHz))
        ((readDuration task.period).filter (·.nanos ≠ 0))) key
      ↔ Misaligned tickHz task ∧ key = (.warning, "M0009", task.name) := by
  unfold Misaligned
  cases readDuration task.period with
  | none => simp [findingsOf, checkAlignment]
  | some period =>
    by_cases zero : period.nanos = 0
    -- A period of zero was reported and discarded.
    · simp [findingsOf, checkAlignment, Option.filter, zero]
    · obtain ⟨aligned, tested⟩ := period.isTickAligned_eq_ok tickHz
      simp [findingsOf, checkAlignment, Option.filter, zero, running, tested]

/-- Of the findings about a task's timing, the alignment check alone has its code. -/
theorem raises_timingRest_misaligned (tickRate : String) {tickHz : UInt64} (running : tickHz ≠ 0)
    (task : Task) (location : String) :
    Raises (timingRest tickRate (some tickHz) task) (.warning, "M0009", location)
      ↔ Misaligned tickHz task ∧ task.name = location := by
  -- The other three checks about timing raise other codes.
  have unread := fun text field => (parseDuration_codes text task.name field).not_raises
    (show "M0009" ∉ ["M0023"] by decide) .warning location
  have zero := (discardZeroPeriod_codes task.name (readDuration task.period)).not_raises
    (show "M0009" ∉ ["M0026"] by decide) .warning location
  have late := (checkDeadline_codes task.name ((readDuration task.period).filter (·.nanos ≠ 0))
    (readDuration task.deadline)).not_raises (show "M0009" ∉ ["M0006"] by decide) .warning location
  simp only [timingRest, raises_append, raises_checkAlignment tickRate running, unread, zero, late,
    false_or, Prod.mk.injEq, true_and, eq_comm]

/-- A report warns of a name exactly when some task of that name is misaligned. -/
theorem raises_misaligned_iff {manifest : Manifest} {order : HashOrder} {report : ValidationReport}
    (completed : manifest.validate order = .ok report) {tickHz : UInt64}
    (rate : parseTickHz manifest.system.tickRate = some tickHz) (running : tickHz ≠ 0)
    (location : String) :
    Raises report.diagnostics (.warning, "M0009", location)
      ↔ ∃ task ∈ manifest.tasks, Misaligned tickHz task ∧ task.name = location := by
  obtain ⟨memory, visited, keys⟩ := raises_report completed
  have structural := (deadlineFree_codes order visited).not_raises
    (show "M0009" ∉ structuralCodes by decide) .warning location
  rw [keys, rate]
  simp only [structural, false_or, raises_timingRest_misaligned manifest.system.tickRate running]
  -- The three findings that need a deadline have codes of their own.
  simp

namespace Duration

/-- What tick alignment owes: it holds of exactly the whole numbers of ticks, and warns of the others. -/
structure AlignsExactly (tickHz : UInt64) (duration : Duration) : Prop where
  decided : duration.isTickAligned tickHz = .ok true
    ↔ 1000000000 ∣ duration.nanos.toNat * tickHz.toNat
  -- Neither the part below a second nor the number of ticks leaves 64 bits.
  lossless : duration.nanos.toNat % 1000000000 * tickHz.toNat < 2 ^ 64 →
    exactTicks duration.nanos.toNat tickHz.toNat < 2 ^ 64 →
    (duration.isTickAligned tickHz = .ok true
      ↔ (duration.toTicks tickHz).toNat * 1000000000 = duration.nanos.toNat * tickHz.toNat)
  warned : ∀ (manifest : Manifest) (order : HashOrder) (report : ValidationReport),
    manifest.validate order = .ok report → parseTickHz manifest.system.tickRate = some tickHz →
    ∀ task ∈ manifest.tasks, readDuration task.period = some duration →
    -- A finding names its task, so tasks of one name are told apart by nothing.
    (∀ other ∈ manifest.tasks, other.name = task.name → readDuration other.period = some duration) →
    (Raises report.diagnostics (.warning, "M0009", task.name)
      ↔ ¬1000000000 ∣ duration.nanos.toNat * tickHz.toNat)

/-- The test succeeds exactly on the multiples of a truncated tick. -/
theorem isTickAligned_iff (duration : Duration) {tickHz : UInt64} (running : tickHz ≠ 0) :
    duration.isTickAligned tickHz = .ok true
      ↔ TruncatedMultiple duration.nanos.toNat tickHz.toNat := by
  obtain ⟨aligned, tested, same⟩ := duration.isTickAligned_eq running
  rw [tested, Except.ok.injEq, same]

/-- Without clipping, the conversion to ticks loses nothing exactly on whole numbers of ticks. -/
theorem toTicks_lossless_iff {duration : Duration} {tickHz : UInt64} (running : tickHz ≠ 0)
    (rest : duration.nanos.toNat % 1000000000 * tickHz.toNat < 2 ^ 64)
    (fits : exactTicks duration.nanos.toNat tickHz.toNat < 2 ^ 64) :
    (duration.toTicks tickHz).toNat * 1000000000 = duration.nanos.toNat * tickHz.toNat
      ↔ 1000000000 ∣ duration.nanos.toNat * tickHz.toNat := by
  -- Unclipped, the conversion is the ceiling, which is exact on multiples only.
  have converted : (duration.toTicks tickHz).toNat = exactTicks duration.nanos.toNat tickHz.toNat := by
    rw [toTicks_eq_exact duration running rest]
    omega
  rw [converted]
  exact ⟨Dvd.intro_left _, exactTicks_of_dvd⟩

/-- Where alignment is decided exactly, the two kinds of multiples agree. -/
theorem AlignsExactly.agree {duration : Duration} {tickHz : UInt64} (running : tickHz ≠ 0)
    (owed : duration.AlignsExactly tickHz) :
    TruncatedMultiple duration.nanos.toNat tickHz.toNat
      ↔ WholeMultiple duration.nanos.toNat tickHz.toNat := by
  rw [← duration.isTickAligned_iff running, wholeMultiple_iff]
  exact owed.decided

/-- Where the two kinds of multiples agree, alignment is decided exactly. -/
theorem alignsExactly_of_agree {duration : Duration} {tickHz : UInt64} (running : tickHz ≠ 0)
    (agree : TruncatedMultiple duration.nanos.toNat tickHz.toNat
      ↔ WholeMultiple duration.nanos.toNat tickHz.toNat) :
    duration.AlignsExactly tickHz := by
  rw [wholeMultiple_iff] at agree
  have decided := (duration.isTickAligned_iff running).trans agree
  refine ⟨decided, fun rest fits => decided.trans (toTicks_lossless_iff running rest fits).symm, ?_⟩
  intro manifest order report completed rate task listed written alike
  rw [raises_misaligned_iff completed rate running, ← decided]
  constructor
  -- A warning comes from a task of the name, which has this period.
  · intro warned aligned
    obtain ⟨other, present, ⟨period, given, -, off⟩, same⟩ := warned
    rw [alike other present same, Option.mem_some_iff] at given
    rw [← given, aligned] at off
    cases off
  -- A period off the tick is not zero, which every tick divides.
  · intro off
    obtain ⟨aligned, found, -⟩ := duration.isTickAligned_eq running
    have failed : aligned = false := by
      rw [← Bool.not_eq_true]
      rintro rfl
      exact off found
    refine ⟨task, listed, ⟨duration, written, fun zero => off (decided.mpr ?_), failed ▸ found⟩, rfl⟩
    rw [zero]
    exact Nat.zero_mul _ ▸ dvd_zero _

/--
Every duration's alignment is decided exactly if and only if the tick rate divides a second.

At any other rate the tick is cut to whole nanoseconds, and some duration up to a second is misjudged.
-/
theorem forall_alignsExactly_iff {tickHz : UInt64} (running : tickHz ≠ 0) :
    (∀ duration : Duration, duration.AlignsExactly tickHz) ↔ tickHz.toNat ∣ 1000000000 := by
  constructor
  · intro owed
    by_contra apart
    obtain ⟨nanos, small, differ⟩ :=
      exists_multiple_apart (UInt64.toNat_pos_iff.mpr running) apart
    -- A number of nanoseconds up to a second is a duration.
    have value : (UInt64.ofNat nanos).toNat = nanos :=
      UInt64.toNat_ofNat_of_lt' (show nanos < 2 ^ 64 by omega)
    have agree := (owed ⟨UInt64.ofNat nanos⟩).agree running
    rw [value] at agree
    exact differ agree
  -- A tick of whole nanoseconds loses nothing, so the test is about whole numbers of ticks.
  · intro divides duration
    exact alignsExactly_of_agree running (truncatedMultiple_of_dvd _ divides)

/-- A megahertz divides a second and decides every duration exactly; a watch crystal's rate does not. -/
theorem microsecondTick_alignsExactly :
    (∀ duration : Duration, duration.AlignsExactly 1000000)
      ∧ ¬∀ duration : Duration, duration.AlignsExactly 32768 := by
  constructor
  · exact (forall_alignsExactly_iff (by decide)).mpr (by decide)
  · rw [forall_alignsExactly_iff (by decide)]
    decide

/-- A watch crystal's rate and a period of a second, 32768 ticks. -/
def watchCrystal : Manifest where
  system := ⟨"32768Hz"⟩
  tasks := [⟨"clock", 7, "2KiB", some "1s", none, none, []⟩]
  channels := []

/-- A second is a whole number of ticks of a watch crystal, and is warned of. -/
theorem watchCrystal_misjudged : ¬(Duration.fromNanos 1000000000).AlignsExactly 32768
    ∧ (Duration.fromNanos 1000000000).isTickAligned 32768 = .ok false
    ∧ (Duration.fromNanos 30517).isTickAligned 32768 = .ok true
    ∧ (watchCrystal.validate .insertion).map (fun report => report.diagnostics.map Diagnostic.key)
      = .ok [(.warning, "M0009", "clock")] := by
  have off : (Duration.fromNanos 1000000000).isTickAligned 32768 = .ok false := rfl
  refine ⟨fun owed => ?_, off, rfl, by decide +kernel⟩
  have aligned := owed.decided.mpr (Dvd.intro _ rfl)
  rw [off] at aligned
  cases aligned

end Duration

end Malleus
