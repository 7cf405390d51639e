import Malleus.Manifest.Units
import Malleus.Realtime.Rescale

/-! Durations in ticks: what the conversion loses, and the order it keeps. -/

namespace Malleus

/-- The exact number of ticks a number of nanoseconds lasts, rounded up. -/
def exactTicks (nanos hz : ℕ) : ℕ := (nanos * hz) ⌈/⌉ 1000000000

/-- Whole seconds and the rest convert apart without changing the total. -/
theorem exactTicks_split (nanos hz : ℕ) :
    exactTicks nanos hz = nanos / 1000000000 * hz + (nanos % 1000000000 * hz) ⌈/⌉ 1000000000 := by
  rw [exactTicks, ← Realtime.mul_add_ceilDiv (by omega)]
  congr 1
  -- Whole seconds are whole numbers of ticks, so they leave the rounding alone.
  calc nanos * hz = (1000000000 * (nanos / 1000000000) + nanos % 1000000000) * hz := by
        rw [Nat.div_add_mod]
    _ = 1000000000 * (nanos / 1000000000 * hz) + nanos % 1000000000 * hz := by ring

/-- A whole number of ticks is not rounded. -/
theorem exactTicks_of_dvd {nanos hz : ℕ} (whole : 1000000000 ∣ nanos * hz) :
    exactTicks nanos hz * 1000000000 = nanos * hz := by
  obtain ⟨ticks, exact_⟩ := whole
  have cancelled : (1000000000 • ticks) ⌈/⌉ 1000000000 = ticks := smul_ceilDiv (by omega) ticks
  rw [smul_eq_mul, ← exact_] at cancelled
  rw [exactTicks, cancelled, exact_, Nat.mul_comm]

namespace Duration

/-- The conversion clips the product of each part and their sum. -/
theorem toNat_toTicks (duration : Duration) {tickHz : UInt64} (running : tickHz ≠ 0) :
    (duration.toTicks tickHz).toNat
      = min (min (duration.nanos.toNat / 1000000000 * tickHz.toNat) 18446744073709551615
          + min (duration.nanos.toNat % 1000000000 * tickHz.toNat) 18446744073709551615
            ⌈/⌉ 1000000000)
        18446744073709551615 := by
  have billion : (1000000000 : UInt64).toNat = 1000000000 := rfl
  simp only [toTicks, if_neg running, UInt64.toNat_saturatingAdd, UInt64.toNat_saturatingMul,
    UInt64.toNat_divCeil _ (show (1000000000 : UInt64) ≠ 0 by decide), UInt64.toNat_div,
    UInt64.toNat_mod, billion]

/-- The conversion never exceeds the exact number of ticks. -/
theorem toTicks_le_exact (duration : Duration) (tickHz : UInt64) :
    (duration.toTicks tickHz).toNat ≤ exactTicks duration.nanos.toNat tickHz.toNat := by
  by_cases running : tickHz = 0
  · rw [toTicks, if_pos running]
    exact Nat.zero_le _
  · rw [toNat_toTicks duration running, exactTicks_split]
    -- Clipping the part below a second can only lower its ceiling.
    have clipped := Realtime.ceilDiv_mono_left 1000000000
      (min_le_left (duration.nanos.toNat % 1000000000 * tickHz.toNat) 18446744073709551615)
    simp only at clipped
    omega

/-- Unless the part below a second clips, the conversion clips only the exact number of ticks. -/
theorem toTicks_eq_exact (duration : Duration) {tickHz : UInt64} (running : tickHz ≠ 0)
    (fits : duration.nanos.toNat % 1000000000 * tickHz.toNat < 2 ^ 64) :
    (duration.toTicks tickHz).toNat
      = min (exactTicks duration.nanos.toNat tickHz.toNat) 18446744073709551615 := by
  rw [toNat_toTicks duration running, exactTicks_split,
    min_eq_left (show duration.nanos.toNat % 1000000000 * tickHz.toNat ≤ 18446744073709551615 by omega)]
  omega

/-- A part below a second lasts at most a second's worth of ticks. -/
theorem rest_le_second (nanos hz limit : ℕ) :
    min (nanos % 1000000000 * hz) limit ⌈/⌉ 1000000000 ≤ hz := by
  rw [ceilDiv_le_iff_le_mul (by omega)]
  have below : nanos % 1000000000 ≤ 1000000000 := (Nat.mod_lt _ (by omega)).le
  exact (min_le_left _ _).trans (Nat.mul_le_mul_right hz below)

/-- A longer duration never lasts fewer ticks, clipped or not. -/
theorem toTicks_mono (tickHz : UInt64) {short long : Duration} (longer : short.nanos ≤ long.nanos) :
    short.toTicks tickHz ≤ long.toTicks tickHz := by
  rw [UInt64.le_iff_toNat_le] at longer ⊢
  by_cases running : tickHz = 0
  · simp [toTicks, running]
  · rw [toNat_toTicks short running, toNat_toTicks long running]
    have seconds := Nat.div_le_div_right longer (c := 1000000000)
    have splitShort := Nat.div_add_mod short.nanos.toNat 1000000000
    have splitLong := Nat.div_add_mod long.nanos.toNat 1000000000
    rcases Nat.eq_or_lt_of_le seconds with same | fewer
    -- With equal seconds the parts below a second are in the same order.
    · have rest : short.nanos.toNat % 1000000000 ≤ long.nanos.toNat % 1000000000 := by omega
      rw [same]
      apply min_le_min_right
      apply Nat.add_le_add_left
      exact Realtime.ceilDiv_mono_left 1000000000
        (min_le_min_right _ (Nat.mul_le_mul_right _ rest))
    -- One more second outweighs any part below a second, or has already clipped.
    · have rest := rest_le_second short.nanos.toNat tickHz.toNat 18446744073709551615
      have outweighs := Nat.mul_le_mul_right tickHz.toNat (show
        short.nanos.toNat / 1000000000 + 1 ≤ long.nanos.toNat / 1000000000 by omega)
      rw [Nat.add_mul, Nat.one_mul] at outweighs
      omega

/-- A nonzero duration lasts at least one tick. -/
theorem toTicks_pos {duration : Duration} {tickHz : UInt64} (positive : duration.nanos ≠ 0)
    (running : tickHz ≠ 0) : 1 ≤ duration.toTicks tickHz := by
  have one : (1 : UInt64).toNat = 1 := rfl
  rw [UInt64.le_iff_toNat_le, one, toNat_toTicks duration running]
  rw [← UInt64.toNat_pos_iff] at positive running
  have whole := Nat.div_add_mod duration.nanos.toNat 1000000000
  by_cases seconds : duration.nanos.toNat / 1000000000 = 0
  -- Below a second, the part below a second is all there is.
  · have rest : 0 < duration.nanos.toNat % 1000000000 := by omega
    have product := Nat.mul_pos rest running
    have := Realtime.ceilDiv_pos (show 0 < min (duration.nanos.toNat % 1000000000 * tickHz.toNat)
      18446744073709551615 by omega) (show 0 < 1000000000 by omega)
    omega
  · have product := Nat.mul_pos (Nat.pos_of_ne_zero seconds) running
    omega

/-- At a rate of 32 bits, the part below a second never clips. -/
theorem rest_fits (nanos : ℕ) {hz : ℕ} (ratable : hz < 2 ^ 32) :
    nanos % 1000000000 * hz < 2 ^ 64 :=
  calc nanos % 1000000000 * hz
      ≤ 1000000000 * 2 ^ 32 := Nat.mul_le_mul (Nat.mod_lt _ (by omega)).le ratable.le
    _ < 2 ^ 64 := by norm_num

/-- A faster rate never counts fewer ticks, up to rates of 32 bits. -/
theorem toTicks_mono_rate (duration : Duration) {slow fast : UInt64} (running : slow ≠ 0)
    (ratable : fast.toNat < 2 ^ 32) (faster : slow ≤ fast) :
    duration.toTicks slow ≤ duration.toTicks fast := by
  rw [UInt64.le_iff_toNat_le] at faster ⊢
  have also : fast ≠ 0 := by
    rw [← UInt64.toNat_pos_iff] at running ⊢
    omega
  -- Both conversions clip the exact number of ticks, which grows with the rate.
  rw [toTicks_eq_exact duration running (rest_fits _ (faster.trans_lt ratable)),
    toTicks_eq_exact duration also (rest_fits _ ratable)]
  apply min_le_min_right
  exact Realtime.ceilDiv_mono_left 1000000000 (Nat.mul_le_mul_left _ faster)

/-- What a conversion to ticks owes, at every rate of 32 bits. -/
structure ConvertsExactly (tickHz : UInt64) (duration : Duration) : Prop where
  ceiling : (duration.toTicks tickHz).toNat
    = min (exactTicks duration.nanos.toNat tickHz.toNat) 18446744073709551615
  longer : ∀ long : Duration, duration.nanos ≤ long.nanos →
    duration.toTicks tickHz ≤ long.toTicks tickHz
  faster : ∀ fast : UInt64, fast.toNat < 2 ^ 32 → tickHz ≤ fast →
    duration.toTicks tickHz ≤ duration.toTicks fast
  started : duration.nanos ≠ 0 → duration.toTicks tickHz ≠ 0
  whole : ∀ ticks : UInt64, duration.nanos.toNat * tickHz.toNat = ticks.toNat * 1000000000 →
    duration.toTicks tickHz = ticks

/--
The conversion is the rounded-up number of ticks, clipped at the largest value.

It is computed apart for the seconds and the rest, and at a rate of 32 bits that loses nothing.
-/
theorem toTicks_convertsExactly {tickHz : UInt64} (running : tickHz ≠ 0)
    (ratable : tickHz.toNat < 2 ^ 32) (duration : Duration) :
    duration.ConvertsExactly tickHz := by
  have ceiling := toTicks_eq_exact duration running (rest_fits duration.nanos.toNat ratable)
  refine ⟨ceiling, fun long longer => toTicks_mono tickHz longer,
    fun fast fits faster => toTicks_mono_rate duration running fits faster, ?_, ?_⟩
  · intro positive stopped
    have once := toTicks_pos positive running
    rw [stopped] at once
    exact absurd once (by decide)
  · intro ticks exact_
    -- A whole number of ticks fits, so neither the rounding nor the clipping changes it.
    have unrounded := exactTicks_of_dvd (Dvd.intro_left ticks.toNat exact_.symm)
    have small := ticks.toNat_le_max
    rw [← UInt64.toNat_inj, ceiling]
    omega

/-- A second and a half at 216 MHz converts exactly. -/
theorem secondAndHalf_convertsExactly :
    (Duration.fromNanos 1500000000).ConvertsExactly 216000000 :=
  toTicks_convertsExactly (by decide) (by decide) _

end Duration

end Malleus
