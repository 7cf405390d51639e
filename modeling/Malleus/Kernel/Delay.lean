import Malleus.Kernel.Limits
import Malleus.Manifest.Ticks

/-! Delays requested in microseconds: the kernel's conversion to ticks, and where it clips too early. -/

namespace Malleus

namespace TickRate

/-- The ticks a number of microseconds lasts, rounded up. -/
def ticksFromMicros (rate : TickRate) (micros : UInt64) : UInt64 :=
  let hz := rate.hz.toUInt64
  (micros.saturatingMul hz).divCeil 1000000

/-- The exact number of ticks a number of microseconds lasts, rounded up. -/
def exactDelay (rate : TickRate) (micros : UInt64) : ℕ :=
  (micros.toNat * rate.hz.toNat) ⌈/⌉ 1000000

/-- The conversion clips the product before it divides. -/
theorem toNat_ticksFromMicros (rate : TickRate) (micros : UInt64) :
    (rate.ticksFromMicros micros).toNat
      = min (micros.toNat * rate.hz.toNat) 18446744073709551615 ⌈/⌉ 1000000 := by
  have million : (1000000 : UInt64).toNat = 1000000 := rfl
  rw [ticksFromMicros, UInt64.toNat_divCeil _ (show (1000000 : UInt64) ≠ 0 by decide),
    UInt64.toNat_saturatingMul, UInt32.toNat_toUInt64, million]

/-- No delay is converted to more ticks than the clipped product holds. -/
theorem ticksFromMicros_le (rate : TickRate) (micros : UInt64) :
    (rate.ticksFromMicros micros).toNat ≤ 18446744073710 := by
  rw [toNat_ticksFromMicros, ceilDiv_le_iff_le_mul (by omega)]
  omega

/-- Up to the last product with that many ticks, clipping it leaves the rounded-up quotient alone. -/
theorem ticksFromMicros_of_le {rate : TickRate} {micros : UInt64}
    (fits : micros.toNat * rate.hz.toNat ≤ 18446744073710000000) :
    (rate.ticksFromMicros micros).toNat = rate.exactDelay micros := by
  rw [toNat_ticksFromMicros, exactDelay]
  rcases Nat.lt_or_ge 18446744073709551615 (micros.toNat * rate.hz.toNat) with clipped | whole
  -- A product just past the range rounds up to the same number of ticks as the largest value.
  · have limit : 18446744073709551615 ⌈/⌉ 1000000 = 18446744073710 := by decide
    have least := Realtime.ceilDiv_mono_left 1000000 clipped.le
    have most := (ceilDiv_le_iff_le_mul (show 0 < 1000000 by omega)).mpr
      (show micros.toNat * rate.hz.toNat ≤ 1000000 * 18446744073710 by omega)
    rw [min_eq_right clipped.le]
    simp only at least
    omega
  · rw [min_eq_left whole]

/-- A requested delay is converted exactly, as the manifest converts the same duration. -/
structure NeverShortened (rate : TickRate) (micros : UInt64) : Prop where
  exact_ : (rate.ticksFromMicros micros).toNat
    = min (rate.exactDelay micros) 18446744073709551615
  agrees : ∀ nanos : UInt64, nanos.toNat = micros.toNat * 1000 →
    (Duration.fromNanos nanos).toTicks rate.hz.toUInt64 = rate.ticksFromMicros micros

/-- A microsecond count and its nanosecond count last the same exact number of ticks. -/
theorem exactTicks_of_micros (rate : TickRate) (micros : UInt64) :
    exactTicks (micros.toNat * 1000) rate.hz.toNat = rate.exactDelay micros := by
  have scaled := Realtime.mul_ceilDiv_mul_right (show 0 < 1000 by omega) (show 0 < 1000000 by omega)
    (micros.toNat * rate.hz.toNat)
  rw [exactTicks, exactDelay, Nat.mul_right_comm, ← scaled]

/-- The manifest's conversion of a microsecond count is exact at every kernel rate. -/
theorem toNat_toTicks_of_micros (rate : TickRate) {micros nanos : UInt64}
    (same : nanos.toNat = micros.toNat * 1000) :
    ((Duration.fromNanos nanos).toTicks rate.hz.toUInt64).toNat
      = min (rate.exactDelay micros) 18446744073709551615 := by
  have width : rate.hz.toUInt64.toNat = rate.hz.toNat := UInt32.toNat_toUInt64 rate.hz
  have running : rate.hz.toUInt64 ≠ 0 := by
    intro stopped
    apply rate.nonzero
    rw [← UInt32.toNat_inj, ← width, stopped]
    rfl
  -- A 32-bit rate keeps the conversion away from its clipping.
  have ratable : rate.hz.toUInt64.toNat < 2 ^ 32 := width ▸ rate.hz.toNat_lt
  rw [(Duration.toTicks_convertsExactly running ratable _).ceiling, width, Duration.fromNanos, same,
    exactTicks_of_micros]

/-- A delay is never shortened exactly up to the last product that rounds as the largest value does. -/
theorem neverShortened_iff (rate : TickRate) (micros : UInt64) :
    rate.NeverShortened micros ↔ micros.toNat * rate.hz.toNat ≤ 18446744073710000000 := by
  constructor
  · intro owed
    -- A larger product asks for more ticks than the clipped one can give.
    by_contra beyond
    have more : 18446744073710 < rate.exactDelay micros := by
      rw [exactDelay, ← not_le, ceilDiv_le_iff_le_mul (by omega)]
      omega
    have most := rate.ticksFromMicros_le micros
    have given := owed.exact_
    omega
  · intro fits
    have converted := ticksFromMicros_of_le fits
    have bound := (rate.ticksFromMicros micros).toNat_le_max
    refine ⟨by omega, fun nanos same => ?_⟩
    rw [← UInt64.toNat_inj, toNat_toTicks_of_micros rate same, converted]
    omega

/-- The tick rate of a 216 MHz timer. -/
def at216MHz : TickRate := ⟨216000000, by decide⟩

/-- A delay of a day at 216 MHz is cut short by almost a thousand seconds. -/
theorem dayDelay_shortened : ¬at216MHz.NeverShortened 86400000000
    ∧ at216MHz.ticksFromMicros 86400000000 = 18446744073710
    ∧ at216MHz.exactDelay 86400000000 = 18662400000000
    ∧ (Duration.fromNanos 86400000000000).toTicks 216000000 = 18662400000000 := by
  have exact_ : at216MHz.exactDelay 86400000000 = 18662400000000 := by decide
  have given : at216MHz.ticksFromMicros 86400000000 = 18446744073710 := by decide
  refine ⟨fun owed => ?_, given, exact_, by decide⟩
  have same := owed.exact_
  rw [given, exact_] at same
  exact absurd same (by decide)

end TickRate

end Malleus
