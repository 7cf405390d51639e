import Malleus.Kernel.ReadySet

/-! Hardware priorities: the kernel's levels scaled to the interrupt controller's, and turned around. -/

namespace UInt16

/-- Multiplication clipped at the largest value. -/
def saturatingMul (left right : UInt16) : UInt16 :=
  if left.toNat * right.toNat < 65536 then left * right else 65535

end UInt16

namespace UInt8

/-- Subtraction clipped at zero. -/
def saturatingSub (left right : UInt8) : UInt8 := if right ≤ left then left - right else 0

@[simp] theorem toNat_saturatingSub (left right : UInt8) :
    (left.saturatingSub right).toNat = left.toNat - right.toNat := by
  unfold saturatingSub
  split
  · rename_i below
    exact UInt8.toNat_sub_of_le left right below
  · rename_i above
    rw [UInt8.le_iff_toNat_le] at above
    exact (Nat.sub_eq_zero_of_le (by omega)).symm

end UInt8

namespace Malleus

namespace Priority

/-- The idle priority, which no application task may have. -/
def idle : Priority := ⟨0, by decide⟩

/-- The most urgent priority. -/
def max : Priority := ⟨31, by decide⟩

/-- The exponent of the number of levels, a power of two: the scaling divide is a shift. -/
def levelShift : UInt16 := 5

/-- The hardware interrupt priority of a kernel priority, where lower is more urgent. -/
def toHardware (priority : Priority) (hwLevels : UInt8) : UInt8 :=
  if hwLevels = 0 then 0
  else
    let scaled :=
      ((priority.level.toUInt16.saturatingMul hwLevels.toUInt16) >>> levelShift).toUInt8
    (hwLevels.saturatingSub 1).saturatingSub scaled

/-- Nothing saturates and nothing is cut off: the levels are scaled down exactly, then turned around. -/
theorem toNat_toHardware (priority : Priority) {hwLevels : UInt8} (some_ : hwLevels ≠ 0) :
    (priority.toHardware hwLevels).toNat
      = hwLevels.toNat - 1 - priority.level.toNat * hwLevels.toNat / 32 := by
  have below : priority.level.toNat < 32 := priority.below
  have small := hwLevels.toNat_lt
  have one : (1 : UInt8).toNat = 1 := rfl
  -- The product of a level and of a number of levels is far inside 16 bits.
  have product : priority.level.toNat * hwLevels.toNat ≤ 31 * 255 :=
    Nat.mul_le_mul (by omega) (by omega)
  have exact_ : (priority.level.toUInt16.saturatingMul hwLevels.toUInt16).toNat
      = priority.level.toNat * hwLevels.toNat := by
    rw [UInt16.saturatingMul, UInt8.toNat_toUInt16, UInt8.toNat_toUInt16, if_pos (by omega),
      UInt16.toNat_mul, UInt8.toNat_toUInt16, UInt8.toNat_toUInt16, Nat.mod_eq_of_lt (by omega)]
  have shift : levelShift.toNat % 16 = 5 := rfl
  rw [toHardware, if_neg some_]
  simp only [UInt8.toNat_saturatingSub, one]
  rw [UInt16.toNat_toUInt8, UInt16.toNat_shiftRight, exact_, shift, Nat.shiftRight_eq_div_pow,
    Nat.mod_eq_of_lt (by omega)]

/-- A scaled level is below the number of hardware levels, so nothing is clipped. -/
theorem scaled_lt (priority : Priority) {hwLevels : ℕ} (some_ : 0 < hwLevels) :
    priority.level.toNat * hwLevels / 32 < hwLevels := by
  have below : priority.level.toNat < 32 := priority.below
  rw [Nat.div_lt_iff_lt_mul (by omega), Nat.mul_comm hwLevels]
  exact Nat.mul_lt_mul_of_pos_right below some_

/-- A more urgent priority is no less urgent on the hardware. -/
theorem toHardware_antitone (hwLevels : UInt8) {low high : Priority} (above : low ≤ high) :
    high.toHardware hwLevels ≤ low.toHardware hwLevels := by
  have order : low.level.toNat ≤ high.level.toNat := above
  by_cases none_ : hwLevels = 0
  · rw [toHardware, toHardware, if_pos none_, if_pos none_]
    exact UInt8.le_refl 0
  · rw [UInt8.le_iff_toNat_le, toNat_toHardware _ none_, toNat_toHardware _ none_]
    -- Scaling keeps the order of levels, and counting from the top turns it around.
    have scaled := Nat.div_le_div_right (c := 32) (Nat.mul_le_mul_right hwLevels.toNat order)
    omega

/-- From 32 hardware levels on, one step of priority is a step on the hardware. -/
theorem toHardware_injective {hwLevels : UInt8} (many : 32 ≤ hwLevels.toNat) :
    Function.Injective fun priority : Priority => priority.toHardware hwLevels := by
  have some_ : hwLevels ≠ 0 := by
    rintro rfl
    exact absurd many (by decide)
  intro first second same
  have value := congrArg UInt8.toNat same
  simp only [toNat_toHardware _ some_] at value
  have inside := first.scaled_lt (show 0 < hwLevels.toNat by omega)
  have inside' := second.scaled_lt (show 0 < hwLevels.toNat by omega)
  have scaled : first.level.toNat * hwLevels.toNat / 32 = second.level.toNat * hwLevels.toNat / 32 := by
    omega
  -- Levels that differ are at least 32 apart once scaled, before the division.
  have apart : ∀ low high : Priority, low.level.toNat < high.level.toNat →
      low.level.toNat * hwLevels.toNat / 32 < high.level.toNat * hwLevels.toNat / 32 := by
    intro low high above
    have step := Nat.mul_le_mul_right hwLevels.toNat (Nat.succ_le_of_lt above)
    rw [Nat.succ_mul] at step
    omega
  apply toNat_injective
  show first.level.toNat = second.level.toNat
  rcases Nat.lt_trichotomy first.level.toNat second.level.toNat with less | equal | more
  · exact absurd scaled (apart _ _ less).ne
  · exact equal
  · exact absurd scaled (apart _ _ more).ne'

/-- Up to 32 steps, every one of them is reached by scaling some level. -/
theorem exists_scaled {steps step : ℕ} (few : steps ≤ 32) (inside : step < steps) :
    ∃ level < 32, level * steps / 32 = step := by
  -- The level is the step times 32, divided by the number of steps and rounded up.
  obtain ⟨level, chosen⟩ : ∃ level, level = (32 * step + steps - 1) / steps := ⟨_, rfl⟩
  have low : 32 * step + steps - 1 < (level + 1) * steps := by
    rw [← Nat.div_lt_iff_lt_mul (by omega), chosen]
    exact Nat.lt_succ_self _
  have high : level * steps ≤ 32 * step + steps - 1 := by
    rw [chosen]
    exact Nat.div_mul_le_self _ _
  rw [Nat.add_mul, Nat.one_mul] at low
  refine ⟨level, ?_, by omega⟩
  by_contra above
  have := Nat.mul_le_mul_right steps (not_lt.mp above)
  omega

/-- Up to 32 hardware levels, every one of them is the hardware priority of some priority. -/
theorem toHardware_surjective {hwLevels : UInt8} (few : hwLevels.toNat ≤ 32) {value : UInt8}
    (below : value < hwLevels) : ∃ priority : Priority, priority.toHardware hwLevels = value := by
  rw [UInt8.lt_iff_toNat_lt] at below
  have some_ : hwLevels ≠ 0 := by
    rintro rfl
    exact absurd below (Nat.not_lt_zero _)
  -- With at most 32 hardware levels scaling skips none of them.
  obtain ⟨level, listed, scaled⟩ :=
    exists_scaled few (show hwLevels.toNat - 1 - value.toNat < hwLevels.toNat by omega)
  have raw : (UInt8.ofNat level).toNat = level := UInt8.toNat_ofNat_of_lt' (by
    have : UInt8.size = 256 := rfl
    omega)
  refine ⟨⟨UInt8.ofNat level, raw.trans_lt listed⟩, UInt8.toNat_inj.mp ?_⟩
  rw [toNat_toHardware _ some_, raw, scaled]
  omega

/--
What the one conversion to hardware priorities owes the kernel.

It stays on the controller, never inverts urgency, tells the kernel's levels apart exactly where there
are enough of the controller's, uses all of the controller's exactly where there are not too many, and
puts the idle priority last. Whatever was done to a ready set, nothing in it is more urgent on the
hardware than its highest priority.
-/
structure HardwareMapping (hwLevels : UInt8) : Prop where
  inside : ∀ priority : Priority, priority.toHardware hwLevels < hwLevels
  ordered : ∀ low high : Priority, low.toHardware hwLevels < high.toHardware hwLevels → high < low
  faithful : Function.Injective (fun priority : Priority => priority.toHardware hwLevels)
    ↔ 32 ≤ hwLevels.toNat
  filled : (∀ value < hwLevels, ∃ priority : Priority, priority.toHardware hwLevels = value)
    ↔ hwLevels.toNat ≤ 32
  mostUrgent : max.toHardware hwLevels = 0 ↔ hwLevels.toNat ≤ 32
  leastUrgent : (idle.toHardware hwLevels).toNat = hwLevels.toNat - 1
  dispatched : ∀ (operations : List ReadySet.Operation) (top other : Priority),
    (ReadySet.run operations).highest = some top → (ReadySet.run operations).contains other = true →
    top.toHardware hwLevels ≤ other.toHardware hwLevels

/-- On every controller that has levels the conversion pays what it owes. -/
theorem toHardware_mapping {hwLevels : UInt8} (some_ : hwLevels ≠ 0) : HardwareMapping hwLevels := by
  have positive : 0 < hwLevels.toNat := Nat.pos_of_ne_zero fun zero => some_ (UInt8.toNat_inj.mp zero)
  have value := fun priority : Priority => toNat_toHardware priority some_
  have top : max.toHardware hwLevels = 0 ↔ hwLevels.toNat ≤ 32 := by
    have level : max.level.toNat = 31 := rfl
    have zero : (0 : UInt8).toNat = 0 := rfl
    rw [← UInt8.toNat_inj, value, level, zero]
    omega
  refine ⟨?_, ?_, ⟨?_, toHardware_injective⟩, ⟨?_, fun few value => toHardware_surjective few⟩, top, ?_,
    ?_⟩
  · intro priority
    rw [UInt8.lt_iff_toNat_lt, value]
    omega
  · intro low high inverted
    by_contra above
    exact UInt8.not_lt.mpr (toHardware_antitone hwLevels (not_lt.mp above)) inverted
  -- With fewer levels the two least urgent priorities fall on one.
  · intro injective
    by_contra few
    have same : idle.toHardware hwLevels = toHardware ⟨1, by decide⟩ hwLevels := by
      have low : idle.level.toNat = 0 := rfl
      rw [← UInt8.toNat_inj, value, value, low]
      show hwLevels.toNat - 1 - 0 * hwLevels.toNat / 32 = hwLevels.toNat - 1 - 1 * hwLevels.toNat / 32
      omega
    exact absurd (injective same) (by decide)
  -- With more levels the most urgent one is left out.
  · intro filled
    obtain ⟨priority, zero⟩ := filled 0 (UInt8.lt_iff_toNat_lt.mpr positive)
    have below : priority ≤ max := Nat.le_of_lt_succ priority.below
    have least := toHardware_antitone hwLevels below
    rw [zero, UInt8.le_zero_iff] at least
    exact top.mp least
  · have low : idle.level.toNat = 0 := rfl
    rw [value, low]
    omega
  · intro operations top other found held
    exact toHardware_antitone hwLevels (((ReadySet.highest_eq_some_iff _ _).mp found).2 held)

/-- The sixteen levels of a controller with four priority bits are all used, and none is exceeded. -/
theorem fourBits_mapping : HardwareMapping 16 := toHardware_mapping (by decide)

end Priority

end Malleus
