import Malleus.Machine.Panic

/-! The kernel's bounded types: values outside the kernel's tables cannot be built. -/

namespace Malleus

open Machine

/-- The number of tasks the kernel's tables hold. -/
def maxTasks : Nat := 64

/-- A task's identity: an index into the kernel's tables. -/
structure TaskId where
  index : UInt8
  below : index.toNat < maxTasks

/-- The task of a raw index, if it is in range. -/
def TaskId.new (index : UInt8) : Option TaskId :=
  if below : index.toNat < maxTasks then some ⟨index, below⟩ else none

/-- The number of scheduling priorities. -/
def priorityLevels : Nat := 32

/-- A scheduling priority; a higher level is more urgent. -/
structure Priority where
  level : UInt8
  below : level.toNat < priorityLevels

/-- The priority of a raw level, if it is in range. -/
def Priority.new (level : UInt8) : Option Priority :=
  if below : level.toNat < priorityLevels then some ⟨level, below⟩ else none

/-- The capacity of a bounded synchronisation object. -/
structure Capacity where
  count : UInt16
  nonzero : count ≠ 0

/-- A capacity of a raw count; zero aborts. -/
def Capacity.new (count : UInt16) : Eval Capacity :=
  if nonzero : count ≠ 0 then .ok ⟨count, nonzero⟩ else .error .assertion

/-- The tick frequency of a board's monotonic timer, in hertz. -/
structure TickRate where
  hz : UInt32
  nonzero : hz ≠ 0

/-- A tick rate of a raw frequency; zero aborts. -/
def TickRate.fromHz (hz : UInt32) : Eval TickRate :=
  if nonzero : hz ≠ 0 then .ok ⟨hz, nonzero⟩ else .error .assertion

/-- A raw index is a task exactly below the size of the kernel's tables. -/
theorem TaskId.new_isSome (index : UInt8) : (TaskId.new index).isSome ↔ index.toNat < 64 := by
  -- The constructor tests exactly the bound its value carries.
  unfold TaskId.new maxTasks
  split <;> simp [*]

/-- A raw level is a priority exactly below the number of levels. -/
theorem Priority.new_isSome (level : UInt8) : (Priority.new level).isSome ↔ level.toNat < 32 := by
  -- As for tasks, with the number of levels as the bound.
  unfold Priority.new priorityLevels
  split <;> simp [*]

/-- A raw count is a capacity exactly when it is not zero. -/
theorem Capacity.new_eq_ok (count : UInt16) :
    (∃ capacity, Capacity.new count = .ok capacity) ↔ count ≠ 0 := by
  -- The assertion is the condition the value carries.
  unfold Capacity.new
  split <;> simp [*]

/-- A raw frequency is a tick rate exactly when it is not zero. -/
theorem TickRate.fromHz_eq_ok (hz : UInt32) :
    (∃ rate, TickRate.fromHz hz = .ok rate) ↔ hz ≠ 0 := by
  -- The assertion is the condition the value carries.
  unfold TickRate.fromHz
  split <;> simp [*]

end Malleus
