import Malleus.Machine.Panic
import Malleus.Text.Quantity

/-! Durations and sizes as the manifest writes them, and their conversions. -/

namespace Malleus

open Machine

/-- Failure to parse a unit-carrying value. -/
inductive ParseUnitError where
  | missingNumber (text : String)
  -- There is deliberately no default unit.
  | missingUnit (text : String)
  | unknownUnit (unit kind expected : String)
  | overflow (text : String)
  deriving DecidableEq, Repr

/-- The text a unit error is shown as. -/
def ParseUnitError.display : ParseUnitError → String
  | missingNumber text => s!"`{text}` has no numeric part"
  | missingUnit text =>
    s!"`{text}` has no unit; write e.g. `500us`, `1ms`, `2KiB` — Malleus never assumes one"
  | unknownUnit unit kind expected =>
    s!"`{unit}` is not a valid {kind} unit (expected one of: {expected})"
  | overflow text => s!"`{text}` is too large to represent"

/-- Split a number from the unit behind it. -/
def splitValueUnit (text : String) : Except ParseUnitError (UInt64 × String) :=
  let trimmed := Text.trim text
  match Text.splitDigits trimmed with
  | none => .error (.missingUnit trimmed)
  | some (number, unit) =>
    if number = "" then .error (.missingNumber trimmed)
    else
      match Text.parseU64 number with
      | none => .error (.overflow trimmed)
      | some value => .ok (value, Text.trim unit)

/-- A number with one of the listed units, scaled by the unit's multiplier. -/
def parseScaled (kind expected : String) (units : List (String × UInt64)) (text : String) :
    Except ParseUnitError UInt64 := do
  let (value, unit) ← splitValueUnit text
  match units.lookup unit with
  | none => .error (.unknownUnit unit kind expected)
  | some multiplier =>
    match value.checkedMul multiplier with
    | none => .error (.overflow text)
    | some scaled => .ok scaled

/-- A duration, stored in nanoseconds. -/
structure Duration where
  nanos : UInt64
  deriving DecidableEq, Repr

namespace Duration

/-- A duration of a number of nanoseconds. -/
def fromNanos (nanos : UInt64) : Duration := ⟨nanos⟩

/-- The number of nanoseconds. -/
def asNanos (duration : Duration) : UInt64 := duration.nanos

/-- The ticks a duration lasts at a tick rate, rounded up. -/
def toTicks (duration : Duration) (tickHz : UInt64) : UInt64 :=
  if tickHz = 0 then 0
  else
    -- Whole seconds and the rest are converted apart, to stay in range for realistic inputs.
    let seconds := duration.nanos / 1000000000
    let remainder := duration.nanos % 1000000000
    (seconds.saturatingMul tickHz).saturatingAdd
      ((remainder.saturatingMul tickHz).divCeil 1000000000)

/-- Whether a duration is a multiple of the whole nanoseconds one tick lasts. -/
def isTickAligned (duration : Duration) (tickHz : UInt64) : Eval Bool := do
  if tickHz = 0 then
    return false
  else
    let tickNanos ← UInt64.strictDiv 1000000000 tickHz
    return tickNanos ≠ 0 && duration.nanos.isMultipleOf tickNanos

/-- The units a duration may carry, in nanoseconds. -/
def units : List (String × UInt64) :=
  [("ns", 1), ("us", 1000), ("µs", 1000), ("ms", 1000000), ("s", 1000000000)]

/-- The duration a text spells. -/
def fromStr (text : String) : Except ParseUnitError Duration :=
  (parseScaled "duration" "ns, us, ms, s" units text).map Duration.mk

/-- The text a duration is shown as: the largest unit it is a whole number of. -/
def display (duration : Duration) : String :=
  let n := duration.nanos
  if n ≥ 1000000000 && n.isMultipleOf 1000000000 then s!"{n / 1000000000}s"
  else if n ≥ 1000000 && n.isMultipleOf 1000000 then s!"{n / 1000000}ms"
  else if n ≥ 1000 && n.isMultipleOf 1000 then s!"{n / 1000}us"
  else s!"{n}ns"

end Duration

/-- A size in bytes. -/
structure ByteSize where
  bytes : UInt64
  deriving DecidableEq, Repr

namespace ByteSize

/-- A size of a number of bytes. -/
def fromBytes (bytes : UInt64) : ByteSize := ⟨bytes⟩

/-- The number of bytes. -/
def asBytes (size : ByteSize) : UInt64 := size.bytes

/-- The size of the smallest protection region that holds a reservation. -/
def toPowerOfTwo (size : ByteSize) : Eval ByteSize :=
  if size.bytes ≤ 1 then return ⟨1⟩
  else return ⟨← size.bytes.nextPowerOfTwo⟩

/-- The units a size may carry, in bytes. -/
def units : List (String × UInt64) := [("B", 1), ("KiB", 1024), ("MiB", 1024 * 1024)]

/-- The size a text spells. -/
def fromStr (text : String) : Except ParseUnitError ByteSize :=
  (parseScaled "size" "B, KiB, MiB" units text).map ByteSize.mk

/-- The text a size is shown as: the largest unit it is a whole number of. -/
def display (size : ByteSize) : String :=
  let n := size.bytes
  if n ≥ 1024 * 1024 && n.isMultipleOf (1024 * 1024) then s!"{n / (1024 * 1024)}MiB"
  else if n ≥ 1024 && n.isMultipleOf 1024 then s!"{n / 1024}KiB"
  else s!"{n}B"

end ByteSize

end Malleus
