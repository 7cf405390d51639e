import Malleus.Manifest.Units

/-! The system manifest: its schema, its lookups, and the reading of its tick rate. -/

namespace Malleus

open Machine

/-- System-wide settings. -/
structure System where
  tickRate : String
  deriving DecidableEq, Repr

/-- One task declaration. -/
structure Task where
  name : String
  -- A higher number is more urgent.
  priority : UInt8
  stack : String
  period : Option String
  deadline : Option String
  wcet : Option String
  capabilities : List String
  deriving DecidableEq, Repr

/-- One declared channel between two tasks. -/
structure Channel where
  name : String
  «from» : String
  «to» : String
  capacity : UInt16
  overflow : String
  deriving DecidableEq, Repr

/-- A parsed system manifest. -/
structure Manifest where
  system : System
  tasks : List Task
  channels : List Channel
  deriving DecidableEq, Repr

/-- The first task of a name. -/
def Manifest.task (manifest : Manifest) (name : String) : Option Task :=
  manifest.tasks.find? fun task => task.name = name

/-- The endpoints of a channel; the last declaration of a name wins. -/
def Manifest.endpoints (manifest : Manifest) (name : String) : Option (String × String) :=
  manifest.channels.foldl
    (fun found channel => if channel.name = name then some (channel.from, channel.to) else found)
    none

/-- A number scaled by its frequency unit; a product outside the range is no frequency. -/
def scaleTickHz (value : UInt64) : String → Option UInt64
  | "Hz" => some value
  | "kHz" => value.checkedMul 1000
  | "MHz" => value.checkedMul 1000000
  | _ => none

/-- The frequency the validator reads from a tick rate, if it can interpret one. -/
def parseTickHz (text : String) : Option UInt64 := do
  let (number, unit) ← Text.splitDigits (Text.trim text)
  let value ← Text.parseU64 number
  scaleTickHz value (Text.trim unit)

end Malleus
