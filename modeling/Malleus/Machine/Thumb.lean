import Malleus.Machine.Memory
import Mathlib.Logic.Relation

/-! A straight-line fragment of the Thumb instruction set, as start-up and exception code uses it. -/

namespace Machine

namespace Thumb

/-- The general registers such code names. -/
inductive Register where
  | r0
  | r1
  | r2
  | r3
  | r12
  | lr
  deriving DecidableEq, Repr

/-- The special registers it reads. -/
inductive SpecialRegister where
  | ipsr
  | msp
  | psp
  deriving DecidableEq, Repr

/-- One instruction; branches name the index of their target. -/
inductive Instruction where
  -- A constant from the literal pool.
  | ldrConst (target : Register) (value : UInt32)
  | ldr (target base : Register)
  | str (source base : Register)
  -- The word forms that add four to the base afterwards.
  | ldrPost (target base : Register)
  | strPost (source base : Register)
  | movs (target : Register) (value : UInt32)
  | mov (target source : Register)
  | mrs (target : Register) (special : SpecialRegister)
  | cmp (first second : Register)
  | tst (register : Register) (mask : UInt32)
  | b (target : Nat)
  | bhs (target : Nat)
  | beq (target : Nat)
  | bne (target : Nat)
  | cpsidI
  -- A branch to a symbol outside the program.
  | leave
  deriving DecidableEq, Repr

/-- The registers, the two flags that branches read, the interrupt mask, and the next instruction. -/
structure Core where
  regs : Register → UInt32
  special : SpecialRegister → UInt32
  zero : Bool
  carry : Bool
  primask : Bool
  pc : Nat

namespace Core

/-- A register gets a value. -/
def set (core : Core) (register : Register) (value : UInt32) : Core :=
  { core with regs := Function.update core.regs register value }

/-- The next instruction in line follows. -/
def advance (core : Core) : Core := { core with pc := core.pc + 1 }

/-- The instruction at an index follows. -/
def jump (core : Core) (target : Nat) : Core := { core with pc := target }

@[simp] theorem set_regs (core : Core) (register : Register) (value : UInt32) :
    (core.set register value).regs = Function.update core.regs register value := rfl

@[simp] theorem set_special (core : Core) (register : Register) (value : UInt32) :
    (core.set register value).special = core.special := rfl

@[simp] theorem set_zero (core : Core) (register : Register) (value : UInt32) :
    (core.set register value).zero = core.zero := rfl

@[simp] theorem set_carry (core : Core) (register : Register) (value : UInt32) :
    (core.set register value).carry = core.carry := rfl

@[simp] theorem set_pc (core : Core) (register : Register) (value : UInt32) :
    (core.set register value).pc = core.pc := rfl

@[simp] theorem advance_regs (core : Core) : core.advance.regs = core.regs := rfl

@[simp] theorem advance_zero (core : Core) : core.advance.zero = core.zero := rfl

@[simp] theorem advance_carry (core : Core) : core.advance.carry = core.carry := rfl

@[simp] theorem advance_pc (core : Core) : core.advance.pc = core.pc + 1 := rfl

@[simp] theorem jump_regs (core : Core) (target : Nat) : (core.jump target).regs = core.regs := rfl

@[simp] theorem jump_pc (core : Core) (target : Nat) : (core.jump target).pc = target := rfl

end Core

/-- A processor between two instructions, with its memory. -/
structure State where
  core : Core
  memory : Memory

/-- The effect of one instruction; none follows a branch out of the program. -/
def execute (state : State) : Instruction → Option State
  | .ldrConst target value => some { state with core := (state.core.set target value).advance }
  | .ldr target base =>
    some { state with core := (state.core.set target (state.memory (state.core.regs base))).advance }
  | .str source base =>
    some
      { core := state.core.advance
        memory := Function.update state.memory (state.core.regs base) (state.core.regs source) }
  | .ldrPost target base =>
    let address := state.core.regs base
    some
      { state with
        core := ((state.core.set base (address + 4)).set target (state.memory address)).advance }
  | .strPost source base =>
    let address := state.core.regs base
    some
      { core := (state.core.set base (address + 4)).advance
        memory := Function.update state.memory address (state.core.regs source) }
  | .movs target value =>
    some { state with core := { (state.core.set target value).advance with zero := value == 0 } }
  | .mov target source =>
    some { state with core := (state.core.set target (state.core.regs source)).advance }
  | .mrs target special =>
    some { state with core := (state.core.set target (state.core.special special)).advance }
  | .cmp first second =>
    let left := state.core.regs first
    let right := state.core.regs second
    -- The subtraction sets Z when both are equal, and C when it does not borrow.
    some
      { state with
        core := { state.core.advance with zero := left == right, carry := decide (right ≤ left) } }
  | .tst register mask =>
    some
      { state with
        core := { state.core.advance with zero := state.core.regs register &&& mask == 0 } }
  | .b target => some { state with core := state.core.jump target }
  | .bhs target =>
    some { state with core := if state.core.carry then state.core.jump target else state.core.advance }
  | .beq target =>
    some { state with core := if state.core.zero then state.core.jump target else state.core.advance }
  | .bne target =>
    some { state with core := if state.core.zero then state.core.advance else state.core.jump target }
  | .cpsidI => some { state with core := { state.core.advance with primask := true } }
  | .leave => none

/-- One step of a program. -/
def step (program : List Instruction) (state : State) : Option State :=
  program[state.core.pc]?.bind (execute state)

/-- A step executes the instruction at the program counter. -/
theorem step_at {program : List Instruction} {core : Core} {memory : Memory} {index : Nat}
    {instruction : Instruction} {next : State} (pc : core.pc = index)
    (fetched : program[index]? = some instruction)
    (executed : execute ⟨core, memory⟩ instruction = some next) :
    step program ⟨core, memory⟩ = some next := by
  rw [step, pc, fetched, Option.bind_some, executed]

/-- The state after some steps of a program. -/
def run (program : List Instruction) : Nat → State → Option State
  | 0, state => some state
  | left + 1, state => (step program state).bind (run program left)

/-- A step and a run from there are a run. -/
theorem run_of_step {program : List Instruction} {state next final : State} {left : Nat}
    (stepped : step program state = some next) (later : run program left next = some final) :
    run program (left + 1) state = some final := by
  rw [run, stepped, Option.bind_some, later]

/-- A run can be taken in two parts. -/
theorem run_add (program : List Instruction) (first second : Nat) (state : State) :
    run program (first + second) state = (run program first state).bind (run program second) := by
  -- By induction on the first part, whose steps come first in the whole.
  induction first generalizing state with
  | zero => rw [Nat.zero_add, run, Option.bind_some]
  | succ first ih =>
    rw [Nat.succ_add, run, run, Option.bind_assoc]
    exact congrArg _ (funext ih)

/-- A run that has steps left takes one of them. -/
theorem exists_step_of_run {program : List Instruction} {state final : State} {left : Nat}
    (ran : run program (left + 1) state = some final) :
    ∃ next, step program state = some next ∧ run program left next = some final :=
  Option.bind_eq_some_iff.mp ran

/-- The states a program runs through. -/
def Reaches (program : List Instruction) : State → State → Prop :=
  Relation.ReflTransGen fun state next => step program state = some next

/-- An invariant that counts its remaining steps down is reached with none left. -/
theorem reaches_of_countdown {program : List Instruction} {holds : Nat → State → Prop}
    (advance : ∀ left state, holds (left + 1) state →
      ∃ next, step program state = some next ∧ holds left next)
    {left : Nat} {state : State} (start : holds left state) :
    ∃ final, Reaches program state final ∧ holds 0 final := by
  -- By induction on what is left: one step, then the rest.
  induction left generalizing state with
  | zero => exact ⟨state, .refl, start⟩
  | succ left ih =>
    obtain ⟨next, stepped, later⟩ := advance left state start
    obtain ⟨final, reached, done⟩ := ih later
    exact ⟨final, .head stepped reached, done⟩

/-- Every state on the way carries the countdown, since the program leaves no choice. -/
theorem exists_countdown_of_reaches {program : List Instruction} {holds : Nat → State → Prop}
    (advance : ∀ left state, holds (left + 1) state →
      ∃ next, step program state = some next ∧ holds left next)
    (halted : ∀ state, holds 0 state → step program state = none)
    {left : Nat} {start state : State} (begun : holds left start)
    (reached : Reaches program start state) : ∃ rest, holds rest state := by
  induction reached with
  | refl => exact ⟨left, begun⟩
  | tail _ stepped ih =>
    obtain ⟨rest, held⟩ := ih
    cases rest with
    | zero =>
      -- A state with no steps left has no next one.
      rw [halted _ held] at stepped
      cases stepped
    | succ rest =>
      obtain ⟨next, same, later⟩ := advance rest _ held
      rw [same, Option.some.injEq] at stepped
      exact ⟨rest, stepped ▸ later⟩

end Thumb

end Machine
