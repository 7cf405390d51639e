import Malleus.Machine.Memory

/-! Exception entry on ARMv7-M: the frame the hardware stacks, and the value it leaves in LR. -/

namespace Malleus

open Machine

/-- What the processor runs: application code, or an exception handler. -/
inductive Mode where
  | thread
  | handler
  deriving DecidableEq, Repr

/-- The value exception entry leaves in LR, by mode, selected stack and kind of frame. -/
def excReturnOf : Mode → Bool → Bool → UInt32
  | .handler, _, false => 0xfffffff1
  | .thread, false, false => 0xfffffff9
  | .thread, true, false => 0xfffffffd
  | .handler, _, true => 0xffffffe1
  | .thread, false, true => 0xffffffe9
  | .thread, true, true => 0xffffffed

/-- The part of the processor's state that exception entry reads or writes. -/
structure Cpu where
  mode : Mode
  -- CONTROL.SPSEL: whether thread mode uses the process stack.
  spsel : Bool
  -- CONTROL.FPCA: whether the floating-point registers are in use.
  fpca : Bool
  -- CCR.STKALIGN: whether every frame is aligned to eight bytes.
  stkalign : Bool
  msp : UInt32
  psp : UInt32
  r0 : UInt32
  r1 : UInt32
  r2 : UInt32
  r3 : UInt32
  r12 : UInt32
  lr : UInt32
  returnAddress : UInt32
  xpsr : UInt32
  s : Vector UInt32 16
  fpscr : UInt32
  memory : Memory

namespace Cpu

/-- Whether the selected stack is the process stack. -/
def usesPsp (cpu : Cpu) : Bool := cpu.mode == .thread && cpu.spsel

/-- The stack pointer in use. -/
def stackPointer (cpu : Cpu) : UInt32 := if cpu.usesPsp then cpu.psp else cpu.msp

/-- Whether the frame is forced onto a multiple of eight bytes; an extended frame always is. -/
def forceAlign (cpu : Cpu) : Bool := cpu.fpca || cpu.stkalign

/-- The size of the frame, in bytes. -/
def frameSize (cpu : Cpu) : UInt32 := if cpu.fpca then 0x68 else 0x20

/-- Where the frame starts: the lowered stack pointer. -/
def framePointer (cpu : Cpu) : UInt32 :=
  (cpu.stackPointer - cpu.frameSize) &&& ~~~(if cpu.forceAlign then 4 else 0)

/-- The stacked xPSR: bit 9 tells whether aligning the frame skipped a word. -/
def stackedXpsr (cpu : Cpu) : UInt32 :=
  if cpu.forceAlign ∧ cpu.stackPointer &&& 4 ≠ 0 then cpu.xpsr ||| 0x200 else cpu.xpsr &&& ~~~0x200

/-- The words of the core frame, from its start. -/
def coreWords (cpu : Cpu) : List UInt32 :=
  [cpu.r0, cpu.r1, cpu.r2, cpu.r3, cpu.r12, cpu.lr, cpu.returnAddress, cpu.stackedXpsr]

/-- The words stored on entry: the core frame, and behind it the floating-point registers of an
extended one. Its last word is reserved, so it is not stored. -/
def frameWords (cpu : Cpu) : List UInt32 :=
  cpu.coreWords ++ if cpu.fpca then cpu.s.toList ++ [cpu.fpscr] else []

/-- The value left in LR. -/
def excReturn (cpu : Cpu) : UInt32 := excReturnOf cpu.mode cpu.spsel cpu.fpca

/-- Exception entry: the frame is stacked, and a handler starts on the main stack. -/
def takeException (cpu : Cpu) : Cpu :=
  { cpu with
    memory := cpu.memory.storeWords cpu.framePointer cpu.frameWords
    msp := if cpu.usesPsp then cpu.msp else cpu.framePointer
    psp := if cpu.usesPsp then cpu.framePointer else cpu.psp
    lr := cpu.excReturn
    mode := .handler
    spsel := false
    fpca := false }

/-- A handler finds the exception's return value in LR. -/
theorem takeException_lr (cpu : Cpu) : cpu.takeException.lr = cpu.excReturn := rfl

/-- A handler finds the frame in memory. -/
theorem takeException_memory (cpu : Cpu) :
    cpu.takeException.memory = cpu.memory.storeWords cpu.framePointer cpu.frameWords := by
  rw [takeException]

/-- A basic frame has eight words, an extended one stores twenty-five. -/
theorem length_frameWords (cpu : Cpu) :
    cpu.frameWords.length = if cpu.fpca then 25 else 8 := by
  -- Eight core words, then sixteen registers and FPSCR.
  cases extended : cpu.fpca <;> simp [frameWords, coreWords, extended]

/-- The stack pointer is lowered to the frame, and stays a word address. -/
theorem framePointer_aligned {cpu : Cpu} (aligned : cpu.stackPointer &&& 3 = 0) :
    cpu.framePointer &&& 3 = 0 := by
  have mask : ∀ value : UInt32, value &&& 3 = 0 ↔ value.toNat % 4 = 0 := by
    intro value
    have low := Nat.and_two_pow_sub_one_eq_mod value.toNat 2
    have three : (3 : UInt32).toNat = 2 ^ 2 - 1 := rfl
    rw [← UInt32.toNat_inj, UInt32.toNat_and, three, low]
    rfl
  -- The frame is a whole number of words, and alignment only clears bits.
  have lowered : (cpu.stackPointer - cpu.frameSize) &&& 3 = 0 := by
    rw [mask] at aligned ⊢
    rw [UInt32.toNat_sub]
    unfold frameSize
    split <;> simp only [UInt32.reduceToNat] <;> omega
  rw [framePointer, UInt32.and_assoc, UInt32.and_comm _ 3, ← UInt32.and_assoc, lowered,
    UInt32.zero_and]

/-- The core frame starts at the frame pointer, whatever follows it. -/
theorem loadWords_core (cpu : Cpu) :
    cpu.takeException.memory.loadWords cpu.framePointer 8 = cpu.coreWords := by
  have fits : cpu.frameWords.length ≤ 2 ^ 30 := by
    rw [length_frameWords]
    split <;> omega
  have whole := Memory.loadWords_storeWords cpu.memory cpu.framePointer fits
  -- The core words are the first eight of those stored.
  have first : cpu.frameWords.length = 8 + (cpu.frameWords.length - 8) := by
    rw [length_frameWords]
    split <;> rfl
  rw [first] at whole
  rw [takeException_memory, ← Memory.take_loadWords _ _ 8 (cpu.frameWords.length - 8), whole]
  exact List.take_left' rfl

/-- The reserved last word of an extended frame: memory as it was before. -/
def reservedWord (cpu : Cpu) : UInt32 := cpu.memory (Memory.wordAddress cpu.framePointer 25)

/-- Exception entry leaves the reserved word of an extended frame alone. -/
theorem takeException_reservedWord {cpu : Cpu} (extended : cpu.fpca = true) :
    cpu.takeException.memory (Memory.wordAddress cpu.framePointer 25) = cpu.reservedWord := by
  -- Twenty-five words are stored, so the one after them is not among them.
  rw [takeException_memory, reservedWord]
  apply Memory.storeWords_of_outside
  intro index within same
  rw [length_frameWords, extended, if_pos rfl] at within
  have last := Memory.wordAddress_inj (by omega) (by omega) same
  omega

/-- Eighteen words into an extended frame lie the last floating-point registers. -/
theorem loadWords_behind_core {cpu : Cpu} (extended : cpu.fpca = true) :
    cpu.takeException.memory.loadWords (Memory.wordAddress cpu.framePointer 18) 8
      = cpu.s.toList.drop 10 ++ [cpu.fpscr, cpu.reservedWord] := by
  have stored : cpu.frameWords.length = 25 := by rw [length_frameWords, extended, if_pos rfl]
  have fits : cpu.frameWords.length ≤ 2 ^ 30 := by omega
  have whole := Memory.loadWords_storeWords cpu.memory cpu.framePointer fits
  rw [stored, ← takeException_memory] at whole
  -- The whole frame is what was stored and the reserved word.
  have frame : cpu.takeException.memory.loadWords cpu.framePointer (18 + 8)
      = cpu.frameWords ++ [cpu.reservedWord] := by
    rw [← whole, ← takeException_reservedWord extended]
    simp [Memory.loadWords, List.range_succ]
  rw [← Memory.drop_loadWords, frame, frameWords, extended, if_pos rfl]
  -- Eight of the words skipped are the core frame, the other ten S0 to S9.
  have core : cpu.coreWords.length = 8 := rfl
  simp [List.drop_append, core]

end Cpu

end Malleus
