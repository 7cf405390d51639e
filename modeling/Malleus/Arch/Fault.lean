import Malleus.Arch.ExceptionEntry

/-! Fault capture: the frame the handler reads back, against the frame the hardware stacked. -/

namespace Malleus

open Machine

def excReturnHandlerMspBasic : UInt32 := 0xfffffff1

def excReturnThreadMspBasic : UInt32 := 0xfffffff9

def excReturnThreadPspBasic : UInt32 := 0xfffffffd

def excReturnHandlerMspExtended : UInt32 := 0xffffffe1

def excReturnThreadMspExtended : UInt32 := 0xffffffe9

def excReturnThreadPspExtended : UInt32 := 0xffffffed

/-- Words the handler skips to reach the core registers of an extended frame. -/
def extendedFramePrefixWords : Nat := 18

/-- The CFSR bits of a failed stacking, unstacking or lazy state preservation. -/
def stackingErrorMask : UInt32 := 0x00003838

/-- The frame was read. -/
def frameValid : UInt32 := (1 : UInt32) <<< 0

/-- The frame holds floating-point registers. -/
def frameExtended : UInt32 := (1 : UInt32) <<< 1

/-- The frame lies on the process stack. -/
def frameUsedPsp : UInt32 := (1 : UInt32) <<< 2

/-- The core registers of a stacked frame. -/
structure ExceptionFrame where
  r0 : UInt32
  r1 : UInt32
  r2 : UInt32
  r3 : UInt32
  r12 : UInt32
  lr : UInt32
  pc : UInt32
  xpsr : UInt32
  deriving DecidableEq, Repr

/-- The words of a frame, in memory order. -/
def ExceptionFrame.words (frame : ExceptionFrame) : List UInt32 :=
  [frame.r0, frame.r1, frame.r2, frame.r3, frame.r12, frame.lr, frame.pc, frame.xpsr]

/-- Where the core registers lie in the frame of an EXC_RETURN value, and the flags that follow. -/
def frameLayout (excReturn : UInt32) : Option (Nat × UInt32) :=
  if excReturn = excReturnHandlerMspBasic ∨ excReturn = excReturnThreadMspBasic then
    some (0, 0)
  else if excReturn = excReturnThreadPspBasic then
    some (0, frameUsedPsp)
  else if excReturn = excReturnHandlerMspExtended ∨ excReturn = excReturnThreadMspExtended then
    some (extendedFramePrefixWords, frameExtended)
  else if excReturn = excReturnThreadPspExtended then
    some (extendedFramePrefixWords, frameExtended ||| frameUsedPsp)
  else none

/-- Whether CFSR reports that the frame may not be in memory. -/
def stackingFailed (cfsr : UInt32) : Bool := cfsr &&& stackingErrorMask ≠ 0

/-- The eight words at an address, as a frame. -/
def readFrame (memory : Memory) (pointer : UInt32) : ExceptionFrame where
  r0 := memory (Memory.wordAddress pointer 0)
  r1 := memory (Memory.wordAddress pointer 1)
  r2 := memory (Memory.wordAddress pointer 2)
  r3 := memory (Memory.wordAddress pointer 3)
  r12 := memory (Memory.wordAddress pointer 4)
  lr := memory (Memory.wordAddress pointer 5)
  pc := memory (Memory.wordAddress pointer 6)
  xpsr := memory (Memory.wordAddress pointer 7)

/-- The core frame on the stack of a fault, with its flags, unless it cannot be trusted. -/
def readExceptionFrame (memory : Memory) (stackPointer excReturn cfsr : UInt32) :
    Option (ExceptionFrame × UInt32) := do
  let (prefixWords, layoutFlags) ← frameLayout excReturn
  if stackingFailed cfsr ∨ stackPointer &&& 0x3 ≠ 0 then
    none
  else
    let frame := readFrame memory (Memory.wordAddress stackPointer prefixWords)
    some (frame, layoutFlags ||| frameValid)

/-- The stack pointer the entry code passes on, selected by bit 2 of the EXC_RETURN in LR. -/
def Cpu.faultStackPointer (cpu : Cpu) : UInt32 := if cpu.lr &&& 4 = 0 then cpu.msp else cpu.psp

/-- What the handler reads of a fault, once the hardware has entered it. -/
def Cpu.captureFrame (cpu : Cpu) (cfsr : UInt32) : Option (ExceptionFrame × UInt32) :=
  readExceptionFrame cpu.memory cpu.faultStackPointer cpu.lr cfsr

/-- The core registers the hardware stacks. -/
def Cpu.stackedFrame (cpu : Cpu) : ExceptionFrame :=
  ⟨cpu.r0, cpu.r1, cpu.r2, cpu.r3, cpu.r12, cpu.lr, cpu.returnAddress, cpu.stackedXpsr⟩

/-- The words of the stacked registers are the core words of the frame. -/
theorem Cpu.words_stackedFrame (cpu : Cpu) : cpu.stackedFrame.words = cpu.coreWords := rfl

/-- A frame is given by its words. -/
theorem ExceptionFrame.words_inj {first second : ExceptionFrame} :
    first.words = second.words ↔ first = second := by
  -- The eight words are the eight registers.
  cases first
  cases second
  simp [words]

/-- Reading a frame reads the eight words from its start. -/
theorem words_readFrame (memory : Memory) (pointer : UInt32) :
    (readFrame memory pointer).words = memory.loadWords pointer 8 := rfl

/-- The words the handler skips in the frame stacked. -/
def Cpu.skippedWords (cpu : Cpu) : Nat := if cpu.fpca then extendedFramePrefixWords else 0

/-- The flags of the frame stacked: its kind and its stack. -/
def Cpu.layoutFlags (cpu : Cpu) : UInt32 :=
  (if cpu.fpca then frameExtended else 0) ||| if cpu.usesPsp then frameUsedPsp else 0

/-- The value the hardware leaves in LR tells the handler the layout of the frame. -/
theorem Cpu.frameLayout_excReturn (cpu : Cpu) :
    frameLayout cpu.excReturn = some (cpu.skippedWords, cpu.layoutFlags) := by
  -- The value encodes mode, stack and kind of frame, so there is one case for each.
  have table : ∀ (mode : Mode) (spsel fpca : Bool), frameLayout (excReturnOf mode spsel fpca)
      = some (if fpca then extendedFramePrefixWords else 0,
        (if fpca then frameExtended else 0)
          ||| if mode == .thread && spsel then frameUsedPsp else 0) := by
    intro mode spsel fpca
    cases mode <;> cases spsel <;> cases fpca <;> rfl
  exact table cpu.mode cpu.spsel cpu.fpca

/-- The entry code selects the stack that the frame was pushed onto. -/
theorem Cpu.faultStackPointer_takeException (cpu : Cpu) :
    cpu.takeException.faultStackPointer = cpu.framePointer := by
  -- Bit 2 of the value in LR is set exactly for the process stack.
  have bit : ∀ (mode : Mode) (spsel fpca : Bool),
      excReturnOf mode spsel fpca &&& 4 = 0 ↔ (mode == .thread && spsel) = false := by
    intro mode spsel fpca
    cases mode <;> cases spsel <;> cases fpca <;> decide
  have selected : cpu.excReturn &&& 4 = 0 ↔ cpu.usesPsp = false := bit _ _ _
  rw [faultStackPointer, takeException_lr]
  simp only [selected, takeException]
  cases cpu.usesPsp <;> simp

/-- On an aligned stack, the handler reads a frame exactly if CFSR reports no stacking error. -/
theorem Cpu.readExceptionFrame_excReturn {cpu : Cpu} (aligned : cpu.stackPointer &&& 3 = 0)
    (memory : Memory) (cfsr : UInt32) :
    readExceptionFrame memory cpu.framePointer cpu.excReturn cfsr =
      if stackingFailed cfsr then none
      else some (readFrame memory (Memory.wordAddress cpu.framePointer cpu.skippedWords),
        cpu.layoutFlags ||| frameValid) := by
  -- The lowered stack pointer passes the handler's alignment check.
  have accepted : stackingFailed cfsr = true ∨ cpu.framePointer &&& 0x3 ≠ 0
      ↔ stackingFailed cfsr = true := by
    simp [framePointer_aligned aligned]
  simp only [readExceptionFrame, frameLayout_excReturn, Option.bind_eq_bind, Option.bind_some,
    accepted]

/-- On an aligned stack without a stacking error, the handler reads the frame its layout leads to. -/
theorem Cpu.captureFrame_takeException {cpu : Cpu} {cfsr : UInt32}
    (aligned : cpu.stackPointer &&& 3 = 0) (intact : stackingFailed cfsr = false) :
    cpu.takeException.captureFrame cfsr = some
      (readFrame cpu.takeException.memory (Memory.wordAddress cpu.framePointer cpu.skippedWords),
        cpu.layoutFlags ||| frameValid) := by
  rw [captureFrame, faultStackPointer_takeException, takeException_lr,
    readExceptionFrame_excReturn aligned, intact, if_neg Bool.false_ne_true]

/-- Fault capture recovers the stacked registers, with flags for the kind of frame and the stack. -/
def Cpu.RecoversFrame (cpu : Cpu) (cfsr : UInt32) : Prop :=
  ∃ flags, cpu.takeException.captureFrame cfsr = some (cpu.stackedFrame, flags)
    ∧ (flags &&& frameExtended ≠ 0 ↔ cpu.fpca = true)
    ∧ (flags &&& frameUsedPsp ≠ 0 ↔ cpu.usesPsp = true)

/-- The flags of a capture tell the kind of frame and the stack, whatever is read. -/
theorem Cpu.layoutFlags_spec (cpu : Cpu) :
    ((cpu.layoutFlags ||| frameValid) &&& frameExtended ≠ 0 ↔ cpu.fpca = true)
      ∧ ((cpu.layoutFlags ||| frameValid) &&& frameUsedPsp ≠ 0 ↔ cpu.usesPsp = true) := by
  unfold layoutFlags
  cases cpu.fpca <;> cases cpu.usesPsp <;> decide

/-- The words read are the registers stacked in a basic frame. In an extended one they are S10 to S15,
FPSCR and the reserved word, which may hold the same values. -/
theorem Cpu.readFrame_eq_stackedFrame_iff (cpu : Cpu) :
    readFrame cpu.takeException.memory (Memory.wordAddress cpu.framePointer cpu.skippedWords)
        = cpu.stackedFrame
      ↔ cpu.fpca = false
        ∨ cpu.s.toList.drop 10 ++ [cpu.fpscr, cpu.reservedWord] = cpu.stackedFrame.words := by
  -- Frames are compared by their words.
  rw [← ExceptionFrame.words_inj, words_readFrame, skippedWords]
  cases extended : cpu.fpca with
  | false =>
    -- A basic frame is read from its start.
    rw [if_neg Bool.false_ne_true, Memory.wordAddress_zero, loadWords_core, words_stackedFrame]
    simp
  | true =>
    -- An extended frame is read eighteen words in, where the core registers are not.
    rw [if_pos rfl, extendedFramePrefixWords, loadWords_behind_core extended]
    simp

/-- Fault capture recovers the stacked registers exactly from basic frames: from an extended frame it
reads S10 to S15, FPSCR and the reserved word in their place, so they must hold the same values. -/
theorem recoversFrame_iff {cpu : Cpu} {cfsr : UInt32} (aligned : cpu.stackPointer &&& 3 = 0)
    (intact : stackingFailed cfsr = false) :
    cpu.RecoversFrame cfsr ↔ cpu.fpca = false
      ∨ cpu.s.toList.drop 10 ++ [cpu.fpscr, cpu.reservedWord] = cpu.stackedFrame.words := by
  obtain ⟨kind, stack⟩ := cpu.layoutFlags_spec
  have captured := Cpu.captureFrame_takeException aligned intact
  rw [← cpu.readFrame_eq_stackedFrame_iff]
  -- Only the frame read depends on where the layout leads; the flags are right either way.
  simp only [Cpu.RecoversFrame, captured, Option.some.injEq, Prod.mk.injEq, and_assoc,
    exists_and_left, exists_eq_left', kind, stack, and_self, and_true]

/-- A thread that faults on its process stack without having used the floating-point unit. -/
def integerThread : Cpu where
  mode := .thread
  spsel := true
  fpca := false
  stkalign := true
  msp := 0x20010000
  psp := 0x2000800c
  r0 := 1
  r1 := 2
  r2 := 3
  r3 := 4
  r12 := 5
  lr := 0x08000101
  returnAddress := 0x08000200
  xpsr := 0x01000000
  s := .replicate 16 0
  fpscr := 0
  memory := fun _ => 0

/-- A fault of the integer thread is captured as it was stacked. -/
theorem integerThread_recovered : integerThread.RecoversFrame 0x00010000 :=
  (recoversFrame_iff (by decide) (by decide)).mpr (.inl rfl)

/-- The same thread after its first floating-point instruction. -/
def floatThread : Cpu := { integerThread with fpca := true }

/-- A fault of the floating-point thread is captured as eight zeros, not as the registers stacked. -/
theorem floatThread_misread :
    floatThread.stackPointer &&& 3 = 0 ∧ stackingFailed 0x00010000 = false
      ∧ (floatThread.takeException.captureFrame 0x00010000).map Prod.fst
        = some ⟨0, 0, 0, 0, 0, 0, 0, 0⟩
      ∧ floatThread.stackedFrame ≠ ⟨0, 0, 0, 0, 0, 0, 0, 0⟩
      ∧ ¬floatThread.RecoversFrame 0x00010000 := by
  have aligned : floatThread.stackPointer &&& 3 = 0 := by decide
  have intact : stackingFailed 0x00010000 = false := by decide
  have differ : floatThread.stackedFrame ≠ ⟨0, 0, 0, 0, 0, 0, 0, 0⟩ := by decide
  -- The words read are S10 to S15, FPSCR and the reserved word, which are all zero.
  have zeros : readFrame floatThread.takeException.memory
      (Memory.wordAddress floatThread.framePointer floatThread.skippedWords)
        = ⟨0, 0, 0, 0, 0, 0, 0, 0⟩ := by
    rw [← ExceptionFrame.words_inj, words_readFrame, show floatThread.skippedWords = 18 from rfl,
      Cpu.loadWords_behind_core rfl]
    decide
  have captured := Cpu.captureFrame_takeException aligned intact
  rw [zeros] at captured
  refine ⟨aligned, intact, by rw [captured]; rfl, differ, ?_⟩
  intro recovered
  obtain ⟨flags, same, -⟩ := recovered
  rw [captured, Option.some.injEq, Prod.mk.injEq] at same
  exact differ same.1.symm

end Malleus
