import Malleus.Arch.Fault
import Malleus.Arch.Startup

/-! Fault capture: the entry that claims it, and the snapshot it reads, writes and publishes. -/

namespace Malleus

open Machine

/-- ARMD: memory is valid and capture is armed. -/
def captureArmed : UInt32 := 0x41524d44

/-- CAPT: the common entry owns the capture. -/
def captureOwned : UInt32 := 0x43415054

/-- DONE: the complete snapshot is published. -/
def captureComplete : UInt32 := 0x444f4e45

/-- MALF: the snapshot may be interpreted. -/
def evidenceMagic : UInt32 := 0x4d414c46

def evidenceVersion : UInt32 := 1

def mmfarValid : UInt32 := (1 : UInt32) <<< 7

def bfarValid : UInt32 := (1 : UInt32) <<< 15

/-- The snapshot has the address of a memory-management fault. -/
def frameMmfarValid : UInt32 := (1 : UInt32) <<< 3

/-- The snapshot has the address of a bus fault. -/
def frameBfarValid : UInt32 := (1 : UInt32) <<< 4

/-- The frame recorded when none can be read. -/
def ExceptionFrame.unavailable : ExceptionFrame := ⟨0, 0, 0, 0, 0, 0, 0, 0⟩

/-- The snapshot a debugger reads. -/
structure FaultEvidence where
  magic : UInt32
  version : UInt32
  exceptionNumber : UInt32
  excReturn : UInt32
  stackPointer : UInt32
  frameFlags : UInt32
  r0 : UInt32
  r1 : UInt32
  r2 : UInt32
  r3 : UInt32
  r12 : UInt32
  lr : UInt32
  pc : UInt32
  xpsr : UInt32
  cfsr : UInt32
  hfsr : UInt32
  shcsr : UInt32
  mmfar : UInt32
  bfar : UInt32
  deriving DecidableEq, Repr

/-- The word of a snapshot that holds its magic. -/
abbrev magicWord : Fin 19 := 0

namespace FaultEvidence

/-- The words of a snapshot, in memory order. -/
def words (evidence : FaultEvidence) : List UInt32 :=
  [evidence.magic, evidence.version, evidence.exceptionNumber, evidence.excReturn,
    evidence.stackPointer, evidence.frameFlags, evidence.r0, evidence.r1, evidence.r2, evidence.r3,
    evidence.r12, evidence.lr, evidence.pc, evidence.xpsr, evidence.cfsr, evidence.hfsr,
    evidence.shcsr, evidence.mmfar, evidence.bfar]

/-- One word of a snapshot. -/
def word (evidence : FaultEvidence) (index : Fin 19) : UInt32 := evidence.words.get index

/-- The snapshot with the magic that authorizes its interpretation. -/
def published (evidence : FaultEvidence) : FaultEvidence := { evidence with magic := evidenceMagic }

/-- The first word is the magic. -/
@[simp] theorem word_magicWord (evidence : FaultEvidence) :
    evidence.word magicWord = evidence.magic := rfl

/-- Publishing changes no word but the first. -/
theorem word_published (evidence : FaultEvidence) {index : Fin 19} (other : index ≠ magicWord) :
    evidence.published.word index = evidence.word index := by
  -- Behind the first word both snapshots list the same fields.
  cases index using Fin.cases with
  | zero => exact absurd rfl other
  | succ index => rfl

end FaultEvidence

/-- The fault status registers. -/
inductive StatusRegister where
  | mmfar
  | bfar
  | cfsr
  | hfsr
  | shcsr
  deriving DecidableEq, Repr

/-- The address of a status register in the system control block. -/
def StatusRegister.address : StatusRegister → UInt32
  | .shcsr => 0xe000ed24
  | .cfsr => 0xe000ed28
  | .hfsr => 0xe000ed2c
  | .mmfar => 0xe000ed34
  | .bfar => 0xe000ed38

/-- The order in which the capture reads them: an address before the bit that validates it. -/
def StatusRegister.readOrder : List StatusRegister := [.mmfar, .bfar, .cfsr, .hfsr, .shcsr]

/-- What the entry passes to the capture. -/
structure CaptureArguments where
  exceptionNumber : UInt32
  excReturn : UInt32
  stackPointer : UInt32
  deriving DecidableEq, Repr

/-- The snapshot before its publication, of the registers read and the frame on the stack. -/
def captureEvidence (arguments : CaptureArguments) (status : StatusRegister → UInt32)
    (memory : Memory) : FaultEvidence :=
  let cfsr := status .cfsr
  let (frame, frameFlags) :=
    (readExceptionFrame memory arguments.stackPointer arguments.excReturn cfsr).getD
      (.unavailable, 0)
  let (mmfar, frameFlags) :=
    if cfsr &&& mmfarValid ≠ 0 then (status .mmfar, frameFlags ||| frameMmfarValid)
    else (0, frameFlags)
  let (bfar, frameFlags) :=
    if cfsr &&& bfarValid ≠ 0 then (status .bfar, frameFlags ||| frameBfarValid)
    else (0, frameFlags)
  { magic := 0
    version := evidenceVersion
    exceptionNumber := arguments.exceptionNumber
    excReturn := arguments.excReturn
    stackPointer := arguments.stackPointer
    frameFlags
    r0 := frame.r0
    r1 := frame.r1
    r2 := frame.r2
    r3 := frame.r3
    r12 := frame.r12
    lr := frame.lr
    pc := frame.pc
    xpsr := frame.xpsr
    cfsr
    hfsr := status .hfsr
    shcsr := status .shcsr
    mmfar
    bfar }

/-- Where the capture is, between two of its accesses to memory. -/
inductive CapturePoint where
  | reading (status : StatusRegister → UInt32) (pending : List StatusRegister)
  -- The words not yet written; with none left the magic is next.
  | writing (evidence : FaultEvidence) (pending : List (Fin 19))
  | completing (evidence : FaultEvidence)
  | halted (evidence : FaultEvidence)

/-- The capture when the entry calls it. -/
def CapturePoint.entered : CapturePoint := .reading (fun _ => 0) StatusRegister.readOrder

/-- The address of a word of the snapshot. -/
def Layout.evidenceAddress (layout : Layout) (index : Fin 19) : UInt32 :=
  Memory.wordAddress layout.faultEvidence index

/-- One access of the capture; the words of the snapshot are written in any order. -/
def CapturePoint.advance (layout : Layout) (arguments : CaptureArguments) (choice : Fin 19)
    (memory : Memory) : CapturePoint → Option (Memory × CapturePoint)
  | .reading status (register :: pending) =>
    some (memory, .reading (Function.update status register (memory register.address)) pending)
  | .reading status [] =>
    some (memory, .writing (captureEvidence arguments status memory) (List.finRange 19))
  | .writing evidence [] =>
    some (Function.update memory (layout.evidenceAddress magicWord) evidenceMagic,
      .completing evidence.published)
  | .writing evidence (first :: rest) =>
    if choice ∈ first :: rest then
      some
        (Function.update memory (layout.evidenceAddress choice) (evidence.word choice),
          .writing evidence ((first :: rest).filter (· ≠ choice)))
    else none
  | .completing evidence =>
    some (Function.update memory layout.captureState captureComplete, .halted evidence)
  | .halted evidence => some (memory, .halted evidence)

open Thumb in
/-- The exception vectors and the entry they share. -/
def faultEntry (layout : Layout) : List Instruction :=
  -- HardFault, MemManage, BusFault, UsageFault:
  [.b 4,
    .b 4,
    .b 4,
    .b 4,
    -- .Lmalleus_fault_entry, at index 4:
    .cpsidI,
    .ldrConst .r3 layout.captureState,
    .ldr .r12 .r3,
    .ldrConst .r2 captureArmed,
    .cmp .r12 .r2,
    .bne 20,
    .ldrConst .r12 captureOwned,
    .str .r12 .r3,
    .mrs .r0 .ipsr,
    .mov .r1 .lr,
    .tst .r1 4,
    .beq 18,
    .mrs .r2 .psp,
    .b 19,
    -- .Lmalleus_fault_msp, at index 18:
    .mrs .r2 .msp,
    -- .Lmalleus_fault_dispatch, at index 19:
    .leave,
    -- .Lmalleus_fault_terminal, at index 20:
    .b 20]

/-- The index of the call of the capture. -/
def enterCapture : Nat := 19

open Thumb in
/-- What the capture is passed when the entry calls it. -/
def captureArguments (core : Core) : CaptureArguments :=
  ⟨core.regs .r0, core.regs .r1, core.regs .r2⟩

open Thumb in
/-- The entry has stored its claim and not yet called the capture. -/
def Owns (core : Core) : Prop := 12 ≤ core.pc ∧ core.pc ≤ enterCapture

open Thumb in
/-- Where the entry is, and what its registers hold there while the capture is in a state. -/
inductive EntryAt (layout : Layout) (state : UInt32) : Core → Prop where
  | vector {core : Core} (pc : core.pc < 6) : EntryAt layout state core
  | load {core : Core} (pc : core.pc = 6) (r3 : core.regs .r3 = layout.captureState) :
    EntryAt layout state core
  | armedValue {core : Core} (pc : core.pc = 7) (r3 : core.regs .r3 = layout.captureState)
      (r12 : core.regs .r12 = state) : EntryAt layout state core
  | compare {core : Core} (pc : core.pc = 8) (r3 : core.regs .r3 = layout.captureState)
      (r12 : core.regs .r12 = state) (r2 : core.regs .r2 = captureArmed) :
    EntryAt layout state core
  | branch {core : Core} (pc : core.pc = 9) (r3 : core.regs .r3 = layout.captureState)
      (zero : core.zero = (state == captureArmed)) :
    EntryAt layout state core
  | claimValue {core : Core} (pc : core.pc = 10) (r3 : core.regs .r3 = layout.captureState)
      (armed : state = captureArmed) : EntryAt layout state core
  | claim {core : Core} (pc : core.pc = 11) (r3 : core.regs .r3 = layout.captureState)
      (r12 : core.regs .r12 = captureOwned) (armed : state = captureArmed) :
    EntryAt layout state core
  | owned {core : Core} (owns : Owns core) (claimed : state = captureOwned) :
    EntryAt layout state core
  | terminal {core : Core} (pc : core.pc = 20) : EntryAt layout state core

variable {layout : Layout} {memory : Memory}

/-- The instructions up to the load of the capture state leave memory alone. -/
theorem step_of_vector (layout : Layout) (memory : Memory) {core : Thumb.Core} (pc : core.pc < 6) :
    ∃ next, Thumb.step (faultEntry layout) ⟨core, memory⟩ = some ⟨next, memory⟩ ∧
      (next.pc < 6 ∨ next.pc = 6 ∧ next.regs .r3 = layout.captureState) := by
  -- The four vectors are the same branch.
  have positions : core.pc < 4 ∨ core.pc = 4 ∨ core.pc = 5 := by omega
  rcases positions with vector | entry | constant
  · have fetched : (faultEntry layout)[core.pc]? = some (.b 4) := by
      have each : core.pc = 0 ∨ core.pc = 1 ∨ core.pc = 2 ∨ core.pc = 3 := by omega
      rcases each with pc | pc | pc | pc <;> rw [pc] <;> rfl
    exact ⟨_, Thumb.step_at rfl fetched rfl, Or.inl (by simp)⟩
  · exact ⟨_, Thumb.step_at entry rfl rfl, Or.inl (by simp [entry])⟩
  · exact ⟨_, Thumb.step_at constant rfl rfl, Or.inr (by simp [constant])⟩

/-- The instructions between the claim and the call leave memory alone. -/
theorem step_of_owns (layout : Layout) (memory : Memory) {core : Thumb.Core} (owns : Owns core)
    (before : core.pc ≠ enterCapture) :
    ∃ next, Thumb.step (faultEntry layout) ⟨core, memory⟩ = some ⟨next, memory⟩ ∧ Owns next := by
  unfold Owns enterCapture at *
  -- There are seven instructions between them, none of which stores.
  have positions : core.pc = 12 ∨ core.pc = 13 ∨ core.pc = 14 ∨ core.pc = 15 ∨ core.pc = 16 ∨
      core.pc = 17 ∨ core.pc = 18 := by omega
  rcases positions with pc | pc | pc | pc | pc | pc | pc
  · exact ⟨_, Thumb.step_at pc rfl rfl, by simp [pc]⟩
  · exact ⟨_, Thumb.step_at pc rfl rfl, by simp [pc]⟩
  · exact ⟨_, Thumb.step_at pc rfl rfl, by simp [pc]⟩
  · -- The stack pointer is chosen by the flag just set.
    refine ⟨_, Thumb.step_at pc rfl rfl, ?_⟩
    cases core.zero <;> simp [pc]
  · exact ⟨_, Thumb.step_at pc rfl rfl, by simp [pc]⟩
  · exact ⟨_, Thumb.step_at pc rfl rfl, by simp⟩
  · exact ⟨_, Thumb.step_at pc rfl rfl, by simp [pc]⟩

/-- What the entry can do next. -/
inductive EntryStep (layout : Layout) (memory : Memory) (core : Thumb.Core) : Prop where
  | calls (pc : core.pc = enterCapture) (owned : memory layout.captureState = captureOwned)
  -- Memory is left alone, and nothing is claimed that was not.
  | passes (pc : core.pc ≠ enterCapture) (next : Thumb.Core)
    (stepped : Thumb.step (faultEntry layout) ⟨core, memory⟩ = some ⟨next, memory⟩)
    (later : EntryAt layout (memory layout.captureState) next) (owns : Owns next → Owns core)
  | claims (pc : core.pc ≠ enterCapture) (next : Thumb.Core)
    (armed : memory layout.captureState = captureArmed)
    (stepped : Thumb.step (faultEntry layout) ⟨core, memory⟩
      = some ⟨next, Function.update memory layout.captureState captureOwned⟩)
    (owns : Owns next)

/-- The entry calls the capture, takes a step that leaves memory alone, or claims an armed capture. -/
theorem EntryAt.advance {core : Thumb.Core}
    (held : EntryAt layout (memory layout.captureState) core) :
    EntryStep layout memory core := by
  -- Only two instructions do more than fill a register: the branch and the store of the claim.
  cases held with
  | vector pc =>
    have early : core.pc ≠ enterCapture := by
      unfold enterCapture
      omega
    obtain ⟨next, stepped, before | ⟨load, r3⟩⟩ := step_of_vector layout memory pc
    · refine .passes early next stepped (.vector before) ?_
      unfold Owns
      omega
    · refine .passes early next stepped (.load load r3) ?_
      unfold Owns
      omega
  | load pc r3 =>
    exact .passes (by simp [pc, enterCapture]) _ (Thumb.step_at pc rfl rfl)
      (.armedValue (by simp [pc]) (by simp [r3]) (by simp [r3])) (by simp [Owns, pc])
  | armedValue pc r3 r12 =>
    exact .passes (by simp [pc, enterCapture]) _ (Thumb.step_at pc rfl rfl)
      (.compare (by simp [pc]) (by simp [r3]) (by simp [r12]) (by simp)) (by simp [Owns, pc])
  | compare pc r3 r12 r2 =>
    exact .passes (by simp [pc, enterCapture]) _ (Thumb.step_at pc rfl rfl)
      (.branch (by simp [pc]) (by simp [r3]) (by simp [r12, r2])) (by simp [Owns, pc])
  | branch pc r3 zero =>
    have stepped : Thumb.step (faultEntry layout) ⟨core, memory⟩
        = some ⟨if core.zero then core.advance else core.jump 20, memory⟩ :=
      Thumb.step_at pc rfl rfl
    by_cases armed : memory layout.captureState = captureArmed
    · -- The comparison found the capture armed, so the branch falls through to the claim.
      rw [zero, beq_iff_eq.mpr armed] at stepped
      exact .passes (by simp [pc, enterCapture]) _ stepped
        (.claimValue (by simp [pc]) (by simp [r3]) armed) (by simp [Owns, pc])
    · rw [zero, beq_eq_false_iff_ne.mpr armed] at stepped
      exact .passes (by simp [pc, enterCapture]) _ stepped (.terminal (by simp))
        (by simp [Owns, enterCapture])
  | claimValue pc r3 armed =>
    exact .passes (by simp [pc, enterCapture]) _ (Thumb.step_at pc rfl rfl)
      (.claim (by simp [pc]) (by simp [r3]) (by simp) armed) (by simp [Owns, pc])
  | claim pc r3 r12 armed =>
    have claims : Thumb.execute ⟨core, memory⟩ (.str .r12 .r3)
        = some ⟨core.advance, Function.update memory layout.captureState captureOwned⟩ := by
      rw [Thumb.execute, r3, r12]
    exact .claims (by simp [pc, enterCapture]) _ armed (Thumb.step_at pc rfl claims)
      (by simp [Owns, pc, enterCapture])
  | owned owns claimed =>
    by_cases last : core.pc = enterCapture
    · exact .calls last claimed
    · obtain ⟨next, stepped, later⟩ := step_of_owns layout memory owns last
      exact .passes last next stepped (.owned later claimed) (fun _ => owns)
  | terminal pc =>
    exact .passes (by simp [pc, enterCapture]) _ (Thumb.step_at pc rfl rfl) (.terminal rfl)
      (by simp [Owns, enterCapture])

namespace Layout

/-- Different words of the snapshot have different addresses. -/
theorem evidenceAddress_inj (layout : Layout) {first second : Fin 19} :
    layout.evidenceAddress first = layout.evidenceAddress second ↔ first = second := by
  constructor
  -- The snapshot is too short to wrap around the address space.
  · intro same
    exact Fin.ext (Memory.wordAddress_inj (by omega) (by omega) same)
  · rintro rfl
    rfl

/-- The capture state is no word of the snapshot. -/
theorem captureState_ne_evidenceAddress (layout : Layout) (index : Fin 19) :
    layout.captureState ≠ layout.evidenceAddress index :=
  layout.captureState_apart index index.isLt

/-- The boot evidence is no word of the snapshot. -/
theorem bootEvidence_ne_evidenceAddress (layout : Layout) (index : Fin 19) :
    layout.bootEvidence ≠ layout.evidenceAddress index :=
  layout.bootEvidence_apart' index index.isLt

/-- The snapshot lies in the section that start-up leaves alone. -/
theorem evidenceAddress_placed (layout : Layout) (index : Fin 19) :
    layout.uninit.Contains (layout.evidenceAddress index) :=
  layout.faultEvidence_placed index index.isLt

end Layout

/-- Memory holds the words of a snapshot that are not pending. -/
def Holds (layout : Layout) (memory : Memory) (evidence : FaultEvidence)
    (pending : List (Fin 19)) : Prop :=
  ∀ index, index ∉ pending → memory (layout.evidenceAddress index) = evidence.word index

/-- The snapshot is what a capture makes of the registers and the frame it has read. -/
def Taken (arguments : CaptureArguments) (evidence : FaultEvidence) : Prop :=
  ∃ status memory, evidence = captureEvidence arguments status memory

/-- The snapshot is one that a capture has taken, with the magic. -/
def Published (arguments : CaptureArguments) (evidence : FaultEvidence) : Prop :=
  ∃ taken, Taken arguments taken ∧ evidence = taken.published

/-- A snapshot is taken without the magic. -/
theorem Taken.magic {arguments : CaptureArguments} {evidence : FaultEvidence}
    (taken : Taken arguments evidence) : evidence.magic = 0 := by
  obtain ⟨status, memory, rfl⟩ := taken
  rfl

/-- What memory holds while the capture is at a point. -/
def CaptureAt (layout : Layout) (memory : Memory) (arguments : CaptureArguments) :
    CapturePoint → Prop
  | .reading _ _ => memory layout.captureState = captureOwned
  | .writing evidence pending =>
    memory layout.captureState = captureOwned ∧ Taken arguments evidence ∧
      Holds layout memory evidence pending
  | .completing evidence =>
    memory layout.captureState = captureOwned ∧ Published arguments evidence ∧
      Holds layout memory evidence []
  | .halted evidence =>
    memory layout.captureState = captureComplete ∧ Published arguments evidence ∧
      Holds layout memory evidence []

/-- Writing a word of the snapshot keeps the words already there. -/
theorem Holds.write {evidence : FaultEvidence} {pending : List (Fin 19)}
    (held : Holds layout memory evidence pending) (choice : Fin 19) :
    Holds layout (Function.update memory (layout.evidenceAddress choice) (evidence.word choice))
      evidence (pending.filter (· ≠ choice)) := by
  intro index written
  -- The word chosen is written now, and any other was not pending before.
  by_cases same : index = choice
  · rw [same, Function.update_self]
  · have before : index ∉ pending := by
      simpa [same] using written
    rw [Function.update_of_ne (layout.evidenceAddress_inj.not.mpr same), held index before]

/-- Writing the magic behind all the words publishes the snapshot. -/
theorem Holds.publish {evidence : FaultEvidence} (held : Holds layout memory evidence []) :
    Holds layout (Function.update memory (layout.evidenceAddress magicWord) evidenceMagic)
      evidence.published [] := by
  intro index _
  -- The first word is the magic now, and the snapshot is the same behind it.
  by_cases first : index = magicWord
  · rw [first, Function.update_self]
    rfl
  · rw [Function.update_of_ne (layout.evidenceAddress_inj.not.mpr first), held index (by simp),
      evidence.word_published first]

/-- A word elsewhere can change without the snapshot noticing. -/
theorem Holds.of_same {evidence : FaultEvidence} {pending : List (Fin 19)} {next : Memory}
    (held : Holds layout memory evidence pending)
    (same : ∀ index, next (layout.evidenceAddress index) = memory (layout.evidenceAddress index)) :
    Holds layout next evidence pending :=
  fun index written => (same index).trans (held index written)

/-- What is done by an access of the capture. -/
inductive CapturePoint.Took (layout : Layout) (arguments : CaptureArguments) (choice : Fin 19)
    (memory : Memory) : CapturePoint → Memory → CapturePoint → Prop where
  | reads {status : StatusRegister → UInt32} {register : StatusRegister}
    {pending : List StatusRegister} :
    Took layout arguments choice memory (.reading status (register :: pending)) memory
      (.reading (Function.update status register (memory register.address)) pending)
  | assembles {status : StatusRegister → UInt32} :
    Took layout arguments choice memory (.reading status []) memory
      (.writing (captureEvidence arguments status memory) (List.finRange 19))
  | writes {evidence : FaultEvidence} {first : Fin 19} {rest : List (Fin 19)} :
    Took layout arguments choice memory (.writing evidence (first :: rest))
      (Function.update memory (layout.evidenceAddress choice) (evidence.word choice))
      (.writing evidence ((first :: rest).filter (· ≠ choice)))
  | publishes {evidence : FaultEvidence} :
    Took layout arguments choice memory (.writing evidence [])
      (Function.update memory (layout.evidenceAddress magicWord) evidenceMagic)
      (.completing evidence.published)
  | completes {evidence : FaultEvidence} :
    Took layout arguments choice memory (.completing evidence)
      (Function.update memory layout.captureState captureComplete) (.halted evidence)
  | halts {evidence : FaultEvidence} :
    Took layout arguments choice memory (.halted evidence) memory (.halted evidence)

section Access

variable {point later : CapturePoint} {arguments : CaptureArguments} {choice : Fin 19}
  {next : Memory}

/-- The capture does one of these at each point. -/
theorem CapturePoint.took_of_advance
    (stepped : point.advance layout arguments choice memory = some (next, later)) :
    point.Took layout arguments choice memory next later := by
  -- One constructor for each branch of the step; a word must be pending to be written.
  cases point with
  | reading status pending =>
    cases pending with
    | nil =>
      cases stepped
      exact .assembles
    | cons register pending =>
      cases stepped
      exact .reads
  | writing evidence pending =>
    cases pending with
    | nil =>
      cases stepped
      exact .publishes
    | cons first rest =>
      rw [advance, Option.ite_none_right_eq_some] at stepped
      cases stepped.2
      exact .writes
  | completing evidence =>
    cases stepped
    exact .completes
  | halted evidence =>
    cases stepped
    exact .halts

/-- Each access of the capture leaves memory as the next point needs it. -/
theorem CaptureAt.advance (held : CaptureAt layout memory arguments point)
    (took : point.Took layout arguments choice memory next later) :
    CaptureAt layout next arguments later := by
  have state := layout.captureState_ne_evidenceAddress
  cases took with
  | reads => exact held
  | assembles =>
    -- Before the first write every word is pending.
    exact ⟨held, ⟨_, _, rfl⟩, fun index written => absurd (List.mem_finRange index) written⟩
  | writes =>
    obtain ⟨owned, taken, holds⟩ := held
    exact ⟨by rw [Function.update_of_ne (state choice), owned], taken, holds.write choice⟩
  | publishes =>
    obtain ⟨owned, taken, holds⟩ := held
    exact ⟨by rw [Function.update_of_ne (state magicWord), owned], ⟨_, taken, rfl⟩, holds.publish⟩
  | completes =>
    obtain ⟨_, published, holds⟩ := held
    refine ⟨Function.update_self .., published, holds.of_same fun index => ?_⟩
    exact Function.update_of_ne (state index).symm ..
  | halts => exact held

/-- The capture writes to its snapshot and to the state of the capture, and nowhere else. -/
theorem CapturePoint.Took.of_outside (took : point.Took layout arguments choice memory next later)
    {address : UInt32} (state : address ≠ layout.captureState)
    (outside : ∀ index, address ≠ layout.evidenceAddress index) :
    next address = memory address := by
  -- Three of the accesses write, each to one address.
  cases took with
  | reads | assembles | halts => rfl
  | writes => exact Function.update_of_ne (outside choice) ..
  | publishes => exact Function.update_of_ne (outside magicWord) ..
  | completes => exact Function.update_of_ne state ..

end Access

/-- The entry has claimed the capture. -/
def Claimed (state : UInt32) : Prop := state = captureOwned ∨ state = captureComplete

/-- A claimed capture is not armed any more. -/
theorem Claimed.ne_armed {state : UInt32} (claimed : Claimed state) : state ≠ captureArmed := by
  rcases claimed with rfl | rfl <;> decide

/-- A claimed capture has been armed before. -/
theorem Claimed.ne_reset {state : UInt32} (claimed : Claimed state) : state ≠ resetInProgress := by
  rcases claimed with rfl | rfl <;> decide

/-- What lies elsewhere can change without the capture noticing. -/
theorem CaptureAt.of_same {arguments : CaptureArguments} {point : CapturePoint} {next : Memory}
    (held : CaptureAt layout memory arguments point)
    (state : next layout.captureState = memory layout.captureState)
    (same : ∀ index, next (layout.evidenceAddress index) = memory (layout.evidenceAddress index)) :
    CaptureAt layout next arguments point := by
  -- Every point looks at the state, and the later ones at the snapshot.
  cases point with
  | reading _ _ => exact state.trans held
  | writing _ _ | completing _ | halted _ =>
    exact ⟨state.trans held.1, held.2.1, held.2.2.of_same same⟩

/-- While a capture is under way the state says so, and from its end on that it is complete. -/
theorem CaptureAt.captureState {arguments : CaptureArguments} {point : CapturePoint}
    (held : CaptureAt layout memory arguments point) :
    memory layout.captureState = captureOwned ∨
      memory layout.captureState = captureComplete ∧ ∃ evidence, point = .halted evidence := by
  -- The state is written once, by the access that ends the capture.
  cases point with
  | reading _ _ => exact Or.inl held
  | writing _ _ => exact Or.inl held.1
  | completing _ => exact Or.inl held.1
  | halted evidence => exact Or.inr ⟨held.1, evidence, rfl⟩

/-- A capture runs under a claim. -/
theorem CaptureAt.claimed {arguments : CaptureArguments} {point : CapturePoint}
    (held : CaptureAt layout memory arguments point) : Claimed (memory layout.captureState) :=
  held.captureState.imp_right And.left

end Malleus
