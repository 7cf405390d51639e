import Malleus.Machine.Thumb

/-! Reset: the linker's layout, the stub that initialises memory, and the first Rust entry. -/

namespace Malleus

open Machine

/-- Where the board's linker script places its memories. -/
def flashOrigin : Nat := 0x08000000

def flashLength : Nat := 2048 * 1024

def dtcmOrigin : Nat := 0x20000000

def dtcmLength : Nat := 128 * 1024

/-- The flash the program and the image of initialised data are in. -/
def InFlash (address : UInt32) : Prop :=
  flashOrigin ≤ address.toNat ∧ address.toNat < flashOrigin + flashLength

/-- A section of the tightly coupled memory. -/
structure InDtcm (region : Region) : Prop where
  starts : dtcmOrigin ≤ region.start.toNat
  ends : region.stop.toNat ≤ dtcmOrigin + dtcmLength

/-- The symbols of a linked image, with what the linker script places and asserts. -/
structure Layout where
  -- __sidata, then __sdata to __edata, __sbss to __ebss, __suninit to __euninit.
  sidata : UInt32
  data : Region
  bss : Region
  uninit : Region
  -- MALLEUS_FAULT_CAPTURE_STATE, MALLEUS_BOOT_EVIDENCE and MALLEUS_FAULT_EVIDENCE.
  captureState : UInt32
  bootEvidence : UInt32
  faultEvidence : UInt32
  data_whole : data.Whole
  bss_whole : bss.Whole
  sidata_aligned : sidata.toNat % 4 = 0
  image_starts : flashOrigin ≤ sidata.toNat
  image_ends : sidata.toNat + (data.stop.toNat - data.start.toNat) ≤ flashOrigin + flashLength
  data_dtcm : InDtcm data
  bss_dtcm : InDtcm bss
  uninit_dtcm : InDtcm uninit
  data_apart_bss : data.Apart bss
  data_apart_uninit : data.Apart uninit
  bss_apart_uninit : bss.Apart uninit
  captureState_placed : uninit.Contains captureState
  bootEvidence_placed : uninit.Contains bootEvidence
  faultEvidence_placed : ∀ word < 19, uninit.Contains (Memory.wordAddress faultEvidence word)
  bootEvidence_apart : bootEvidence ≠ captureState
  captureState_apart : ∀ word < 19, captureState ≠ Memory.wordAddress faultEvidence word
  bootEvidence_apart' : ∀ word < 19, bootEvidence ≠ Memory.wordAddress faultEvidence word

/-- RST0: memory initialisation is in progress. -/
def resetInProgress : UInt32 := 0x52535430

def dataPattern : UInt32 := 0x44415441

def evidenceOk : UInt32 := 0x4d414c32

def evidenceDataFailed : UInt32 := 0x44415441

def evidenceBssFailed : UInt32 := 0x42535321

def evidenceBothFailed : UInt32 := 0x424f5448

open Thumb in
/-- The reset stub; its last instructions are the call of the Rust entry and the loop behind it. -/
def resetStub (layout : Layout) : List Instruction :=
  -- Reset:
  [.ldrConst .r0 layout.captureState,
    .ldrConst .r1 resetInProgress,
    .str .r1 .r0,
    .ldrConst .r0 layout.sidata,
    .ldrConst .r1 layout.data.start,
    .ldrConst .r2 layout.data.stop,
    -- .Lcopy_data, at index 6:
    .cmp .r1 .r2,
    .bhs 11,
    .ldrPost .r3 .r0,
    .strPost .r3 .r1,
    .b 6,
    -- .Lzero_bss_start, at index 11:
    .ldrConst .r1 layout.bss.start,
    .ldrConst .r2 layout.bss.stop,
    .movs .r3 0,
    -- .Lzero_bss, at index 14:
    .cmp .r1 .r2,
    .bhs 18,
    .strPost .r3 .r1,
    .b 14,
    -- .Lenter_rust, at index 18, with the unexpected return behind it:
    .leave,
    .b 19]

/-- The index of the call of the Rust entry. -/
def enterRust : Nat := 18

namespace Layout

variable (layout : Layout) (initial : Memory)

/-- Memory once the stub has marked the reset. -/
def marked : Memory := Function.update initial layout.captureState resetInProgress

/-- Memory once the stub has copied some words of `.data`. -/
def copied (done : Nat) : Memory :=
  (layout.marked initial).storeWords layout.data.start
    ((layout.marked initial).loadWords layout.sidata done)

/-- Memory once the stub has also cleared some words of `.bss`. -/
def cleared (done : Nat) : Memory :=
  (layout.copied initial layout.data.words).storeWords layout.bss.start (List.replicate done 0)

variable {layout initial}

/-- Flash is not part of any section in the tightly coupled memory. -/
theorem not_contains_of_inFlash {region : Region} (placed : InDtcm region) {address : UInt32}
    (flash : InFlash address) : ¬region.Contains address := by
  intro inside
  -- Flash ends below the start of the tightly coupled memory.
  have lower := UInt32.le_iff_toNat_le.mp inside.1
  have starts := placed.starts
  have ends := flash.2
  simp only [flashOrigin, flashLength, dtcmOrigin] at starts ends
  omega

/-- The load image of `.data` lies in flash. -/
theorem inFlash_image (layout : Layout) {index : Nat} (within : index < layout.data.words) :
    InFlash (Memory.wordAddress layout.sidata index) := by
  have starts := layout.image_starts
  have ends := layout.image_ends
  unfold Region.words at within
  simp only [flashOrigin, flashLength] at starts ends
  -- The image is as long as the section, and ends within flash.
  rw [InFlash, Memory.toNat_wordAddress (by omega)]
  simp only [flashOrigin, flashLength]
  omega

/-- Copying leaves every address outside `.data` alone. -/
theorem copied_of_outside {done : Nat} (within : done ≤ layout.data.words) {address : UInt32}
    (outside : ¬layout.data.Contains address) :
    layout.copied initial done address = layout.marked initial address := by
  apply Memory.storeWords_of_outside
  -- Every word the copy has stored so far lies in the section.
  intro index below same
  rw [Memory.length_loadWords] at below
  exact outside (same ▸ Region.contains_wordAddress layout.data_whole (by omega))

/-- Clearing leaves every address outside `.bss` alone. -/
theorem cleared_of_outside {done : Nat} (within : done ≤ layout.bss.words) {address : UInt32}
    (outside : ¬layout.bss.Contains address) :
    layout.cleared initial done address = layout.copied initial layout.data.words address := by
  apply Memory.storeWords_of_outside
  -- Every word cleared so far lies in the section.
  intro index below same
  rw [List.length_replicate] at below
  exact outside (same ▸ Region.contains_wordAddress layout.bss_whole (by omega))

/-- The next word copied is the next word of the load image. -/
theorem copied_succ {done : Nat} (within : done < layout.data.words) :
    Function.update (layout.copied initial done) (Memory.wordAddress layout.data.start done)
        (layout.copied initial done (Memory.wordAddress layout.sidata done))
      = layout.copied initial (done + 1) := by
  -- The load image is in flash, so copying has not touched it.
  have source : layout.copied initial done (Memory.wordAddress layout.sidata done) = _ :=
    copied_of_outside (Nat.le_of_lt within)
      (not_contains_of_inFlash layout.data_dtcm (layout.inFlash_image within))
  rw [source, copied, copied, Memory.loadWords_succ, Memory.storeWords_concat,
    Memory.length_loadWords]

/-- The next word cleared is one more zero. -/
theorem cleared_succ (done : Nat) :
    Function.update (layout.cleared initial done) (Memory.wordAddress layout.bss.start done) 0
      = layout.cleared initial (done + 1) := by
  rw [cleared, cleared, List.replicate_succ', Memory.storeWords_concat, List.length_replicate]

end Layout

/-- Steps from the head of the clearing loop to the Rust entry. -/
def clearSteps (rest : Nat) : Nat := 4 * rest + 2

/-- Steps from the head of the copying loop to the Rust entry. -/
def Layout.copySteps (layout : Layout) (rest : Nat) : Nat :=
  5 * rest + 2 + (clearSteps layout.bss.words + 3)

/-- Comparing the next word with the end sets the carry flag exactly when no words are left. -/
theorem carry_wordAddress {region : Region} (whole : region.Whole) {done rest : Nat}
    (sum : done + rest = region.words) :
    decide (region.stop ≤ Memory.wordAddress region.start done) = decide (rest = 0) := by
  rw [decide_eq_decide, Region.stop_le_wordAddress_iff whole (by omega)]
  omega

open Thumb in
/-- Where the stub is, what its registers and memory hold there, and how many steps are left. -/
inductive ResetAt (layout : Layout) (initial : Memory) : Nat → State → Prop where
  | stateAddress {core : Core} (pc : core.pc = 0) :
    ResetAt layout initial (layout.copySteps layout.data.words + 6) ⟨core, initial⟩
  | stateValue {core : Core} (pc : core.pc = 1) (r0 : core.regs .r0 = layout.captureState) :
    ResetAt layout initial (layout.copySteps layout.data.words + 5) ⟨core, initial⟩
  | storeState {core : Core} (pc : core.pc = 2) (r0 : core.regs .r0 = layout.captureState)
      (r1 : core.regs .r1 = resetInProgress) :
    ResetAt layout initial (layout.copySteps layout.data.words + 4) ⟨core, initial⟩
  | imageStart {core : Core} (pc : core.pc = 3) :
    ResetAt layout initial (layout.copySteps layout.data.words + 3) ⟨core, layout.marked initial⟩
  | dataStart {core : Core} (pc : core.pc = 4) (r0 : core.regs .r0 = layout.sidata) :
    ResetAt layout initial (layout.copySteps layout.data.words + 2) ⟨core, layout.marked initial⟩
  | dataEnd {core : Core} (pc : core.pc = 5) (r0 : core.regs .r0 = layout.sidata)
      (r1 : core.regs .r1 = layout.data.start) :
    ResetAt layout initial (layout.copySteps layout.data.words + 1) ⟨core, layout.marked initial⟩
  | copyCompare {core : Core} {done rest : Nat} (pc : core.pc = 6)
      (whole : done + rest = layout.data.words)
      (r0 : core.regs .r0 = Memory.wordAddress layout.sidata done)
      (r1 : core.regs .r1 = Memory.wordAddress layout.data.start done)
      (r2 : core.regs .r2 = layout.data.stop) :
    ResetAt layout initial (layout.copySteps rest) ⟨core, layout.copied initial done⟩
  | copyExit {core : Core} {done rest : Nat} (pc : core.pc = 7)
      (whole : done + rest = layout.data.words)
      (r0 : core.regs .r0 = Memory.wordAddress layout.sidata done)
      (r1 : core.regs .r1 = Memory.wordAddress layout.data.start done)
      (r2 : core.regs .r2 = layout.data.stop) (carry : core.carry = decide (rest = 0)) :
    ResetAt layout initial (layout.copySteps rest - 1) ⟨core, layout.copied initial done⟩
  | copyLoad {core : Core} {done rest : Nat} (pc : core.pc = 8)
      (whole : done + (rest + 1) = layout.data.words)
      (r0 : core.regs .r0 = Memory.wordAddress layout.sidata done)
      (r1 : core.regs .r1 = Memory.wordAddress layout.data.start done)
      (r2 : core.regs .r2 = layout.data.stop) :
    ResetAt layout initial (layout.copySteps rest + 3) ⟨core, layout.copied initial done⟩
  | copyStore {core : Core} {done rest : Nat} (pc : core.pc = 9)
      (whole : done + (rest + 1) = layout.data.words)
      (r0 : core.regs .r0 = Memory.wordAddress layout.sidata (done + 1))
      (r1 : core.regs .r1 = Memory.wordAddress layout.data.start done)
      (r2 : core.regs .r2 = layout.data.stop)
      (r3 : core.regs .r3 = layout.copied initial done (Memory.wordAddress layout.sidata done)) :
    ResetAt layout initial (layout.copySteps rest + 2) ⟨core, layout.copied initial done⟩
  | copyAgain {core : Core} {done rest : Nat} (pc : core.pc = 10)
      (whole : done + rest = layout.data.words)
      (r0 : core.regs .r0 = Memory.wordAddress layout.sidata done)
      (r1 : core.regs .r1 = Memory.wordAddress layout.data.start done)
      (r2 : core.regs .r2 = layout.data.stop) :
    ResetAt layout initial (layout.copySteps rest + 1) ⟨core, layout.copied initial done⟩
  | bssStart {core : Core} (pc : core.pc = 11) :
    ResetAt layout initial (clearSteps layout.bss.words + 3)
      ⟨core, layout.copied initial layout.data.words⟩
  | bssEnd {core : Core} (pc : core.pc = 12) (r1 : core.regs .r1 = layout.bss.start) :
    ResetAt layout initial (clearSteps layout.bss.words + 2)
      ⟨core, layout.copied initial layout.data.words⟩
  | clearValue {core : Core} (pc : core.pc = 13) (r1 : core.regs .r1 = layout.bss.start)
      (r2 : core.regs .r2 = layout.bss.stop) :
    ResetAt layout initial (clearSteps layout.bss.words + 1)
      ⟨core, layout.copied initial layout.data.words⟩
  | clearCompare {core : Core} {done rest : Nat} (pc : core.pc = 14)
      (whole : done + rest = layout.bss.words)
      (r1 : core.regs .r1 = Memory.wordAddress layout.bss.start done)
      (r2 : core.regs .r2 = layout.bss.stop) (r3 : core.regs .r3 = 0) :
    ResetAt layout initial (clearSteps rest) ⟨core, layout.cleared initial done⟩
  | clearExit {core : Core} {done rest : Nat} (pc : core.pc = 15)
      (whole : done + rest = layout.bss.words)
      (r1 : core.regs .r1 = Memory.wordAddress layout.bss.start done)
      (r2 : core.regs .r2 = layout.bss.stop) (r3 : core.regs .r3 = 0)
      (carry : core.carry = decide (rest = 0)) :
    ResetAt layout initial (clearSteps rest - 1) ⟨core, layout.cleared initial done⟩
  | clearStore {core : Core} {done rest : Nat} (pc : core.pc = 16)
      (whole : done + (rest + 1) = layout.bss.words)
      (r1 : core.regs .r1 = Memory.wordAddress layout.bss.start done)
      (r2 : core.regs .r2 = layout.bss.stop) (r3 : core.regs .r3 = 0) :
    ResetAt layout initial (clearSteps rest + 2) ⟨core, layout.cleared initial done⟩
  | clearAgain {core : Core} {done rest : Nat} (pc : core.pc = 17)
      (whole : done + rest = layout.bss.words)
      (r1 : core.regs .r1 = Memory.wordAddress layout.bss.start done)
      (r2 : core.regs .r2 = layout.bss.stop) (r3 : core.regs .r3 = 0) :
    ResetAt layout initial (clearSteps rest + 1) ⟨core, layout.cleared initial done⟩
  | rust {core : Core} (pc : core.pc = enterRust) :
    ResetAt layout initial 0 ⟨core, layout.cleared initial layout.bss.words⟩

variable {layout : Layout} {initial : Memory}

open Thumb in
/-- The stub is at the call of the Rust entry, or it takes one more of the steps left. -/
theorem ResetAt.advance {left : Nat} {state : State} (held : ResetAt layout initial left state) :
    (state.core.pc = enterRust ∧ left = 0) ∨
      ∃ next rest, step (resetStub layout) state = some next ∧ left = rest + 1 ∧
        ResetAt layout initial rest next := by
  cases held with
  | stateAddress pc =>
    exact Or.inr ⟨_, _, step_at pc rfl rfl, rfl, .stateValue (by simp [pc]) (by simp)⟩
  | stateValue pc r0 =>
    exact Or.inr ⟨_, _, step_at pc rfl rfl, rfl, .storeState (by simp [pc]) (by simp [r0]) (by simp)⟩
  | @storeState core pc r0 r1 =>
    have marks : execute ⟨core, initial⟩ (.str .r1 .r0)
        = some ⟨core.advance, layout.marked initial⟩ := by
      rw [execute, r0, r1, Layout.marked]
    exact Or.inr ⟨_, _, step_at pc rfl marks, rfl, .imageStart (by simp [pc])⟩
  | imageStart pc =>
    exact Or.inr ⟨_, _, step_at pc rfl rfl, rfl, .dataStart (by simp [pc]) (by simp)⟩
  | dataStart pc r0 =>
    exact Or.inr ⟨_, _, step_at pc rfl rfl, rfl, .dataEnd (by simp [pc]) (by simp [r0]) (by simp)⟩
  | dataEnd pc r0 r1 =>
    exact Or.inr ⟨_, _, step_at pc rfl rfl, rfl, .copyCompare (by simp [pc]) (Nat.zero_add _)
      (by simp [r0]) (by simp [r1]) (by simp)⟩
  | @copyCompare core done rest pc whole r0 r1 r2 =>
    have carry : decide (core.regs .r2 ≤ core.regs .r1) = decide (rest = 0) := by
      rw [r1, r2, carry_wordAddress layout.data_whole whole]
    refine Or.inr ⟨_, _, step_at pc rfl rfl, ?_, .copyExit (by simp [pc]) whole r0 r1 r2 carry⟩
    rw [Layout.copySteps]
    omega
  | @copyExit core done rest pc whole r0 r1 r2 carry =>
    cases rest with
    | zero =>
      -- Everything is copied, so the stub goes on to clear.
      have exits : execute ⟨core, layout.copied initial done⟩ (.bhs 11)
          = some ⟨core.jump 11, layout.copied initial layout.data.words⟩ := by
        rw [Nat.add_zero] at whole
        simp [execute, carry, whole]
      refine Or.inr ⟨_, _, step_at pc rfl exits, ?_, .bssStart rfl⟩
      rw [Layout.copySteps]
      omega
    | succ rest =>
      have stays : execute ⟨core, layout.copied initial done⟩ (.bhs 11)
          = some ⟨core.advance, layout.copied initial done⟩ := by
        simp [execute, carry]
      refine Or.inr ⟨_, _, step_at pc rfl stays, ?_, .copyLoad (by simp [pc]) whole r0 r1 r2⟩
      rw [Layout.copySteps, Layout.copySteps]
      omega
  | @copyLoad core done rest pc whole r0 r1 r2 =>
    have next : core.regs .r0 + 4 = Memory.wordAddress layout.sidata (done + 1) := by
      rw [r0, Memory.wordAddress_add_four]
    exact Or.inr ⟨_, _, step_at pc rfl rfl, rfl, .copyStore (by simp [pc]) whole (by simp [next])
      (by simp [r1]) (by simp [r2]) (by simp [r0])⟩
  | @copyStore core done rest pc whole r0 r1 r2 r3 =>
    have copies : execute ⟨core, layout.copied initial done⟩ (.strPost .r3 .r1)
        = some ⟨(core.set .r1 (Memory.wordAddress layout.data.start (done + 1))).advance,
          layout.copied initial (done + 1)⟩ := by
      rw [execute, r1, r3, Memory.wordAddress_add_four, Layout.copied_succ (by omega)]
    exact Or.inr ⟨_, _, step_at pc rfl copies, rfl, .copyAgain (by simp [pc]) (by omega)
      (by simp [r0]) (by simp) (by simp [r2])⟩
  | copyAgain pc whole r0 r1 r2 =>
    exact Or.inr ⟨_, _, step_at pc rfl rfl, rfl, .copyCompare rfl whole r0 r1 r2⟩
  | bssStart pc =>
    exact Or.inr ⟨_, _, step_at pc rfl rfl, rfl, .bssEnd (by simp [pc]) (by simp)⟩
  | bssEnd pc r1 =>
    exact Or.inr ⟨_, _, step_at pc rfl rfl, rfl, .clearValue (by simp [pc]) (by simp [r1]) (by simp)⟩
  | clearValue pc r1 r2 =>
    exact Or.inr ⟨_, _, step_at pc rfl rfl, rfl, .clearCompare (by simp [pc]) (Nat.zero_add _)
      (by simp [r1]) (by simp [r2]) (by simp)⟩
  | @clearCompare core done rest pc whole r1 r2 r3 =>
    have carry : decide (core.regs .r2 ≤ core.regs .r1) = decide (rest = 0) := by
      rw [r1, r2, carry_wordAddress layout.bss_whole whole]
    refine Or.inr ⟨_, _, step_at pc rfl rfl, ?_, .clearExit (by simp [pc]) whole r1 r2 r3 carry⟩
    rw [clearSteps]
    omega
  | @clearExit core done rest pc whole r1 r2 r3 carry =>
    cases rest with
    | zero =>
      have exits : execute ⟨core, layout.cleared initial done⟩ (.bhs 18)
          = some ⟨core.jump enterRust, layout.cleared initial layout.bss.words⟩ := by
        rw [Nat.add_zero] at whole
        simp [execute, carry, whole, enterRust]
      exact Or.inr ⟨_, _, step_at pc rfl exits, rfl, .rust rfl⟩
    | succ rest =>
      have stays : execute ⟨core, layout.cleared initial done⟩ (.bhs 18)
          = some ⟨core.advance, layout.cleared initial done⟩ := by
        simp [execute, carry]
      refine Or.inr ⟨_, _, step_at pc rfl stays, ?_, .clearStore (by simp [pc]) whole r1 r2 r3⟩
      rw [clearSteps, clearSteps]
      omega
  | @clearStore core done rest pc whole r1 r2 r3 =>
    have clears : execute ⟨core, layout.cleared initial done⟩ (.strPost .r3 .r1)
        = some ⟨(core.set .r1 (Memory.wordAddress layout.bss.start (done + 1))).advance,
          layout.cleared initial (done + 1)⟩ := by
      rw [execute, r1, r3, Memory.wordAddress_add_four, Layout.cleared_succ]
    exact Or.inr ⟨_, _, step_at pc rfl clears, rfl, .clearAgain (by simp [pc]) (by omega)
      (by simp) (by simp [r2]) (by simp [r3])⟩
  | clearAgain pc whole r1 r2 r3 =>
    exact Or.inr ⟨_, _, step_at pc rfl rfl, rfl, .clearCompare rfl whole r1 r2 r3⟩
  | rust pc => exact Or.inl ⟨pc, rfl⟩

/-- Both initialised sections hold what the reset stub puts there. -/
structure RamReady (layout : Layout) (initial memory : Memory) : Prop where
  data : ∀ address, layout.data.Contains address → address.toNat % 4 = 0 →
    memory address = initial (layout.sidata + (address - layout.data.start))
  bss : ∀ address, layout.bss.Contains address → address.toNat % 4 = 0 → memory address = 0

/-- What the reset stub leaves behind of the memory it found. -/
structure RamContract (layout : Layout) (initial final : Memory) : Prop
    extends RamReady layout initial final where
  captureState : final layout.captureState = resetInProgress
  frame : ∀ address, ¬layout.data.Contains address → ¬layout.bss.Contains address →
    address ≠ layout.captureState → final address = initial address

namespace Layout

/-- The capture state is in neither of the sections that are initialised. -/
theorem captureState_outside (layout : Layout) :
    ¬layout.data.Contains layout.captureState ∧ ¬layout.bss.Contains layout.captureState :=
  ⟨fun inside => layout.data_apart_uninit _ inside layout.captureState_placed,
    fun inside => layout.bss_apart_uninit _ inside layout.captureState_placed⟩

/-- Copying leaves the mark of the reset alone. -/
theorem copied_captureState {done : Nat} (within : done ≤ layout.data.words) :
    layout.copied initial done layout.captureState = resetInProgress := by
  rw [copied_of_outside within layout.captureState_outside.1, marked, Function.update_self]

/-- Clearing leaves the mark of the reset alone. -/
theorem cleared_captureState {done : Nat} (within : done ≤ layout.bss.words) :
    layout.cleared initial done layout.captureState = resetInProgress := by
  rw [cleared_of_outside within layout.captureState_outside.2, copied_captureState le_rfl]

/-- Marking the reset leaves flash alone. -/
theorem marked_of_inFlash {address : UInt32} (flash : InFlash address) :
    layout.marked initial address = initial address := by
  apply Function.update_of_ne
  rintro rfl
  exact not_contains_of_inFlash layout.uninit_dtcm flash layout.captureState_placed

/-- The load address of a word of `.data` is as far from the image's start as the word from its own. -/
theorem wordAddress_sidata (index : Nat) :
    layout.sidata + (Memory.wordAddress layout.data.start index - layout.data.start)
      = Memory.wordAddress layout.sidata index := by
  rw [Memory.wordAddress, Memory.wordAddress, UInt32.add_comm layout.data.start,
    UInt32.add_sub_cancel]

/-- A copied word of `.data` is the word of the load image. -/
theorem copied_wordAddress {index : Nat} (within : index < layout.data.words) :
    layout.copied initial layout.data.words (Memory.wordAddress layout.data.start index)
      = initial (Memory.wordAddress layout.sidata index) := by
  have fits := layout.data.words_le
  rw [copied, Memory.storeWords_wordAddress _ _ (by simpa using fits) (by simpa using within),
    Memory.getElem_loadWords, marked_of_inFlash (layout.inFlash_image within)]

/-- A cleared word of `.bss` is zero. -/
theorem cleared_wordAddress {index : Nat} (within : index < layout.bss.words) :
    layout.cleared initial layout.bss.words (Memory.wordAddress layout.bss.start index) = 0 := by
  have fits := layout.bss.words_le
  rw [cleared, Memory.storeWords_wordAddress _ _ (by simpa using fits) (by simpa using within),
    List.getElem_replicate]

end Layout

/-- The memories the stub goes through. -/
inductive Initialising (layout : Layout) (initial : Memory) : Memory → Prop where
  | untouched : Initialising layout initial initial
  | marked : Initialising layout initial (layout.marked initial)
  | copied {done : Nat} (within : done ≤ layout.data.words) :
    Initialising layout initial (layout.copied initial done)
  | cleared {done : Nat} (within : done ≤ layout.bss.words) :
    Initialising layout initial (layout.cleared initial done)

open Thumb in
/-- At every position of the stub memory is one of these. -/
theorem ResetAt.initialising {left : Nat} {state : State} (held : ResetAt layout initial left state) :
    Initialising layout initial state.memory := by
  -- How far each loop has come is part of its positions.
  cases held with
  | stateAddress _ | stateValue _ _ | storeState _ _ _ => exact .untouched
  | imageStart _ | dataStart _ _ | dataEnd _ _ _ => exact .marked
  | copyCompare _ whole _ _ _ | copyExit _ whole _ _ _ _ | copyLoad _ whole _ _ _
  | copyStore _ whole _ _ _ _ | copyAgain _ whole _ _ _ => exact .copied (by omega)
  | bssStart _ | bssEnd _ _ | clearValue _ _ _ => exact .copied le_rfl
  | clearCompare _ whole _ _ _ | clearExit _ whole _ _ _ _ | clearStore _ whole _ _ _
  | clearAgain _ whole _ _ _ => exact .cleared (by omega)
  | rust _ => exact .cleared le_rfl

/-- Before the stub is done it has changed nothing it is not to change. -/
theorem Initialising.frame {memory : Memory} (held : Initialising layout initial memory)
    {address : UInt32} (notData : ¬layout.data.Contains address)
    (notBss : ¬layout.bss.Contains address) (other : address ≠ layout.captureState) :
    memory address = initial address := by
  have marked : layout.marked initial address = initial address := Function.update_of_ne other ..
  -- Marking, copying and clearing each leave the address alone.
  cases held with
  | untouched => rfl
  | marked => exact marked
  | copied within => rw [Layout.copied_of_outside within notData, marked]
  | cleared within =>
    rw [Layout.cleared_of_outside within notBss, Layout.copied_of_outside le_rfl notData, marked]

/-- The capture state is the one found until the stub has marked the reset. -/
theorem Initialising.captureState {memory : Memory} (held : Initialising layout initial memory) :
    memory layout.captureState = initial layout.captureState ∨
      memory layout.captureState = resetInProgress := by
  -- The state lies in neither section, so the loops keep the mark.
  cases held with
  | untouched => exact Or.inl rfl
  | marked => exact Or.inr (Function.update_self ..)
  | copied within => exact Or.inr (Layout.copied_captureState within)
  | cleared within => exact Or.inr (Layout.cleared_captureState within)

/-- Copying and clearing to the end fulfils the contract. -/
theorem ramContract_cleared (layout : Layout) (initial : Memory) :
    RamContract layout initial (layout.cleared initial layout.bss.words) where
  data := by
    intro address inside aligned
    -- Clearing does not reach back into `.data`.
    rw [Layout.cleared_of_outside le_rfl (layout.data_apart_bss address inside)]
    obtain ⟨index, within, rfl⟩ := Region.exists_wordAddress layout.data_whole inside aligned
    rw [Layout.copied_wordAddress within, Layout.wordAddress_sidata]
  bss := by
    intro address inside aligned
    obtain ⟨index, within, rfl⟩ := Region.exists_wordAddress layout.bss_whole inside aligned
    exact Layout.cleared_wordAddress within
  captureState := Layout.cleared_captureState le_rfl
  frame := fun _ notData notBss other =>
    (Initialising.cleared le_rfl).frame notData notBss other

/-- The probe words of the Rust entry, which the linker keeps in `.data` and `.bss`. -/
structure Sentinels (layout : Layout) where
  data : UInt32
  bss : UInt32
  data_placed : layout.data.Contains data
  data_aligned : data.toNat % 4 = 0
  bss_placed : layout.bss.Contains bss
  bss_aligned : bss.toNat % 4 = 0

/-- What the Rust entry reports about the two probes. -/
def bootReport (dataOk bssOk : Bool) : UInt32 :=
  match dataOk, bssOk with
  | true, true => evidenceOk
  | false, true => evidenceDataFailed
  | true, false => evidenceBssFailed
  | false, false => evidenceBothFailed

/-- The Rust entry up to its report: both probes are read, then the report is written. -/
def malleusStart (layout : Layout) (sentinels : Sentinels layout) (memory : Memory) : Memory :=
  let dataOk := memory sentinels.data == dataPattern
  let bssOk := memory sentinels.bss == 0
  Function.update memory layout.bootEvidence (bootReport dataOk bssOk)

/-- Under the contract an image that carries the data pattern is reported as initialised. -/
theorem malleusStart_ok {initial final : Memory} (contract : RamContract layout initial final)
    (sentinels : Sentinels layout)
    (carried : initial (layout.sidata + (sentinels.data - layout.data.start)) = dataPattern) :
    malleusStart layout sentinels final layout.bootEvidence = evidenceOk := by
  have data := contract.data _ sentinels.data_placed sentinels.data_aligned
  have bss := contract.bss _ sentinels.bss_placed sentinels.bss_aligned
  simp [malleusStart, data, carried, bss, bootReport]

open Thumb in
/-- The stub takes every step it has left. -/
theorem ResetAt.countdown (left : Nat) (state : State)
    (held : ResetAt layout initial (left + 1) state) :
    ∃ next, step (resetStub layout) state = some next ∧ ResetAt layout initial left next := by
  -- A position with steps left is not the call.
  rcases held.advance with ⟨_, done⟩ | ⟨next, rest, stepped, count, later⟩
  · cases done
  · cases count
    exact ⟨next, stepped, later⟩

open Thumb in
/-- With no step left the stub is at the call of the Rust entry, and stops there. -/
theorem ResetAt.halted (state : State) (held : ResetAt layout initial 0 state) :
    step (resetStub layout) state = none := by
  -- The call leaves the program, and every other position has a step left.
  rcases held.advance with ⟨pc, _⟩ | ⟨_, rest, _, count, _⟩
  · rw [step, pc]
    rfl
  · cases count

open Thumb in
/-- At the call of the Rust entry everything is copied and cleared. -/
theorem ResetAt.memory_of_enterRust {left : Nat} {state : State}
    (held : ResetAt layout initial left state) (pc : state.core.pc = enterRust) :
    state.memory = layout.cleared initial layout.bss.words := by
  -- Only the last of the stub's positions has this index.
  cases held <;> simp_all [enterRust]

open Thumb in
/--
From any memory the reset stub reaches the Rust entry, and there it fulfils the contract.

The entry then records success when the image carries the data pattern.
-/
theorem resetStub_establishes (layout : Layout) (core : Core) (initial : Memory)
    (fresh : core.pc = 0) :
    (∃ final, Reaches (resetStub layout) ⟨core, initial⟩ final ∧ final.core.pc = enterRust) ∧
      ∀ final, Reaches (resetStub layout) ⟨core, initial⟩ final → final.core.pc = enterRust →
        RamContract layout initial final.memory ∧
          ∀ sentinels : Sentinels layout,
            initial (layout.sidata + (sentinels.data - layout.data.start)) = dataPattern →
            malleusStart layout sentinels final.memory layout.bootEvidence = evidenceOk := by
  have begun : ResetAt layout initial _ ⟨core, initial⟩ := .stateAddress fresh
  constructor
  -- The stub counts its steps down, and stops with none left only at the call.
  · obtain ⟨final, reached, done⟩ := reaches_of_countdown ResetAt.countdown begun
    rcases done.advance with ⟨pc, _⟩ | ⟨_, rest, _, count, _⟩
    · exact ⟨final, reached, pc⟩
    · cases count
  -- Every state on the way is one of the countdown, and the call is its last.
  · intro final reached pc
    obtain ⟨left, held⟩ :=
      exists_countdown_of_reaches ResetAt.countdown ResetAt.halted begun reached
    have contract : RamContract layout initial final.memory := by
      rw [held.memory_of_enterRust pc]
      exact ramContract_cleared layout initial
    exact ⟨contract, fun sentinels carried => malleusStart_ok contract sentinels carried⟩

/-- The layout of the bootstrap image: one word of data, one of zeros, and the evidence behind them. -/
def bootstrapLayout : Layout where
  sidata := 0x08000400
  data := ⟨0x20000000, 0x20000004⟩
  bss := ⟨0x20000004, 0x20000008⟩
  uninit := ⟨0x20000008, 0x2000005c⟩
  captureState := 0x20000008
  bootEvidence := 0x2000000c
  faultEvidence := 0x20000010
  data_whole := ⟨by decide, by decide, by decide⟩
  bss_whole := ⟨by decide, by decide, by decide⟩
  sidata_aligned := by decide
  image_starts := by decide
  image_ends := by decide
  data_dtcm := ⟨by decide, by decide⟩
  bss_dtcm := ⟨by decide, by decide⟩
  uninit_dtcm := ⟨by decide, by decide⟩
  data_apart_bss := Region.apart_of_le (by decide)
  data_apart_uninit := Region.apart_of_le (by decide)
  bss_apart_uninit := Region.apart_of_le (by decide)
  captureState_placed := ⟨by decide, by decide⟩
  bootEvidence_placed := ⟨by decide, by decide⟩
  faultEvidence_placed := by decide
  bootEvidence_apart := by decide
  captureState_apart := by decide
  bootEvidence_apart' := by decide

/-- The probe words of the bootstrap image. -/
def bootstrapSentinels : Sentinels bootstrapLayout where
  data := 0x20000000
  bss := 0x20000004
  data_placed := by decide
  data_aligned := by decide
  bss_placed := by decide
  bss_aligned := by decide

/-- Erased memory with the data pattern in the load image. -/
def bootstrapMemory : Memory := Function.update (fun _ => 0xffffffff) 0x08000400 dataPattern

/-- A core at its reset. -/
def bootstrapCore : Thumb.Core where
  regs := fun _ => 0
  special := fun _ => 0
  zero := false
  carry := false
  primask := false
  pc := 0

/-- The bootstrap image comes up with its contract fulfilled, and its entry records success. -/
theorem bootstrapLayout_established :
    ∃ final, Thumb.Reaches (resetStub bootstrapLayout) ⟨bootstrapCore, bootstrapMemory⟩ final ∧
      RamContract bootstrapLayout bootstrapMemory final.memory ∧
      malleusStart bootstrapLayout bootstrapSentinels final.memory 0x2000000c = evidenceOk := by
  -- The stub gets to the call, and at the call everything is established.
  obtain ⟨⟨final, reached, pc⟩, established⟩ :=
    resetStub_establishes bootstrapLayout bootstrapCore bootstrapMemory rfl
  obtain ⟨contract, reported⟩ := established final reached pc
  exact ⟨final, reached, contract, reported bootstrapSentinels (by decide)⟩

end Malleus
