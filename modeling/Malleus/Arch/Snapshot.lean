import Malleus.Arch.Lifecycle

/-! The snapshot of one fault: what an undisturbed capture leaves for a debugger, and that it stays. -/

namespace Malleus

open Machine

open Thumb in
/-- The entry selects the stack pointer by the flag it tested into. -/
theorem faultEntry_selects (layout : Layout) (memory : Memory) (core : Core) :
    ∃ left ≤ 3, ∃ final,
      run (faultEntry layout) left ⟨core.jump 15, memory⟩ = some ⟨final, memory⟩ ∧
        final.pc = enterCapture ∧
        captureArguments final = ⟨core.regs .r0, core.regs .r1,
          if core.zero then core.special .msp else core.special .psp⟩ := by
  -- The branch is taken for the main stack and falls through for the process stack.
  have branched : step (faultEntry layout) ⟨core.jump 15, memory⟩
      = some ⟨if core.zero then core.jump 18 else core.jump 16, memory⟩ := rfl
  cases flag : core.zero with
  | true =>
    rw [flag] at branched
    exact ⟨2, by omega, _, run_of_step branched rfl, rfl, rfl⟩
  | false =>
    rw [flag] at branched
    exact ⟨3, by omega, _, run_of_step branched rfl, rfl, rfl⟩

open Thumb in
/-- Behind its claim the entry passes on the exception, EXC_RETURN and the stack of the fault. -/
theorem faultEntry_passes (layout : Layout) (memory : Memory) {core : Core} {cpu : Cpu}
    (lr : core.regs .lr = cpu.lr) (msp : core.special .msp = cpu.msp)
    (psp : core.special .psp = cpu.psp) :
    ∃ left ≤ 6, ∃ final,
      run (faultEntry layout) left ⟨core.jump 12, memory⟩ = some ⟨final, memory⟩ ∧
        final.pc = enterCapture ∧
        captureArguments final = ⟨core.special .ipsr, cpu.lr, cpu.faultStackPointer⟩ := by
  let numbered := core.set .r0 (core.special .ipsr)
  let returned := numbered.set .r1 (core.regs .lr)
  -- Three instructions fill R0, R1 and the flag; the rest selects the stack pointer.
  obtain ⟨left, bounded, final, ran, pc, passed⟩ := faultEntry_selects layout memory
    { returned with zero := core.regs .lr &&& 4 == 0 }
  have filled : run (faultEntry layout) (left + 3) ⟨core.jump 12, memory⟩ = some ⟨final, memory⟩ :=
    run_of_step rfl (run_of_step rfl (run_of_step rfl ran))
  refine ⟨left + 3, by omega, final, filled, pc, passed.trans ?_⟩
  simp [returned, numbered, lr, msp, psp, Cpu.faultStackPointer]

open Thumb in
/-- An armed capture is claimed by the first eight instructions of the entry, which keep LR and the
stack pointers. -/
theorem faultEntry_claims {layout : Layout} {memory : Memory} (core : Core)
    (armed : memory layout.captureState = captureArmed) :
    ∃ claimed : Core, claimed.regs .lr = core.regs .lr ∧ claimed.special = core.special ∧
      run (faultEntry layout) 8 ⟨core.jump 4, memory⟩
        = some ⟨claimed.jump 12, Function.update memory layout.captureState captureOwned⟩ := by
  let state := memory layout.captureState
  let loaded := ((core.set .r3 layout.captureState).set .r12 state).set .r2 captureArmed
  let compared : Core :=
    { loaded with
      zero := state == captureArmed
      carry := decide (captureArmed ≤ state)
      primask := true }
  -- The comparison finds the capture armed, so the branch falls through to the claim.
  have branched : step (faultEntry layout) ⟨compared.jump 9, memory⟩
      = some ⟨if compared.zero then compared.jump 10 else compared.jump 20, memory⟩ := rfl
  have equal : compared.zero = true := beq_iff_eq.mpr armed
  rw [equal, if_pos rfl] at branched
  have claimed : run (faultEntry layout) 3 ⟨compared.jump 9, memory⟩
      = some ⟨(compared.set .r12 captureOwned).jump 12,
        Function.update memory layout.captureState captureOwned⟩ := run_of_step branched rfl
  refine ⟨compared.set .r12 captureOwned, rfl, rfl, ?_⟩
  exact run_of_step rfl (run_of_step rfl (run_of_step rfl (run_of_step rfl (run_of_step rfl claimed))))

open Thumb in
/-- From its vectors on, the entry claims an armed capture and calls it for the fault taken. -/
theorem faultEntry_calls {layout : Layout} {memory : Memory} {core : Core} {cpu : Cpu}
    (vector : core.pc < 4) (lr : core.regs .lr = cpu.lr) (msp : core.special .msp = cpu.msp)
    (psp : core.special .psp = cpu.psp) (armed : memory layout.captureState = captureArmed) :
    ∃ left ≤ 15, ∃ final, run (faultEntry layout) left ⟨core, memory⟩
        = some ⟨final, Function.update memory layout.captureState captureOwned⟩ ∧
      final.pc = enterCapture ∧
      captureArguments final = ⟨core.special .ipsr, cpu.lr, cpu.faultStackPointer⟩ := by
  obtain ⟨claimed, keptLr, keptSpecial, owned⟩ := faultEntry_claims core armed
  obtain ⟨left, bounded, final, passed, pc, arguments⟩ :=
    faultEntry_passes layout (Function.update memory layout.captureState captureOwned)
      (keptLr.trans lr) ((congrFun keptSpecial .msp).trans msp) ((congrFun keptSpecial .psp).trans psp)
  -- The four vectors branch to the same entry.
  have positions : core.pc = 0 ∨ core.pc = 1 ∨ core.pc = 2 ∨ core.pc = 3 := by omega
  have entered : step (faultEntry layout) ⟨core, memory⟩ = some ⟨core.jump 4, memory⟩ := by
    rcases positions with pc | pc | pc | pc <;> exact step_at pc rfl rfl
  refine ⟨8 + left + 1, by omega, final, run_of_step entered ?_, pc, ?_⟩
  · rw [run_add, owned, Option.bind_some, passed]
  · rw [arguments, keptSpecial]

variable {layout : Layout} {sentinels : Sentinels layout} {choice : Fin 19}

/-- What a capture assembles once its fault is claimed. -/
def assembledEvidence (final : Thumb.Core) (claimed : Memory) : FaultEvidence :=
  captureEvidence (captureArguments final) (fun register => claimed register.address) claimed

/-- The steps an undisturbed fault has left, from its entry to the end of the capture. -/
inductive Underway (layout : Layout) (final : Thumb.Core) (claimed : Memory) : Nat → Board → Prop where
  | entry {left : Nat} {core : Thumb.Core} {memory : Memory} {below : List Context}
    (leads : Thumb.run (faultEntry layout) left ⟨core, memory⟩ = some ⟨final, claimed⟩) :
    Underway layout final claimed (left + 28) ⟨memory, .entry core :: below⟩
  | reading {status : StatusRegister → UInt32} {pending : List StatusRegister}
    {below : List Context}
    (read : ∀ register, register ∉ pending → status register = claimed register.address) :
    Underway layout final claimed (pending.length + 22)
      ⟨claimed, .capture (captureArguments final) (.reading status pending) :: below⟩
  | writing {memory : Memory} {pending : List (Fin 19)} {below : List Context}
    (once : pending.Nodup) (holds : Holds layout memory (assembledEvidence final claimed) pending) :
    Underway layout final claimed (pending.length + 2)
      ⟨memory, .capture (captureArguments final)
        (.writing (assembledEvidence final claimed) pending) :: below⟩
  | completing {memory : Memory} {below : List Context}
    (holds : Holds layout memory (assembledEvidence final claimed).published []) :
    Underway layout final claimed 1
      ⟨memory, .capture (captureArguments final)
        (.completing (assembledEvidence final claimed).published) :: below⟩
  | halted {memory : Memory} {below : List Context}
    (complete : memory layout.captureState = captureComplete)
    (holds : Holds layout memory (assembledEvidence final claimed).published []) :
    Underway layout final claimed 0
      ⟨memory, .capture (captureArguments final)
        (.halted (assembledEvidence final claimed).published) :: below⟩

/-- There is no step from the call of the capture. -/
theorem step_of_enterCapture {core : Thumb.Core} (pc : core.pc = enterCapture) (memory : Memory) :
    Thumb.step (faultEntry layout) ⟨core, memory⟩ = none := by
  rw [Thumb.step, pc]
  rfl

namespace Underway

variable {final : Thumb.Core} {claimed : Memory} {left : Nat} {board next : Board}

/-- Writing a pending word leaves one fewer. -/
theorem length_filter_ne {pending : List (Fin 19)} (once : pending.Nodup) (listed : choice ∈ pending) :
    (pending.filter (· ≠ choice)).length = pending.length - 1 := by
  -- A word pending once is taken out by filtering as by erasing.
  have erased : pending.filter (· ≠ choice) = pending.erase choice := by
    rw [once.erase_eq_filter]
    exact List.filter_congr fun index _ => by rw [bne, beq_eq_decide, decide_not]
  rw [erased, List.length_erase_of_mem listed]

/-- Every step of an undisturbed fault is one it had left. -/
theorem advance (underway : Underway layout final claimed left board) (pc : final.pc = enterCapture)
    (stepped : board.advance layout sentinels choice = some next) :
    Underway layout final claimed (left - 1) next := by
  -- One case for each point on the way: what the step does there, and what it leaves to do.
  cases underway with
  | @entry left core memory below leads =>
    cases left with
    | zero =>
      -- The entry is at its call, and every register is yet to be read.
      cases leads
      simp only [Board.advance, Context.advance, if_pos pc, Option.map_some, Option.some.injEq]
        at stepped
      subst stepped
      have listed : ∀ register, register ∈ StatusRegister.readOrder := by
        intro register
        cases register <;> decide
      exact @reading layout final claimed (fun _ => 0) StatusRegister.readOrder below
        fun register unread => absurd (listed register) unread
    | succ left =>
      obtain ⟨⟨later, _⟩, executed, leads⟩ := Thumb.exists_step_of_run leads
      have before : core.pc ≠ enterCapture := by
        intro last
        rw [step_of_enterCapture last] at executed
        cases executed
      simp only [Board.advance, Context.advance, if_neg before, executed, Option.map_some,
        Option.some.injEq] at stepped
      subst stepped
      exact .entry leads
  | @reading status pending below read =>
    cases pending with
    | nil =>
      -- All registers are read, so the snapshot is assembled of them.
      have whole : status = fun register => claimed register.address :=
        funext fun register => read register List.not_mem_nil
      subst whole
      cases stepped
      exact .writing (List.nodup_finRange 19) fun index done => absurd (List.mem_finRange index) done
    | cons register pending =>
      cases stepped
      refine .reading fun other unread => ?_
      by_cases same : other = register
      · rw [same, Function.update_self]
      · rw [Function.update_of_ne same]
        exact read other (by simp [same, unread])
  | @writing memory pending below once holds =>
    cases pending with
    | nil =>
      cases stepped
      exact .completing holds.publish
    | cons first rest =>
      simp only [Board.advance, Context.advance, CapturePoint.advance] at stepped
      split at stepped
      · rename_i listed
        cases stepped
        have fewer := length_filter_ne once listed
        have count : (first :: rest).length + 2 - 1
            = ((first :: rest).filter (· ≠ choice)).length + 2 := by
          rw [fewer, List.length_cons]
          omega
        rw [count]
        exact .writing (once.filter _) (holds.write choice)
      · cases stepped
  | @completing memory below holds =>
    cases stepped
    refine .halted (Function.update_self ..) (holds.of_same fun index => ?_)
    exact Function.update_of_ne (layout.captureState_ne_evidenceAddress index).symm ..
  | @halted memory below complete holds =>
    cases stepped
    exact .halted complete holds

/-- An undisturbed fault always has a step to take. -/
theorem exists_advance (underway : Underway layout final claimed left board)
    (pc : final.pc = enterCapture) : ∃ choice, (board.advance layout sentinels choice).isSome := by
  cases underway with
  | @entry left core memory below leads =>
    refine ⟨magicWord, ?_⟩
    -- The entry is at its call or takes a step towards it.
    by_cases called : core.pc = enterCapture
    · simp [Board.advance, Context.advance, called]
    · cases left with
      | zero =>
        cases leads
        exact absurd pc called
      | succ left =>
        obtain ⟨_, executed, _⟩ := Thumb.exists_step_of_run leads
        simp [Board.advance, Context.advance, called, executed]
  | @reading _ pending =>
    refine ⟨magicWord, ?_⟩
    cases pending <;> rfl
  | @writing _ pending =>
    cases pending with
    | nil => exact ⟨magicWord, rfl⟩
    | cons first rest =>
      -- Any pending word can be written next.
      refine ⟨first, ?_⟩
      simp [Board.advance, Context.advance, CapturePoint.advance]
  | completing | halted => exact ⟨magicWord, rfl⟩

/-- A run of an undisturbed fault takes its steps one by one. -/
theorem play {choices : List (Fin 19)} (underway : Underway layout final claimed left board)
    (pc : final.pc = enterCapture)
    (played : board.play layout sentinels (choices.map .run) = some next) :
    Underway layout final claimed (left - choices.length) next := by
  -- The induction is on the choices, each of which is spent on one step.
  induction choices generalizing left board with
  | nil =>
    cases played
    exact underway
  | cons choice rest ih =>
    rw [Board.play, List.map_cons, List.foldlM_cons, Option.bind_eq_bind,
      Option.bind_eq_some_iff] at played
    obtain ⟨between, stepped, later⟩ := played
    rw [List.length_cons, Nat.add_comm, ← Nat.sub_sub]
    exact ih (underway.advance pc stepped) later

/-- With no step left the capture has halted behind its snapshot. -/
theorem published (underway : Underway layout final claimed 0 board) :
    .capture (captureArguments final) (.halted (assembledEvidence final claimed).published)
        ∈ board.contexts ∧
      board.captureState layout = captureComplete ∧
      Holds layout board.memory (assembledEvidence final claimed).published [] := by
  -- Every other point has a step left.
  generalize none_ : 0 = left at underway
  cases underway with
  | entry | reading | writing | completing => omega
  | halted complete holds => exact ⟨List.mem_cons_self, complete, holds⟩

end Underway

/-- The snapshot a fault is owed, given the registers read from its frame. -/
def Cpu.faultEvidence (cpu : Cpu) (exceptionNumber : UInt32) (status : StatusRegister → UInt32)
    (read : Option ExceptionFrame) : FaultEvidence :=
  let frame := read.getD .unavailable
  { magic := evidenceMagic
    version := evidenceVersion
    exceptionNumber
    excReturn := cpu.excReturn
    stackPointer := cpu.framePointer
    frameFlags := (if read.isSome then cpu.layoutFlags ||| frameValid else 0)
      ||| (if status .cfsr &&& mmfarValid ≠ 0 then frameMmfarValid else 0)
      ||| if status .cfsr &&& bfarValid ≠ 0 then frameBfarValid else 0
    r0 := frame.r0
    r1 := frame.r1
    r2 := frame.r2
    r3 := frame.r3
    r12 := frame.r12
    lr := frame.lr
    pc := frame.pc
    xpsr := frame.xpsr
    cfsr := status .cfsr
    hfsr := status .hfsr
    shcsr := status .shcsr
    mmfar := if status .cfsr &&& mmfarValid ≠ 0 then status .mmfar else 0
    bfar := if status .cfsr &&& bfarValid ≠ 0 then status .bfar else 0 }

/-- What the capture publishes is what the fault is owed for the frame it reads. -/
theorem published_captureEvidence {cpu : Cpu} {status : StatusRegister → UInt32} {memory : Memory}
    {read : Option ExceptionFrame} (exceptionNumber : UInt32)
    (found : readExceptionFrame memory cpu.framePointer cpu.excReturn (status .cfsr)
      = read.map fun frame => (frame, cpu.layoutFlags ||| frameValid)) :
    (captureEvidence ⟨exceptionNumber, cpu.excReturn, cpu.framePointer⟩ status memory).published
      = cpu.faultEvidence exceptionNumber status read := by
  simp only [captureEvidence, found, FaultEvidence.published, Cpu.faultEvidence]
  -- Each valid address adds its flag, with a frame or without.
  by_cases mmfar : status .cfsr &&& mmfarValid = 0 <;> by_cases bfar : status .cfsr &&& bfarValid = 0 <;>
    cases read <;> simp [mmfar, bfar]

/-- A fault has been taken: its frame is on the stack, and one of the vectors is entered. -/
structure FaultTaken (layout : Layout) (cpu : Cpu) (core : Thumb.Core) (memory : Memory) : Prop where
  vector : core.pc < 4
  lr : core.regs .lr = cpu.takeException.lr
  msp : core.special .msp = cpu.takeException.msp
  psp : core.special .psp = cpu.takeException.psp
  aligned : cpu.stackPointer &&& 3 = 0
  -- The words of the frame, among them the reserved one of an extended frame, are outside .uninit.
  stacked : ∀ index, 4 * index < cpu.frameSize.toNat →
    memory (Memory.wordAddress cpu.framePointer index)
      = cpu.takeException.memory (Memory.wordAddress cpu.framePointer index)
  outside : ∀ index, 4 * index < cpu.frameSize.toNat →
    ¬layout.uninit.Contains (Memory.wordAddress cpu.framePointer index)

/-- The snapshot in memory is what one fault is owed: a frame unless CFSR reports a stacking error, with
the stacked registers exactly if it was basic or holds the same values where it is read. -/
def Explains (layout : Layout) (memory : Memory) (cpu : Cpu) (exceptionNumber : UInt32)
    (status : StatusRegister → UInt32) : Prop :=
  ∃ read, Holds layout memory (cpu.faultEvidence exceptionNumber status read) []
    ∧ (read = none ↔ stackingFailed (status .cfsr) = true)
    ∧ ∀ frame ∈ read, frame = cpu.stackedFrame ↔ cpu.fpca = false
      ∨ cpu.s.toList.drop 10 ++ [cpu.fpscr, cpu.reservedWord] = cpu.stackedFrame.words

/-- The status registers are no words of the tightly coupled memory. -/
theorem Layout.captureState_ne_status (layout : Layout) (register : StatusRegister) :
    register.address ≠ layout.captureState := by
  intro same
  have inside := UInt32.lt_iff_toNat_lt.mp layout.captureState_placed.2
  -- The section ends with the tightly coupled memory, far below the system control block.
  have ends := layout.uninit_dtcm.ends
  rw [← same] at inside
  simp only [dtcmOrigin, dtcmLength] at ends
  cases register <;> simp only [StatusRegister.address, UInt32.reduceToNat] at inside <;> omega

namespace FaultTaken

variable {cpu : Cpu} {core : Thumb.Core} {memory : Memory}

/-- The claim leaves the frame as it was stacked. -/
theorem readFrame_claimed (taken : FaultTaken layout cpu core memory) :
    readFrame (Function.update memory layout.captureState captureOwned)
        (Memory.wordAddress cpu.framePointer cpu.skippedWords)
      = readFrame cpu.takeException.memory
        (Memory.wordAddress cpu.framePointer cpu.skippedWords) := by
  rw [← ExceptionFrame.words_inj, words_readFrame, words_readFrame, Memory.loadWords, Memory.loadWords]
  refine List.map_congr_left fun index below => ?_
  -- The eight words read end with the frame.
  have within : 4 * (cpu.skippedWords + index) < cpu.frameSize.toNat := by
    have := List.mem_range.mp below
    unfold Cpu.skippedWords Cpu.frameSize extendedFramePrefixWords
    split <;> simp only [UInt32.reduceToNat] <;> omega
  rw [← Memory.wordAddress_add, Function.update_of_ne, taken.stacked _ within]
  intro same
  exact taken.outside _ within (same ▸ layout.captureState_placed)

/-- The claim leaves the status registers alone. -/
theorem status_claimed (layout : Layout) (memory : Memory) :
    (fun register : StatusRegister =>
        Function.update memory layout.captureState captureOwned register.address)
      = fun register => memory register.address :=
  funext fun register => Function.update_of_ne (layout.captureState_ne_status register) ..

/-- What an undisturbed capture publishes is what the fault taken is owed. -/
theorem explains (taken : FaultTaken layout cpu core memory) {final : Thumb.Core}
    (passed : captureArguments final
      = ⟨core.special .ipsr, cpu.takeException.lr, cpu.takeException.faultStackPointer⟩)
    {after : Memory}
    (holds : Holds layout after (assembledEvidence final
      (Function.update memory layout.captureState captureOwned)).published []) :
    Explains layout after cpu (core.special .ipsr) fun register => memory register.address := by
  let cfsr := memory StatusRegister.cfsr.address
  let frame := readFrame cpu.takeException.memory
    (Memory.wordAddress cpu.framePointer cpu.skippedWords)
  let read := if stackingFailed cfsr then none else some frame
  -- The capture reads the stacked words, or nothing after a stacking error.
  have found : readExceptionFrame (Function.update memory layout.captureState captureOwned)
      cpu.framePointer cpu.excReturn cfsr
        = read.map fun frame => (frame, cpu.layoutFlags ||| frameValid) := by
    rw [Cpu.readExceptionFrame_excReturn taken.aligned, taken.readFrame_claimed]
    simp only [read]
    split <;> rfl
  rw [assembledEvidence, passed, status_claimed, Cpu.takeException_lr,
    Cpu.faultStackPointer_takeException, published_captureEvidence _ found] at holds
  refine ⟨read, holds, ?_, ?_⟩
  · simp [read, cfsr]
  · intro given present
    have same : frame = given := by
      simp only [read] at present
      split at present
      · cases present
      · exact Option.some.inj present
    rw [← same]
    exact cpu.readFrame_eq_stackedFrame_iff

end FaultTaken

/-- A capture that has halted is never taken from the contexts of its boot. -/
theorem Board.Step.halted {board after : Board} (step : board.Step layout sentinels after)
    {arguments : CaptureArguments} {evidence : FaultEvidence}
    (active : .capture arguments (.halted evidence) ∈ board.contexts) :
    .capture arguments (.halted evidence) ∈ after.contexts := by
  cases step with
  | run choice ran =>
    rw [Board.advance] at ran
    split at ran
    · cases ran
    · rename_i context below contexts
      obtain ⟨⟨next, later⟩, stepped, same⟩ := Option.map_eq_some_iff.mp ran
      cases same
      -- Either the halted capture runs, and stays where it is, or it is among those interrupted.
      rw [contexts] at active
      rcases List.mem_cons.mp active with rfl | interrupted
      · cases stepped
        exact List.mem_cons_self
      · exact List.mem_cons_of_mem _ interrupted
  | disturb disturbed => exact disturbed.mem active

/-- Contexts that are both the only activation of the capture are the same. -/
theorem eq_of_captures_le_one {contexts : List Context} (single : captures contexts ≤ 1)
    {first second : Context} (listed : first ∈ contexts) (listed' : second ∈ contexts)
    (capture : first.isCapture = true) (capture' : second.isCapture = true) : first = second := by
  have member : first ∈ contexts.filter Context.isCapture := List.mem_filter.mpr ⟨listed, capture⟩
  have member' : second ∈ contexts.filter Context.isCapture :=
    List.mem_filter.mpr ⟨listed', capture'⟩
  -- The list of the activations has one entry.
  rw [captures, List.countP_eq_length_filter] at single
  obtain ⟨only, alone⟩ :=
    List.length_eq_one_iff.mp (Nat.le_antisymm single (List.length_pos_of_mem member))
  rw [alone, List.mem_singleton] at member member'
  exact member.trans member'.symm

/-- Once a capture is complete, its snapshot stays for the rest of the boot. -/
theorem Lifecycle.holds_of_reaches {initial : Memory} {board after : Board}
    (stored : initial layout.captureState = resetInProgress)
    (held : Lifecycle layout initial board) (complete : board.captureState layout = captureComplete)
    {arguments : CaptureArguments} {evidence : FaultEvidence}
    (active : .capture arguments (.halted evidence) ∈ board.contexts)
    (reached : board.Reaches layout sentinels after) :
    after.captureState layout = captureComplete ∧ Holds layout after.memory evidence [] := by
  -- The induction is on the steps: the state has no move left, and the capture has halted.
  have stays : after.captureState layout = captureComplete ∧
      .capture arguments (.halted evidence) ∈ after.contexts := by
    induction reached with
    | refl => exact ⟨complete, active⟩
    | tail earlier step ih =>
      refine ⟨?_, step.halted ih.2⟩
      rcases (held.of_reaches stored earlier).captureState_step stored step with same | moves
      · exact same.trans ih.1
      · rw [ih.1] at moves
        cases moves
  have later := held.of_reaches stored reached
  obtain ⟨arguments', evidence', active', _, holds⟩ := later.published stays.1
  -- What is published at the end is by the only capture there is.
  cases eq_of_captures_le_one later.exclusive.single stays.2 active' rfl rfl
  exact ⟨stays.1, holds⟩

/-- A fault that finds the capture armed and is not disturbed before its end publishes its own snapshot:
whatever the order of the words, none of its steps is refused, within 43 of them the snapshot is
complete and explains the fault, and nothing later in the boot changes it. -/
theorem fault_publishes {initial : Memory} {reset : Thumb.Core} {board : Board} (pc : reset.pc = 3)
    (stored : initial layout.captureState = resetInProgress)
    (reached : Board.Reaches layout sentinels ⟨initial, [.reset reset]⟩ board)
    (armed : board.captureState layout = captureArmed)
    {cpu : Cpu} {core : Thumb.Core} {memory : Memory} (taken : FaultTaken layout cpu core memory)
    (kept : layout.Keeps board.memory memory) {choices : List (Fin 19)} {after : Board}
    (played : Board.play layout sentinels ⟨memory, .entry core :: board.contexts⟩
      (choices.map .run) = some after) :
    (∃ choice, (after.advance layout sentinels choice).isSome) ∧
      (43 ≤ choices.length → ∀ later, after.Reaches layout sentinels later →
        later.captureState layout = captureComplete ∧
          Explains layout later.memory cpu (core.special .ipsr) fun register =>
            memory register.address) := by
  obtain ⟨left, bounded, final, leads, called, passed⟩ :=
    faultEntry_calls taken.vector taken.lr taken.msp taken.psp (kept.captureState.trans armed)
  -- Up to fifteen instructions lead to the call, and 28 steps from there to the end.
  have underway : Underway layout final (Function.update memory layout.captureState captureOwned)
      (left + 28) ⟨memory, .entry core :: board.contexts⟩ := .entry leads
  have ended := underway.play called played
  refine ⟨ended.exists_advance called, fun enough later follows => ?_⟩
  have spent : left + 28 - choices.length = 0 := by omega
  rw [spent] at ended
  obtain ⟨active, complete, _⟩ := ended.published
  -- The fault is one of the disturbances of the boot, and its run a part of it.
  have whole : Board.Reaches layout sentinels ⟨initial, [.reset reset]⟩ after :=
    (reached.tail (.disturb (.fault kept taken.vector))).trans (Board.reaches_of_play played)
  have held := (Lifecycle.begun pc stored).of_reaches stored whole
  obtain ⟨complete', holds⟩ := held.holds_of_reaches stored complete active follows
  exact ⟨complete', taken.explains passed holds⟩

/-- The bootstrap image when it has come up. -/
def steadyBoard : Board :=
  (bootstrapBoard.play bootstrapLayout bootstrapSentinels (List.replicate 24 (.run magicWord))).getD
    bootstrapBoard

/-- The integer thread on that image. -/
def steadyThread : Cpu := { integerThread with memory := steadyBoard.memory }

/-- The handler of its usage fault. -/
def steadyFault : Thumb.Core where
  regs := fun register => if register = .lr then steadyThread.takeException.lr else 0
  special := fun
    | .ipsr => 6
    | .msp => steadyThread.takeException.msp
    | .psp => steadyThread.takeException.psp
  zero := false
  carry := false
  primask := false
  pc := 3

/-- The fault is taken with its frame far above the sections of the image. -/
theorem steadyFault_taken :
    FaultTaken bootstrapLayout steadyThread steadyFault steadyThread.takeException.memory where
  vector := by decide
  lr := rfl
  msp := rfl
  psp := rfl
  aligned := by decide
  stacked := fun _ _ => rfl
  outside := by
    intro index below
    have few : index < 8 := by
      have size : steadyThread.frameSize.toNat = 32 := rfl
      omega
    -- The frame starts below the thread's stack pointer, at a multiple of eight.
    have each : ∀ index < 8,
        ¬bootstrapLayout.uninit.Contains (Memory.wordAddress 0x20007fe8 index) := by decide
    exact each index few

/-- Stacking the frame keeps the sections of the image. -/
theorem steadyFault_keeps :
    bootstrapLayout.Keeps steadyBoard.memory steadyThread.takeException.memory := by
  intro address inside
  -- The sections end below the frame.
  have low : address < 0x2000005c := by
    rcases inside with data | bss | uninit
    · exact UInt32.lt_trans data.2 (by decide)
    · exact UInt32.lt_trans bss.2 (by decide)
    · exact uninit.2
  rw [Cpu.takeException_memory]
  apply Memory.storeWords_of_outside
  intro index within same
  have high : ∀ index < 8, ¬Memory.wordAddress 0x20007fe8 index < 0x2000005c := by decide
  exact high index within (same ▸ low)

/-- The usage fault of the integer thread is explained, with the words of its snapshot written from the
last to the first. -/
theorem steadyFault_explained : ∃ after,
    Board.play bootstrapLayout bootstrapSentinels
        ⟨steadyThread.takeException.memory, .entry steadyFault :: steadyBoard.contexts⟩
        ((List.replicate 22 magicWord ++ (List.finRange 19).reverse ++
          List.replicate 2 magicWord).map .run) = some after ∧
      ∀ later, after.Reaches bootstrapLayout bootstrapSentinels later →
        later.captureState bootstrapLayout = captureComplete ∧
          Explains bootstrapLayout later.memory steadyThread 6 fun register =>
            steadyThread.takeException.memory register.address := by
  have up : bootstrapBoard.play bootstrapLayout bootstrapSentinels
      (List.replicate 24 (.run magicWord)) = some steadyBoard := by
    have comes : (bootstrapBoard.play bootstrapLayout bootstrapSentinels
      (List.replicate 24 (.run magicWord))).isSome = true := by decide +kernel
    obtain ⟨board, reached⟩ := Option.isSome_iff_exists.mp comes
    rw [steadyBoard, reached, Option.getD_some]
  have armed : steadyBoard.captureState bootstrapLayout = captureArmed := by decide +kernel
  -- From its last vector the fault takes all of the 43 steps.
  have captured : (Board.play bootstrapLayout bootstrapSentinels
      ⟨steadyThread.takeException.memory, .entry steadyFault :: steadyBoard.contexts⟩
      ((List.replicate 22 magicWord ++ (List.finRange 19).reverse ++
        List.replicate 2 magicWord).map .run)).isSome = true := by decide +kernel
  obtain ⟨after, played⟩ := Option.isSome_iff_exists.mp captured
  exact ⟨after, played, (fault_publishes rfl (by decide) (Board.reaches_of_play up) armed
    steadyFault_taken steadyFault_keeps played).2 (by decide)⟩

end Malleus
