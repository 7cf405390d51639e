import Malleus.Arch.Boot

/-! The lifecycle of the capture: what every boot keeps, however faults interrupt it. -/

namespace Malleus

open Machine

variable {layout : Layout} {sentinels : Sentinels layout} {choice : Fin 19}
  {initial memory next : Memory}

/-- A reset that found itself marked stays so. -/
theorem Initialising.marked_of_marked (held : Initialising layout initial memory)
    (stored : initial layout.captureState = resetInProgress) :
    memory layout.captureState = resetInProgress := by
  rcases held.captureState with same | marked
  · rw [same, stored]
  · exact marked

/-- A reset that found itself marked leaves the capture state alone. -/
theorem Context.Ran.marked {core : Thumb.Core} {later : Context}
    (ran : (Context.reset core).Ran layout sentinels choice initial memory next later)
    (stored : initial layout.captureState = resetInProgress) :
    next layout.captureState = memory layout.captureState := by
  -- The mark found is the value the stub writes, so it is there before and after.
  cases ran with
  | initialises before after =>
    exact (after.marked_of_marked stored).trans (before.marked_of_marked stored).symm
  | enters _ => rfl

/-- What a boot keeps of the capture, once the reset has marked itself. -/
structure Lifecycle (layout : Layout) (initial : Memory) (board : Board) : Prop where
  exclusive : Exclusive layout initial board
  ready : board.captureState layout ≠ resetInProgress → RamReady layout initial board.memory
  published : board.captureState layout = captureComplete →
    ∃ arguments evidence, .capture arguments (.halted evidence) ∈ board.contexts ∧
      Published arguments evidence ∧ Holds layout board.memory evidence []

namespace Lifecycle

variable {board after : Board}

/-- A step keeps the sections initialised from the arming on. -/
theorem ready_advance {context later : Context} {below : List Context}
    (stored : initial layout.captureState = resetInProgress)
    (ready : memory layout.captureState ≠ resetInProgress → RamReady layout initial memory)
    (ran : context.Ran layout sentinels choice initial memory next later)
    (sound : later.Sound layout initial next below)
    (past : next layout.captureState ≠ resetInProgress) : RamReady layout initial next := by
  -- The reset never gets past its mark, and what runs later keeps both sections.
  cases ran with
  | initialises _ init => exact absurd (init.marked_of_marked stored) past
  | enters init => exact absurd (init.marked_of_marked stored) past
  | starts _ => exact sound.2.2
  | passes | calls _ => exact ready past
  | claims armed =>
    refine (ready ?_).update layout.captureState_placed
    rw [armed]
    decide
  | @captures arguments point _ _ before after stepped =>
    have ran : (Context.capture arguments point).Ran layout sentinels choice initial memory next _ :=
      .captures before after stepped
    exact (ready before.claimed.ne_reset).of_outside fun address => ran.of_outside (by simp)

/-- A step keeps the snapshot that is published, or publishes it. -/
theorem published_advance {context later : Context} {below : List Context}
    (stored : initial layout.captureState = resetInProgress)
    (published : memory layout.captureState = captureComplete →
      ∃ arguments evidence, .capture arguments (.halted evidence) ∈ context :: below ∧
        Published arguments evidence ∧ Holds layout memory evidence [])
    (ran : context.Ran layout sentinels choice initial memory next later)
    (sound : later.Sound layout initial next below)
    (complete : next layout.captureState = captureComplete) :
    ∃ arguments evidence, .capture arguments (.halted evidence) ∈ later :: below ∧
      Published arguments evidence ∧ Holds layout next evidence [] := by
  cases ran with
  | initialises _ init =>
    rw [init.marked_of_marked stored] at complete
    cases complete
  | enters init =>
    rw [init.marked_of_marked stored] at complete
    cases complete
  | @starts point _ =>
    rw [sound.2.1] at complete
    cases point <;> cases complete
  | passes =>
    -- An activation of the capture is among those interrupted, and stays there.
    obtain ⟨arguments, evidence, active, holds⟩ := published complete
    refine ⟨arguments, evidence, ?_, holds⟩
    simpa using active
  | claims _ =>
    rw [Function.update_self] at complete
    cases complete
  | calls owned =>
    rw [owned] at complete
    cases complete
  | captures _ after _ =>
    rcases after.captureState with owned | ⟨_, evidence, rfl⟩
    · rw [owned] at complete
      cases complete
    · exact ⟨_, evidence, List.mem_cons_self, after.2⟩

/-- A step of the context that runs keeps the lifecycle. -/
theorem advance (stored : initial layout.captureState = resetInProgress)
    (held : Lifecycle layout initial board)
    (ran : board.advance layout sentinels choice = some after) :
    Lifecycle layout initial after := by
  -- The step of the board is a step of the context on top.
  obtain ⟨context, later, below, before, contexts, _, stepped, sound⟩ := held.exclusive.ran ran
  refine ⟨held.exclusive.advance ran, ready_advance stored held.ready stepped sound, ?_⟩
  have published := held.published
  rw [before] at published
  rw [contexts]
  exact published_advance stored published stepped sound

/-- What disturbs the program keeps the lifecycle. -/
theorem disturb (held : Lifecycle layout initial board)
    (disturbed : board.Disturbed layout after) : Lifecycle layout initial after where
  exclusive := held.exclusive.disturb disturbed
  ready := by
    -- Outside memory and new faults change neither the state nor what it stands for.
    rw [Board.captureState, disturbed.keeps.captureState]
    exact fun past => disturbed.keeps.ramReady (held.ready past)
  published := by
    rw [Board.captureState, disturbed.keeps.captureState]
    intro complete
    obtain ⟨arguments, evidence, active, source, holds⟩ := held.published complete
    exact ⟨arguments, evidence, disturbed.mem active, source,
      holds.of_same disturbed.keeps.evidence⟩

/-- Every board of a boot keeps the lifecycle. -/
theorem of_reaches (stored : initial layout.captureState = resetInProgress)
    (held : Lifecycle layout initial board) (reached : board.Reaches layout sentinels after) :
    Lifecycle layout initial after := by
  -- The induction is on the steps of the boot, each of which keeps the lifecycle.
  induction reached with
  | refl => exact held
  | tail _ step ih =>
    cases step with
    | run _ ran => exact ih.advance stored ran
    | disturb disturbed => exact ih.disturb disturbed

/-- A boot whose reset has just marked itself keeps the lifecycle. -/
theorem begun {core : Thumb.Core} (pc : core.pc = 3)
    (stored : initial layout.captureState = resetInProgress) :
    Lifecycle layout initial ⟨initial, [.reset core]⟩ where
  exclusive := by
    -- Marking the memory again would change nothing.
    have marked : layout.marked initial = initial := by
      rw [Layout.marked, ← stored, Function.update_eq_self]
    have started : ResetAt layout initial _ ⟨core, layout.marked initial⟩ := .imageStart pc
    rw [marked] at started
    exact .of_resetAt started
  ready := fun past => absurd stored past
  published := by
    intro complete
    have same : resetInProgress = captureComplete := stored.symm.trans complete
    cases same

/-- A step leaves the capture state alone or makes one of its moves. -/
theorem captureState_step (stored : initial layout.captureState = resetInProgress)
    (held : Lifecycle layout initial board) (step : board.Step layout sentinels after) :
    after.captureState layout = board.captureState layout ∨
      CaptureMoves (board.captureState layout) (after.captureState layout) := by
  -- A reset that found itself marked changes nothing; disturbances change nothing either.
  cases step with
  | run _ ran =>
    obtain ⟨context, later, below, _, _, _, stepped, _⟩ := held.exclusive.ran ran
    cases context with
    | reset core => exact Or.inl (stepped.marked stored)
    | start _ | entry _ | capture _ _ => exact stepped.captureState (by simp)
  | disturb disturbed => exact Or.inl disturbed.keeps.captureState

end Lifecycle

/-- The capture in a boot: how its state moves, when it runs, and what it publishes. -/
structure CaptureLifecycle (layout : Layout) (sentinels : Sentinels layout) (initial : Memory)
    (board : Board) : Prop where
  moves : ∀ next, board.Step layout sentinels next →
    next.captureState layout = board.captureState layout ∨
      CaptureMoves (board.captureState layout) (next.captureState layout)
  -- An activation of the capture finds memory initialised, and is the only one of the boot.
  ready : 0 < captures board.contexts → RamReady layout initial board.memory
  single : captures board.contexts ≤ 1
  writer : ∀ next, board.Step layout sentinels next →
    ∀ index, next.memory (layout.evidenceAddress index)
        ≠ board.memory (layout.evidenceAddress index) →
      ∃ arguments point below, board.contexts = .capture arguments point :: below
  published : board.captureState layout = captureComplete →
    ∃ arguments evidence, .capture arguments (.halted evidence) ∈ board.contexts ∧
      Published arguments evidence ∧
        ∀ index, board.memory (layout.evidenceAddress index) = evidence.word index

/-- However faults interrupt a boot and each other, it keeps to the lifecycle of the capture. -/
theorem captureLifecycle_of_reaches {core : Thumb.Core} {board : Board} (pc : core.pc = 3)
    (stored : initial layout.captureState = resetInProgress)
    (reached : Board.Reaches layout sentinels ⟨initial, [.reset core]⟩ board) :
    CaptureLifecycle layout sentinels initial board := by
  -- The invariant of the boot has each part of the lifecycle in it.
  have held := (Lifecycle.begun pc stored).of_reaches stored reached
  refine ⟨fun next step => held.captureState_step stored step, ?_, held.exclusive.single,
    fun next step index => held.exclusive.exists_capture_of_evidence step, ?_⟩
  · intro active
    exact held.ready (held.exclusive.claimed active).ne_reset
  · intro complete
    obtain ⟨arguments, evidence, active, source, holds⟩ := held.published complete
    exact ⟨arguments, evidence, active, source, fun index => holds index (by simp)⟩

/-- A usage fault of a thread on the main stack. -/
def usageFault : Thumb.Core where
  regs := fun register => if register = .lr then excReturnThreadMspBasic else 0
  special := fun special => if special = .ipsr then 6 else 0x2001ffc0
  zero := false
  carry := false
  primask := false
  pc := 3

/-- The bootstrap image when its reset has marked itself. -/
def bootstrapBoard : Board where
  memory := bootstrapLayout.marked bootstrapMemory
  contexts := [.reset (bootstrapCore.jump 3)]

/-- The bootstrap image comes up and faults; a second fault interrupts the entry before its claim. -/
def bootstrapSchedule : List Event :=
  List.replicate 24 (.run magicWord) ++ [.fault usageFault] ++ List.replicate 4 (.run magicWord)
    ++ [.fault usageFault] ++ List.replicate 21 (.run magicWord) ++ (List.finRange 19).map .run
    ++ List.replicate 2 (.run magicWord)

/-- The bootstrap image publishes the snapshot of its usage fault. -/
theorem bootstrapBoard_captures : ∃ board,
    Board.Reaches bootstrapLayout bootstrapSentinels bootstrapBoard board ∧
      board.captureState bootstrapLayout = captureComplete ∧
      board.memory (bootstrapLayout.evidenceAddress 2) = 6 ∧
      CaptureLifecycle bootstrapLayout bootstrapSentinels bootstrapBoard.memory board := by
  -- The schedule is played out to its end, where the capture is complete.
  have played : (bootstrapBoard.play bootstrapLayout bootstrapSentinels bootstrapSchedule).map
      (fun board => (board.captureState bootstrapLayout,
        board.memory (bootstrapLayout.evidenceAddress 2))) = some (captureComplete, 6) := by
    decide +kernel
  obtain ⟨board, ends, values⟩ := Option.map_eq_some_iff.mp played
  obtain ⟨complete, exception⟩ := Prod.mk.inj values
  have reached := Board.reaches_of_play ends
  exact ⟨board, reached, complete, exception,
    captureLifecycle_of_reaches rfl (by decide) reached⟩

end Malleus
