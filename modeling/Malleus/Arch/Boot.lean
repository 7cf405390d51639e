import Malleus.Arch.Capture
import Mathlib.Data.List.Count

/-! One boot: what runs after the reset, what faults interrupt, and who may write the snapshot. -/

namespace Malleus

open Machine

/-- Where the Rust entry is, between two of its accesses to memory. -/
inductive StartPoint where
  | probeData
  | probeBss (dataOk : Bool)
  | report (dataOk bssOk : Bool)
  | arm
  -- The bootstrap probe or the final loop, which leave these sections alone.
  | idle
  deriving DecidableEq, Repr

/-- One access of the Rust entry. -/
def StartPoint.advance (layout : Layout) (sentinels : Sentinels layout) (memory : Memory) :
    StartPoint → Memory × StartPoint
  | .probeData => (memory, .probeBss (memory sentinels.data == dataPattern))
  | .probeBss dataOk => (memory, .report dataOk (memory sentinels.bss == 0))
  | .report dataOk bssOk =>
    (Function.update memory layout.bootEvidence (bootReport dataOk bssOk), .arm)
  | .arm => (Function.update memory layout.captureState captureArmed, .idle)
  | .idle => (memory, .idle)

-- Up to the arming, these accesses are the report that start-up owes.
example (layout : Layout) (sentinels : Sentinels layout) (memory : Memory) :
    let (first, second) := StartPoint.probeData.advance layout sentinels memory
    let (later, third) := second.advance layout sentinels first
    third.advance layout sentinels later = (malleusStart layout sentinels memory, .arm) := rfl

/-- A thread of control, interrupted or not. -/
inductive Context where
  | reset (core : Thumb.Core)
  | start (point : StartPoint)
  | entry (core : Thumb.Core)
  | capture (arguments : CaptureArguments) (point : CapturePoint)

namespace Context

/-- Whether the context is an activation of the capture. -/
def isCapture : Context → Bool
  | .capture _ _ => true
  | _ => false

/-- One step of the context that runs. -/
def advance (layout : Layout) (sentinels : Sentinels layout) (choice : Fin 19) (memory : Memory) :
    Context → Option (Memory × Context)
  | .reset core =>
    if core.pc = enterRust then some (memory, .start .probeData)
    else
      (Thumb.step (resetStub layout) ⟨core, memory⟩).map fun next => (next.memory, .reset next.core)
  | .start point =>
    let (next, later) := point.advance layout sentinels memory
    some (next, .start later)
  | .entry core =>
    if core.pc = enterCapture then some (memory, .capture (captureArguments core) .entered)
    else
      (Thumb.step (faultEntry layout) ⟨core, memory⟩).map fun next => (next.memory, .entry next.core)
  | .capture arguments point =>
    (point.advance layout arguments choice memory).map fun (next, later) =>
      (next, .capture arguments later)

end Context

/-- Memory, and the contexts of a boot: the one that runs, then those it interrupted. -/
structure Board where
  memory : Memory
  contexts : List Context

/-- The activations of the capture among some contexts. -/
def captures (contexts : List Context) : Nat := contexts.countP Context.isCapture

namespace Board

variable (layout : Layout) (sentinels : Sentinels layout)

/-- The state of the capture. -/
def captureState (board : Board) : UInt32 := board.memory layout.captureState

/-- The context that runs takes a step; those it interrupted are never returned to. -/
def advance (choice : Fin 19) (board : Board) : Option Board :=
  match board.contexts with
  | [] => none
  | context :: below =>
    (context.advance layout sentinels choice board.memory).map fun (next, later) =>
      ⟨next, later :: below⟩

end Board

/-- The sections that hold the program's variables keep their words. -/
def Layout.Keeps (layout : Layout) (memory next : Memory) : Prop :=
  ∀ address, layout.data.Contains address ∨ layout.bss.Contains address ∨
    layout.uninit.Contains address → next address = memory address

/-- What happens to the context that runs: words of the stacks and of the hardware change, or a fault
interrupts it. -/
inductive Board.Disturbed (layout : Layout) (board : Board) : Board → Prop where
  -- The stub has neither a stack nor an interest in the hardware.
  | elsewhere {memory : Memory} (kept : layout.Keeps board.memory memory)
    (started : ∀ core below, board.contexts ≠ .reset core :: below) :
    Disturbed layout board ⟨memory, board.contexts⟩
  -- The registers are stacked outside the sections, and the entry starts at one of its vectors.
  | fault {memory : Memory} {core : Thumb.Core} (kept : layout.Keeps board.memory memory)
    (vector : core.pc < 4) : Disturbed layout board ⟨memory, .entry core :: board.contexts⟩

/-- One step of a boot. -/
inductive Board.Step (layout : Layout) (sentinels : Sentinels layout) (board : Board) :
    Board → Prop where
  | run {next : Board} (choice : Fin 19) (ran : board.advance layout sentinels choice = some next) :
    Step layout sentinels board next
  | disturb {next : Board} (disturbed : board.Disturbed layout next) :
    Step layout sentinels board next

/-- The boards of a boot, in any interleaving of its steps with faults. -/
def Board.Reaches (layout : Layout) (sentinels : Sentinels layout) : Board → Board → Prop :=
  Relation.ReflTransGen (Board.Step layout sentinels)

/-- The state of the capture while the Rust entry is at a point. -/
def StartPoint.captureState : StartPoint → UInt32
  | .idle => captureArmed
  | _ => resetInProgress

/-- What memory holds while a context runs above others. -/
def Context.Sound (layout : Layout) (initial memory : Memory) (below : List Context) :
    Context → Prop
  | .reset core => below = [] ∧ ∃ left, ResetAt layout initial left ⟨core, memory⟩
  | .start point =>
    below = [] ∧ memory layout.captureState = point.captureState ∧ RamReady layout initial memory
  | .entry core =>
    EntryAt layout (memory layout.captureState) core ∧ (Owns core → captures below = 0)
  | .capture arguments point => captures below = 0 ∧ CaptureAt layout memory arguments point

variable {layout : Layout} {sentinels : Sentinels layout} {choice : Fin 19}
  {initial memory next : Memory}

/-- What is done by a step of the context that runs. -/
inductive Context.Ran (layout : Layout) (sentinels : Sentinels layout) (choice : Fin 19)
    (initial memory : Memory) : Context → Memory → Context → Prop where
  | initialises {core later : Thumb.Core} {next : Memory}
    (before : Initialising layout initial memory) (after : Initialising layout initial next) :
    Ran layout sentinels choice initial memory (.reset core) next (.reset later)
  | enters {core : Thumb.Core} (before : Initialising layout initial memory) :
    Ran layout sentinels choice initial memory (.reset core) memory (.start .probeData)
  | starts {point : StartPoint} (state : memory layout.captureState = point.captureState) :
    Ran layout sentinels choice initial memory (.start point)
      (point.advance layout sentinels memory).1 (.start (point.advance layout sentinels memory).2)
  | passes {core later : Thumb.Core} :
    Ran layout sentinels choice initial memory (.entry core) memory (.entry later)
  | claims {core later : Thumb.Core} (armed : memory layout.captureState = captureArmed) :
    Ran layout sentinels choice initial memory (.entry core)
      (Function.update memory layout.captureState captureOwned) (.entry later)
  | calls {core : Thumb.Core} (owned : memory layout.captureState = captureOwned) :
    Ran layout sentinels choice initial memory (.entry core) memory
      (.capture (captureArguments core) .entered)
  | captures {arguments : CaptureArguments} {point later : CapturePoint} {next : Memory}
    (before : CaptureAt layout memory arguments point)
    (after : CaptureAt layout next arguments later)
    (took : point.Took layout arguments choice memory next later) :
    Ran layout sentinels choice initial memory (.capture arguments point) next (.capture arguments later)

/-- The reset stub enters Rust with both sections initialised and the capture not yet armed. -/
theorem ResetAt.enters {left : Nat} {core : Thumb.Core}
    (held : ResetAt layout initial left ⟨core, memory⟩) (pc : core.pc = enterRust) :
    memory layout.captureState = resetInProgress ∧ RamReady layout initial memory := by
  -- When Rust is entered, both loops of the stub are finished.
  have finished : memory = layout.cleared initial layout.bss.words := held.memory_of_enterRust pc
  have contract := ramContract_cleared layout initial
  rw [finished]
  exact ⟨contract.captureState, contract.toRamReady⟩

namespace RamReady

/-- Initialised sections stay so while their words do. -/
theorem of_same (ready : RamReady layout initial memory)
    (same : ∀ address, layout.data.Contains address ∨ layout.bss.Contains address →
      next address = memory address) :
    RamReady layout initial next where
  data := by
    -- A word that did not change holds what its section owes it; so for either section.
    intro address inside aligned
    rw [same address (Or.inl inside), ready.data address inside aligned]
  bss := by
    intro address inside aligned
    rw [same address (Or.inr inside), ready.bss address inside aligned]

/-- What changes only the section that start-up leaves alone keeps the others. -/
theorem of_outside (ready : RamReady layout initial memory)
    (same : ∀ address, ¬layout.uninit.Contains address → next address = memory address) :
    RamReady layout initial next := by
  apply ready.of_same
  -- Neither section shares an address with the one left alone.
  rintro address (inside | inside)
  · exact same address (layout.data_apart_uninit address inside)
  · exact same address (layout.bss_apart_uninit address inside)

/-- Writing to the section that start-up leaves alone keeps the others. -/
theorem update (ready : RamReady layout initial memory) {address value : UInt32}
    (placed : layout.uninit.Contains address) :
    RamReady layout initial (Function.update memory address value) := by
  apply ready.of_outside
  -- Only the written address changes, which lies in the section left alone.
  intro other outside
  refine Function.update_of_ne ?_ ..
  rintro rfl
  exact outside placed

end RamReady

/-- Past the reset, the program writes only to the section that start-up leaves alone. -/
theorem Context.Ran.of_outside {context later : Context}
    (ran : context.Ran layout sentinels choice initial memory next later)
    (started : ∀ core, context ≠ .reset core) {address : UInt32}
    (outside : ¬layout.uninit.Contains address) : next address = memory address := by
  have state : address ≠ layout.captureState := fun same => outside (same ▸ layout.captureState_placed)
  -- What is written are three variables, all of them placed in that section.
  cases ran with
  | initialises | enters => exact absurd rfl (started _)
  | @starts point _ =>
    have report : address ≠ layout.bootEvidence :=
      fun same => outside (same ▸ layout.bootEvidence_placed)
    cases point with
    | report _ _ => exact Function.update_of_ne report ..
    | arm => exact Function.update_of_ne state ..
    | probeData | probeBss _ | idle => rfl
  | passes | calls => rfl
  | claims => exact Function.update_of_ne state ..
  | captures _ _ took =>
    refine took.of_outside state ?_
    rintro index rfl
    exact outside (layout.evidenceAddress_placed index)

/-- Only an activation of the capture changes words of the snapshot. -/
theorem Context.Ran.evidence {context later : Context}
    (ran : context.Ran layout sentinels choice initial memory next later)
    (other : context.isCapture = false) (index : Fin 19) :
    next (layout.evidenceAddress index) = memory (layout.evidenceAddress index) := by
  have state := (layout.captureState_ne_evidenceAddress index).symm
  have placed := layout.evidenceAddress_placed index
  -- Whatever else is written has another address than every word of the snapshot.
  cases ran with
  | initialises before after =>
    have notData : ¬layout.data.Contains (layout.evidenceAddress index) :=
      fun inside => layout.data_apart_uninit _ inside placed
    have notBss : ¬layout.bss.Contains (layout.evidenceAddress index) :=
      fun inside => layout.bss_apart_uninit _ inside placed
    rw [after.frame notData notBss state, before.frame notData notBss state]
  | @starts point _ =>
    cases point with
    | report _ _ => exact Function.update_of_ne (layout.bootEvidence_ne_evidenceAddress index).symm ..
    | arm => exact Function.update_of_ne state ..
    | probeData | probeBss _ | idle => rfl
  | enters | passes | calls => rfl
  | claims => exact Function.update_of_ne state ..
  | captures => cases other

/-- The moves of the capture state in a boot. -/
inductive CaptureMoves : UInt32 → UInt32 → Prop where
  | arm : CaptureMoves resetInProgress captureArmed
  | claim : CaptureMoves captureArmed captureOwned
  | complete : CaptureMoves captureOwned captureComplete

/-- Past the reset, a step leaves the capture state alone or makes one of its moves. -/
theorem Context.Ran.captureState {context later : Context}
    (ran : context.Ran layout sentinels choice initial memory next later)
    (started : ∀ core, context ≠ .reset core) :
    next layout.captureState = memory layout.captureState ∨
      CaptureMoves (memory layout.captureState) (next layout.captureState) := by
  -- Three steps move the state: the arming, the claim, and the completion.
  cases ran with
  | initialises | enters => exact absurd rfl (started _)
  | @starts point state =>
    cases point with
    | report _ _ => exact Or.inl (Function.update_of_ne layout.bootEvidence_apart.symm ..)
    | arm =>
      have armed : (StartPoint.arm.advance layout sentinels memory).1 layout.captureState
          = captureArmed := Function.update_self ..
      rw [state, armed]
      exact Or.inr .arm
    | probeData | probeBss _ | idle => exact Or.inl rfl
  | passes | calls => exact Or.inl rfl
  | claims armed =>
    rw [Function.update_self, armed]
    exact Or.inr .claim
  | captures before after took =>
    rcases before.captureState, after.captureState with ⟨owned | ⟨complete, evidence, rfl⟩, after⟩
    · rcases after with owned' | ⟨complete, _⟩
      · exact Or.inl (by rw [owned, owned'])
      · rw [owned, complete]
        exact Or.inr .complete
    · cases took
      exact Or.inl rfl

/-- The Rust entry takes a step, and memory is left as it needs it next. -/
theorem StartPoint.sound_advance {point : StartPoint} {below : List Context}
    (sound : (Context.start point).Sound layout initial memory below) :
    (Context.start (point.advance layout sentinels memory).2).Sound layout initial
      (point.advance layout sentinels memory).1 below := by
  obtain ⟨empty, state, ready⟩ := sound
  refine ⟨empty, ?_⟩
  -- Only the report and the arming write, and neither writes to an initialised section.
  cases point with
  | report _ _ =>
    exact ⟨(Function.update_of_ne layout.bootEvidence_apart.symm ..).trans state,
      ready.update layout.bootEvidence_placed⟩
  | arm => exact ⟨Function.update_self .., ready.update layout.captureState_placed⟩
  | probeData | probeBss _ | idle => exact ⟨state, ready⟩

/-- The context that runs takes a step, and memory is left as it needs it next. -/
theorem Context.Sound.advance {context later : Context} {below : List Context}
    (sound : context.Sound layout initial memory below)
    (idle : memory layout.captureState = captureArmed → captures below = 0)
    (stepped : context.advance layout sentinels choice memory = some (next, later)) :
    context.Ran layout sentinels choice initial memory next later ∧
      later.Sound layout initial next below := by
  cases context with
  | reset core =>
    obtain ⟨empty, left, held⟩ := sound
    rcases held.advance with ⟨pc, _⟩ | ⟨reached, rest, step, count, after⟩
    · rw [Context.advance, if_pos pc] at stepped
      cases stepped
      exact ⟨.enters held.initialising, empty, held.enters pc⟩
    · have before : core.pc ≠ enterRust := by
        intro pc
        rw [Thumb.step, pc] at step
        cases step
      rw [Context.advance, if_neg before, step] at stepped
      cases stepped
      exact ⟨.initialises held.initialising after.initialising, empty, rest, after⟩
  | start point =>
    cases stepped
    exact ⟨.starts sound.2.1, StartPoint.sound_advance sound⟩
  | entry core =>
    obtain ⟨held, fresh⟩ := sound
    cases held.advance with
    | calls pc owned =>
      rw [Context.advance, if_pos pc] at stepped
      cases stepped
      exact ⟨.calls owned, fresh ⟨by rw [pc]; decide, le_of_eq pc⟩, owned⟩
    | passes pc reached step after owns =>
      rw [Context.advance, if_neg pc, step] at stepped
      cases stepped
      exact ⟨.passes, after, fun owned => fresh (owns owned)⟩
    | claims pc reached armed step owns =>
      rw [Context.advance, if_neg pc, step] at stepped
      cases stepped
      -- While the capture is armed nothing below has claimed it.
      exact ⟨.claims armed, .owned owns (Function.update_self ..), fun _ => idle armed⟩
  | capture arguments point =>
    obtain ⟨fresh, before⟩ := sound
    rw [Context.advance, Option.map_eq_some_iff] at stepped
    obtain ⟨⟨reached, after⟩, step, same⟩ := stepped
    cases same
    have took := CapturePoint.took_of_advance step
    exact ⟨.captures before (before.advance took) took, fresh, before.advance took⟩

namespace Layout

/-- The state of the capture is a variable of the program. -/
theorem Keeps.captureState (kept : layout.Keeps memory next) :
    next layout.captureState = memory layout.captureState :=
  kept _ (Or.inr (Or.inr layout.captureState_placed))

/-- The initialised sections are variables of the program. -/
theorem Keeps.ramReady (kept : layout.Keeps memory next) (ready : RamReady layout initial memory) :
    RamReady layout initial next :=
  ready.of_same fun address inside => kept address (inside.imp_right Or.inl)

/-- The words of the snapshot are variables of the program. -/
theorem Keeps.evidence (kept : layout.Keeps memory next) (index : Fin 19) :
    next (layout.evidenceAddress index) = memory (layout.evidenceAddress index) :=
  kept _ (Or.inr (Or.inr (layout.evidenceAddress_placed index)))

end Layout

/-- Past the reset, a context does not notice what changes outside the variables. -/
theorem Context.Sound.of_keeps {context : Context} {below : List Context}
    (sound : context.Sound layout initial memory below) (kept : layout.Keeps memory next)
    (started : ∀ core, context ≠ .reset core) : context.Sound layout initial next below := by
  -- What each context relies on are variables that are kept.
  cases context with
  | reset core => exact absurd rfl (started core)
  | start point =>
    obtain ⟨empty, state, ready⟩ := sound
    exact ⟨empty, kept.captureState.trans state, kept.ramReady ready⟩
  | entry core =>
    obtain ⟨held, fresh⟩ := sound
    rw [Sound, kept.captureState]
    exact ⟨held, fresh⟩
  | capture arguments point =>
    exact ⟨sound.1, sound.2.of_same kept.captureState kept.evidence⟩

/-- The capture has at most one activation, and only under a claim. -/
structure Exclusive (layout : Layout) (initial : Memory) (board : Board) : Prop where
  running : ∃ context below, board.contexts = context :: below ∧
    context.Sound layout initial board.memory below
  single : captures board.contexts ≤ 1
  claimed : 0 < captures board.contexts → Claimed (board.captureState layout)

/-- What is interrupted has no more activations than all contexts. -/
theorem captures_le_cons (context : Context) (below : List Context) :
    captures below ≤ captures (context :: below) :=
  (List.sublist_cons_self context below).countP_le

/-- Above the others, a sound context keeps the capture single. -/
theorem Context.Sound.single {context : Context} {below : List Context}
    (sound : context.Sound layout initial memory below) (single : captures below ≤ 1) :
    captures (context :: below) ≤ 1 := by
  -- A capture that runs has no other below it.
  cases context with
  | reset _ | start _ | entry _ => exact single
  | capture _ _ =>
    rw [captures, List.countP_cons_of_pos rfl, ← captures, sound.1]

/-- Above the others, a sound context keeps every capture claimed. -/
theorem Context.Sound.claimed {context : Context} {below : List Context}
    (sound : context.Sound layout initial memory below)
    (claimed : 0 < captures below → Claimed (memory layout.captureState))
    (active : 0 < captures (context :: below)) : Claimed (memory layout.captureState) := by
  cases context with
  | reset _ | start _ | entry _ => exact claimed active
  | capture _ _ => exact sound.2.claimed

/-- A claim is never given up. -/
theorem CaptureMoves.claimed {before after : UInt32} (moves : CaptureMoves before after)
    (claimed : Claimed before) : Claimed after := by
  -- The arming starts from a reset, and the two other moves end claimed.
  cases moves with
  | arm => exact absurd rfl claimed.ne_reset
  | claim => exact Or.inl rfl
  | complete => exact Or.inr rfl

/-- The program's variables are not disturbed. -/
theorem Board.Disturbed.keeps {board after : Board} (disturbed : board.Disturbed layout after) :
    layout.Keeps board.memory after.memory := by
  cases disturbed with
  | elsewhere kept _ | fault kept _ => exact kept

/-- A fault enters the assembly, and not the capture. -/
theorem Board.Disturbed.captures {board after : Board} (disturbed : board.Disturbed layout after) :
    captures after.contexts = captures board.contexts := by
  cases disturbed <;> rfl

/-- No interrupted context is lost. -/
theorem Board.Disturbed.mem {board after : Board} (disturbed : board.Disturbed layout after)
    {context : Context} (active : context ∈ board.contexts) : context ∈ after.contexts := by
  cases disturbed with
  | elsewhere _ _ => exact active
  | fault _ _ => exact List.mem_cons_of_mem _ active

namespace Exclusive

variable {board after : Board}

/-- While the reset runs nothing else does. -/
theorem of_resetAt {core : Thumb.Core} {left : Nat}
    (held : ResetAt layout initial left ⟨core, memory⟩) :
    Exclusive layout initial ⟨memory, [.reset core]⟩ where
  running := ⟨_, _, rfl, rfl, left, held⟩
  single := Nat.zero_le _
  claimed := fun active => absurd active (Nat.lt_irrefl 0)

/-- While the capture is armed it has no activation. -/
theorem captures_of_armed (held : Exclusive layout initial board)
    (armed : board.captureState layout = captureArmed) : captures board.contexts = 0 := by
  by_contra active
  exact (held.claimed (Nat.pos_of_ne_zero active)).ne_armed armed

/-- A step of the board is a step of the context that runs. -/
theorem ran (held : Exclusive layout initial board)
    (ran : board.advance layout sentinels choice = some after) :
    ∃ context later below, board.contexts = context :: below ∧ after.contexts = later :: below ∧
      context.Sound layout initial board.memory below ∧
      context.Ran layout sentinels choice initial board.memory after.memory later ∧
      later.Sound layout initial after.memory below := by
  obtain ⟨context, below, contexts, sound⟩ := held.running
  rw [Board.advance, contexts, Option.map_eq_some_iff] at ran
  obtain ⟨⟨next, later⟩, stepped, same⟩ := ran
  cases same
  -- While the capture is armed, none of the interrupted contexts is an activation of it.
  have idle (armed : board.memory layout.captureState = captureArmed) : captures below = 0 := by
    have none := held.captures_of_armed armed
    rw [contexts] at none
    have fewer := captures_le_cons context below
    omega
  obtain ⟨ran, sound'⟩ := sound.advance idle stepped
  exact ⟨context, later, below, contexts, rfl, sound, ran, sound'⟩

/-- A step keeps the capture exclusive. -/
theorem advance (held : Exclusive layout initial board)
    (ran : board.advance layout sentinels choice = some after) :
    Exclusive layout initial after := by
  obtain ⟨context, later, below, before, contexts, sound, ran, sound'⟩ := held.ran ran
  have fewer : captures below ≤ captures board.contexts := by
    rw [before]
    exact captures_le_cons context below
  -- What was interrupted under a claim stays under it.
  have claimed (active : 0 < captures below) : Claimed (after.memory layout.captureState) := by
    have started (core : Thumb.Core) : context ≠ .reset core := by
      rintro rfl
      rw [sound.1] at active
      cases active
    have earlier := held.claimed (by omega)
    rcases ran.captureState started with same | moves
    · rw [same]
      exact earlier
    · exact moves.claimed earlier
  refine ⟨⟨later, below, contexts, sound'⟩, ?_, ?_⟩
  · rw [contexts]
    exact sound'.single (Nat.le_trans fewer held.single)
  · rw [contexts]
    exact sound'.claimed claimed

/-- What disturbs the program keeps the capture exclusive. -/
theorem disturb (held : Exclusive layout initial board) (disturbed : board.Disturbed layout after) :
    Exclusive layout initial after where
  running := by
    obtain ⟨context, below, contexts, sound⟩ := held.running
    cases disturbed with
    | elsewhere kept started =>
      refine ⟨context, below, contexts, sound.of_keeps kept ?_⟩
      rintro core rfl
      exact started core below contexts
    | fault kept vector =>
      -- The entry starts at a vector, far from the claim.
      refine ⟨_, _, rfl, .vector (by omega), fun owns => ?_⟩
      have reached := owns.1
      omega
  single := by
    rw [disturbed.captures]
    exact held.single
  claimed := by
    rw [disturbed.captures, Board.captureState, disturbed.keeps.captureState]
    exact held.claimed

end Exclusive

/-- Only an activation of the capture changes words of the snapshot. -/
theorem Exclusive.exists_capture_of_evidence {board after : Board}
    (held : Exclusive layout initial board) (step : board.Step layout sentinels after)
    {index : Fin 19}
    (changed : after.memory (layout.evidenceAddress index)
      ≠ board.memory (layout.evidenceAddress index)) :
    ∃ arguments point below, board.contexts = .capture arguments point :: below := by
  -- Every other context, and every disturbance, keeps the words of the snapshot.
  cases step with
  | run _ ran =>
    obtain ⟨context, later, below, contexts, _, _, stepped, _⟩ := held.ran ran
    cases context with
    | capture arguments point => exact ⟨arguments, point, below, contexts⟩
    | reset _ | start _ | entry _ => exact absurd (stepped.evidence rfl index) changed
  | disturb disturbed => exact absurd (disturbed.keeps.evidence index) changed

/-- What can happen next in a boot, as a schedule lists it. -/
inductive Event where
  | run (choice : Fin 19)
  | fault (core : Thumb.Core)

/-- The board after an event, when it is possible there. -/
def Event.happen (layout : Layout) (sentinels : Sentinels layout) (board : Board) :
    Event → Option Board
  | .run choice => board.advance layout sentinels choice
  | .fault core =>
    if core.pc < 4 then some ⟨board.memory, .entry core :: board.contexts⟩ else none

/-- An event is a step of the boot. -/
theorem Event.step {board after : Board} {event : Event}
    (happens : event.happen layout sentinels board = some after) :
    board.Step layout sentinels after := by
  -- A fault happens at a vector only.
  cases event with
  | run choice => exact .run choice happens
  | fault core =>
    rw [happen, Option.ite_none_right_eq_some, Option.some.injEq] at happens
    obtain ⟨vector, rfl⟩ := happens
    exact .disturb (.fault (fun _ _ => rfl) vector)

/-- The board after a schedule. -/
def Board.play (layout : Layout) (sentinels : Sentinels layout) (board : Board)
    (schedule : List Event) : Option Board :=
  schedule.foldlM (Event.happen layout sentinels) board

/-- A schedule leads through the boards of a boot. -/
theorem Board.reaches_of_play {schedule : List Event} {board after : Board}
    (played : board.play layout sentinels schedule = some after) :
    board.Reaches layout sentinels after := by
  -- The induction is on the schedule, whose first event is the first step.
  induction schedule generalizing board with
  | nil =>
    cases played
    exact .refl
  | cons event rest ih =>
    rw [play, List.foldlM_cons, Option.bind_eq_bind, Option.bind_eq_some_iff] at played
    obtain ⟨next, happens, later⟩ := played
    exact .head (Event.step happens) (ih later)

end Malleus
