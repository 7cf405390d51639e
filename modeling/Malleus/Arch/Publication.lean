import Malleus.Arch.Lifecycle

/-! Publication over warm resets, which keep the snapshot of an earlier boot. -/

namespace Malleus

open Machine

/-- The captures begun so far, and for each word of the snapshot the last of them to write it, with
what it was writing. -/
structure History where
  captures : Nat
  author : Fin 19 → Option (Nat × FaultEvidence)

namespace History

/-- Nothing has been captured yet. -/
def blank : History := ⟨0, fun _ => none⟩

/-- The capture that runs, the last one begun, writes a word. -/
def wrote (history : History) (index : Fin 19) (evidence : FaultEvidence) : History :=
  { history with author := Function.update history.author index (some (history.captures, evidence)) }

@[simp] theorem wrote_captures (history : History) (index : Fin 19) (evidence : FaultEvidence) :
    (history.wrote index evidence).captures = history.captures := rfl

@[simp] theorem wrote_author (history : History) (index : Fin 19) (evidence : FaultEvidence) :
    (history.wrote index evidence).author
      = Function.update history.author index (some (history.captures, evidence)) := rfl

/-- The history after the context that runs has taken a step. -/
def record (history : History) (choice : Fin 19) : Context → Context → History
  | .entry _, .capture _ _ => { history with captures := history.captures + 1 }
  | .capture _ (.writing evidence []), _ => history.wrote magicWord evidence
  | .capture _ (.writing evidence (_ :: _)), _ => history.wrote choice evidence
  | _, _ => history

end History

/-- A board across its warm resets. -/
structure Bench where
  board : Board
  history : History

/-- Under the magic, all other words of the snapshot were written by one and the same capture. -/
def Untorn (layout : Layout) (memory : Memory) (history : History) : Prop :=
  memory (layout.evidenceAddress magicWord) = evidenceMagic →
    ∃ capture evidence, ∀ index, index ≠ magicWord →
      history.author index = some (capture, evidence) ∧
        memory (layout.evidenceAddress index) = evidence.word index

/-- The context is a capture that has yet to write the first word of its snapshot. -/
def Context.aboutToWrite : Context → Bool
  | .capture _ (.writing _ pending) => pending = List.finRange 19
  | _ => false

namespace Bench

/-- The first reset finds any memory. -/
def begun (memory : Memory) (core : Thumb.Core) : Bench := ⟨⟨memory, [.reset core]⟩, .blank⟩

/-- The history after a step of the context that runs. -/
def record (bench : Bench) (choice : Fin 19) (next : Board) : History :=
  match bench.board.contexts, next.contexts with
  | context :: _, later :: _ => bench.history.record choice context later
  | _, _ => bench.history

/-- One step over any number of boots, with the word chosen when the program takes it. -/
inductive Step (layout : Layout) (sentinels : Sentinels layout) (bench : Bench) :
    Option (Fin 19) → Bench → Prop where
  | run {next : Board} (choice : Fin 19)
    (ran : bench.board.advance layout sentinels choice = some next) :
    Step layout sentinels bench (some choice) ⟨next, bench.record choice next⟩
  | disturb {next : Board} (disturbed : bench.board.Disturbed layout next) :
    Step layout sentinels bench none ⟨next, bench.history⟩
  | reset {memory : Memory} {core : Thumb.Core} (pc : core.pc = 0)
    (kept : ∀ address, layout.uninit.Contains address →
      memory address = bench.board.memory address) :
    Step layout sentinels bench none ⟨⟨memory, [.reset core]⟩, bench.history⟩

/-- A run, as the benches it has left with the choices made there, and the bench it is at. -/
inductive Run (layout : Layout) (sentinels : Sentinels layout) (start : Bench) :
    List (Bench × Option (Fin 19)) → Bench → Prop where
  | start : Run layout sentinels start [] start
  | step {steps : List (Bench × Option (Fin 19))} {bench next : Bench} {choice : Option (Fin 19)}
    (run : Run layout sentinels start steps bench)
    (step : bench.Step layout sentinels choice next) :
    Run layout sentinels start ((bench, choice) :: steps) next

/-- A capture that finds the magic of an earlier one overwrites it before any other word. -/
def Careful (layout : Layout) (bench : Bench) (choice : Option (Fin 19)) : Prop :=
  bench.board.contexts.head?.any Context.aboutToWrite = true →
    bench.board.memory (layout.evidenceAddress magicWord) = evidenceMagic →
      choice = none ∨ choice = some magicWord

instance (layout : Layout) (bench : Bench) (choice : Option (Fin 19)) :
    Decidable (bench.Careful layout choice) :=
  inferInstanceAs (Decidable (_ → _ → _))

end Bench

variable {layout : Layout} {sentinels : Sentinels layout} {choice : Fin 19}
  {initial memory next : Memory} {history : History}

/-- The history follows the context that runs. -/
theorem Bench.record_of_contexts {bench : Bench} {after : Board} {context later : Context}
    {below : List Context} (before : bench.board.contexts = context :: below)
    (contexts : after.contexts = later :: below) :
    bench.record choice after = bench.history.record choice context later := by
  rw [record, before, contexts]

/-- No author is later than the last capture begun. -/
def History.Begun (history : History) : Prop :=
  ∀ index capture evidence, history.author index = some (capture, evidence) →
    capture ≤ history.captures

namespace History.Begun

/-- The capture that writes a word has begun. -/
theorem wrote (begun : history.Begun) (choice : Fin 19) (evidence : FaultEvidence) :
    (history.wrote choice evidence).Begun := by
  intro index capture earlier author
  rw [wrote_author] at author
  -- The word just written is by the capture under way; the others keep their authors.
  by_cases same : index = choice
  · rw [same, Function.update_self] at author
    cases author
    exact le_rfl
  · rw [Function.update_of_ne same] at author
    exact begun index capture earlier author

/-- A step of the context that runs has no author that has not begun. -/
theorem record (begun : history.Begun) (choice : Fin 19) (context later : Context) :
    (history.record choice context later).Begun := by
  unfold History.record
  -- Entering the capture only raises the number of captures, and writing names the current one.
  split
  · exact fun index capture earlier author => Nat.le_succ_of_le (begun index capture earlier author)
  · exact begun.wrote _ _
  · exact begun.wrote _ _
  · exact begun

end History.Begun

/-- How far a capture has come with the words of its snapshot. -/
structure Progress (layout : Layout) (memory : Memory) (history : History)
    (evidence : FaultEvidence) (pending : List (Fin 19)) : Prop where
  written : ∀ index, index ∉ pending → history.author index = some (history.captures, evidence)
  older : ∀ index, index ∈ pending → ∀ capture earlier,
    history.author index = some (capture, earlier) → capture < history.captures
  -- The magic of an earlier capture was the first word to go.
  untouched : memory (layout.evidenceAddress magicWord) = evidenceMagic → pending = List.finRange 19

/-- What the history says of the snapshot while a context runs. -/
def Context.Recorded (layout : Layout) (memory : Memory) (history : History) : Context → Prop
  | .capture _ (.reading _ _) =>
    ∀ index capture earlier, history.author index = some (capture, earlier) →
      capture < history.captures
  | .capture _ (.writing evidence pending) => Progress layout memory history evidence pending
  | _ => True

/-- The history accounts for the snapshot. -/
structure Attributed (layout : Layout) (bench : Bench) : Prop where
  exclusive : ∃ initial, Exclusive layout initial bench.board
  begun : bench.history.Begun
  recorded : ∀ context below, bench.board.contexts = context :: below →
    context.Recorded layout bench.board.memory bench.history
  untorn : Untorn layout bench.board.memory bench.history

/-- While the snapshot and its authors stay the same, it is no more torn than before. -/
theorem Untorn.of_same {later : History} (untorn : Untorn layout memory history)
    (same : ∀ index, next (layout.evidenceAddress index) = memory (layout.evidenceAddress index))
    (author : later.author = history.author) : Untorn layout next later := by
  intro magic
  rw [same] at magic
  -- The capture that vouched for the words before still does.
  obtain ⟨capture, evidence, written⟩ := untorn magic
  refine ⟨capture, evidence, fun index other => ?_⟩
  rw [author, same]
  exact written index other

/-- What is recorded while a context runs depends on the snapshot alone. -/
theorem Context.Recorded.of_same {context : Context}
    (recorded : context.Recorded layout memory history)
    (same : ∀ index, next (layout.evidenceAddress index) = memory (layout.evidenceAddress index)) :
    context.Recorded layout next history := by
  -- Only a capture that is still writing is recorded about, through the word of the magic.
  cases context with
  | reset _ | start _ | entry _ => trivial
  | capture arguments point =>
    cases point with
    | reading _ _ => exact recorded
    | writing evidence pending =>
      exact ⟨recorded.written, recorded.older, fun kept => recorded.untouched (same magicWord ▸ kept)⟩
    | completing _ | halted _ => trivial

namespace Progress

variable {evidence : FaultEvidence} {pending : List (Fin 19)}

/-- A capture that is careful leaves no magic behind while it writes. -/
theorem magic_write (progress : Progress layout memory history evidence pending)
    (magic : evidence.magic = 0)
    (careful : pending = List.finRange 19 → memory (layout.evidenceAddress magicWord) = evidenceMagic →
      choice = magicWord) :
    Function.update memory (layout.evidenceAddress choice) (evidence.word choice)
      (layout.evidenceAddress magicWord) ≠ evidenceMagic := by
  -- Either the magic is the word overwritten, with zero, or it was gone before.
  by_cases first : choice = magicWord
  · rw [first, Function.update_self, FaultEvidence.word_magicWord, magic]
    decide
  · rw [Function.update_of_ne (layout.evidenceAddress_inj.not.mpr (Ne.symm first))]
    intro kept
    exact first (careful (progress.untouched kept) kept)

/-- The next word written joins the words already there. -/
theorem write (progress : Progress layout memory history evidence pending)
    (gone : next (layout.evidenceAddress magicWord) ≠ evidenceMagic) :
    Progress layout next (history.wrote choice evidence) evidence (pending.filter (· ≠ choice)) where
  written := by
    intro index done
    rw [History.wrote_author, History.wrote_captures]
    -- The word chosen is by this capture now, and the words done before still are.
    by_cases same : index = choice
    · rw [same, Function.update_self]
    · have before : index ∉ pending := by
        simpa [same] using done
      rw [Function.update_of_ne same, progress.written index before]
  older := by
    intro index left capture earlier author
    -- A word still pending was pending before, and its author is unchanged.
    obtain ⟨before, other⟩ := List.mem_filter.mp left
    rw [History.wrote_author, Function.update_of_ne (of_decide_eq_true other)] at author
    exact progress.older index before capture earlier author
  untouched := fun kept => absurd kept gone

end Progress

/-- The magic vouches for a capture that has written all its words. -/
theorem Progress.untorn {evidence : FaultEvidence}
    (progress : Progress layout memory history evidence [])
    (holds : Holds layout memory evidence []) :
    Untorn layout (Function.update memory (layout.evidenceAddress magicWord) evidenceMagic)
      (history.wrote magicWord evidence) := by
  intro _
  -- Every word but the first is by the current capture, and holds what it wrote.
  refine ⟨history.captures, evidence, fun index other => ?_⟩
  rw [History.wrote_author, Function.update_of_ne other,
    Function.update_of_ne (layout.evidenceAddress_inj.not.mpr other)]
  exact ⟨progress.written index (by simp), holds index (by simp)⟩

/-- After a careful step the history still accounts for what the capture has written. -/
theorem Context.Ran.recorded {context later : Context}
    (ran : context.Ran layout sentinels choice initial memory next later)
    (begun : history.Begun)
    (recorded : context.Recorded layout memory history)
    (careful : context.aboutToWrite = true → memory (layout.evidenceAddress magicWord) = evidenceMagic →
      choice = magicWord) :
    later.Recorded layout next (history.record choice context later) := by
  cases ran with
  | initialises _ _ | enters _ | starts _ | passes | claims _ => trivial
  | calls _ =>
    -- The capture just begun is later than all authors.
    exact fun index capture earlier author => Nat.lt_succ_of_le (begun index capture earlier author)
  | captures before _ took =>
    cases took with
    | reads => exact recorded
    | assembles =>
      exact ⟨fun index done => absurd (List.mem_finRange index) done,
        fun index _ => recorded index, fun _ => rfl⟩
    | writes =>
      refine recorded.write (recorded.magic_write before.2.1.magic fun fresh => careful ?_)
      exact decide_eq_true fresh
    | publishes | completes | halts => trivial

/-- After a careful step the snapshot is no more torn than before. -/
theorem Context.Ran.untorn {context later : Context}
    (ran : context.Ran layout sentinels choice initial memory next later)
    (untorn : Untorn layout memory history) (recorded : context.Recorded layout memory history)
    (careful : context.aboutToWrite = true → memory (layout.evidenceAddress magicWord) = evidenceMagic →
      choice = magicWord) :
    Untorn layout next (history.record choice context later) := by
  cases context with
  | reset _ | start _ | entry _ =>
    -- The snapshot is left alone, and at most one more capture is begun.
    refine untorn.of_same (ran.evidence rfl) ?_
    cases ran <;> rfl
  | capture arguments point =>
    cases ran with
    | captures before _ took =>
      cases took with
      | reads | assembles | halts => exact untorn
      | writes =>
        refine fun kept => absurd kept (recorded.magic_write before.2.1.magic fun fresh => careful ?_)
        exact decide_eq_true fresh
      | publishes => exact recorded.untorn before.2.2
      | completes =>
        refine untorn.of_same (fun index => ?_) rfl
        exact Function.update_of_ne (layout.captureState_ne_evidenceAddress index).symm ..

/-- Some word behind the magic is none other given. -/
theorem exists_other (index : Fin 19) : ∃ other : Fin 19, other ≠ magicWord ∧ other ≠ index := by
  by_cases same : index = 1
  · exact ⟨2, by decide, by rw [same]; decide⟩
  · exact ⟨1, by decide, Ne.symm same⟩

/-- A step that is not careful tears the snapshot at once. -/
theorem Context.Ran.torn {context later : Context}
    (ran : context.Ran layout sentinels choice initial memory next later)
    (recorded : context.Recorded layout memory history) (fresh : context.aboutToWrite = true)
    (kept : memory (layout.evidenceAddress magicWord) = evidenceMagic) (other : choice ≠ magicWord) :
    ¬Untorn layout next (history.record choice context later) := by
  cases ran with
  | initialises _ _ | enters _ | starts _ | passes | claims _ | calls _ => cases fresh
  | captures _ _ took =>
    cases took with
    | reads | assembles | publishes | completes | halts => cases fresh
    | @writes evidence first rest =>
      have all : first :: rest = List.finRange 19 := of_decide_eq_true fresh
      intro untorn
      obtain ⟨capture, written, same⟩ := untorn (by
        rw [Function.update_of_ne (layout.evidenceAddress_inj.not.mpr (Ne.symm other)), kept])
      -- The word just written is of this capture, any other of an earlier one.
      have latest : capture = history.captures := by
        have author := (same choice other).1
        rw [History.record, History.wrote_author, Function.update_self] at author
        cases author
        rfl
      obtain ⟨index, behind, apart⟩ := exists_other choice
      have author := (same index behind).1
      rw [History.record, History.wrote_author, Function.update_of_ne apart] at author
      have older := recorded.older index (all ▸ List.mem_finRange index) capture written author
      omega

namespace Attributed

variable {bench : Bench} {after : Board}

/-- A careful step of the context that runs keeps the history accounting for the snapshot. -/
theorem advance (held : Attributed layout bench)
    (ran : bench.board.advance layout sentinels choice = some after)
    (careful : bench.Careful layout (some choice)) :
    Attributed layout ⟨after, bench.record choice after⟩ := by
  obtain ⟨initial, exclusive⟩ := held.exclusive
  obtain ⟨context, later, below, before, contexts, _, stepped, _⟩ := exclusive.ran ran
  have recorded := held.recorded context below before
  -- A careful capture starts at the magic when one is still there.
  have first : context.aboutToWrite = true →
      bench.board.memory (layout.evidenceAddress magicWord) = evidenceMagic →
        choice = magicWord := by
    intro fresh kept
    have chosen := careful (by simpa [before] using fresh) kept
    simpa using chosen
  rw [Bench.record_of_contexts before contexts]
  refine ⟨⟨initial, exclusive.advance ran⟩, held.begun.record choice context later, ?_,
    stepped.untorn held.untorn recorded first⟩
  -- What is recorded next is about the context that ran.
  intro running _ same
  rw [contexts] at same
  cases same
  exact stepped.recorded held.begun recorded first

/-- What disturbs the program keeps the history accounting for the snapshot. -/
theorem disturb (held : Attributed layout bench)
    (disturbed : bench.board.Disturbed layout after) :
    Attributed layout ⟨after, bench.history⟩ := by
  obtain ⟨initial, exclusive⟩ := held.exclusive
  have same := disturbed.keeps.evidence
  refine ⟨⟨initial, exclusive.disturb disturbed⟩, held.begun, ?_, held.untorn.of_same same rfl⟩
  intro context below contexts
  -- A fault starts an entry, about which nothing is recorded.
  cases disturbed with
  | elsewhere _ _ => exact (held.recorded context below contexts).of_same same
  | fault _ _ =>
    cases contexts
    trivial

/-- A warm reset keeps the history accounting for the snapshot. -/
theorem reset (held : Attributed layout bench) {core : Thumb.Core} (pc : core.pc = 0)
    (kept : ∀ address, layout.uninit.Contains address →
      memory address = bench.board.memory address) :
    Attributed layout ⟨⟨memory, [.reset core]⟩, bench.history⟩ := by
  -- The snapshot lies where a reset leaves memory alone, and a reset is recorded nothing about.
  refine ⟨⟨memory, .of_resetAt (.stateAddress pc)⟩, held.begun, ?_,
    held.untorn.of_same (fun index => kept _ (layout.evidenceAddress_placed index)) rfl⟩
  intro context below contexts
  cases contexts
  trivial

/-- Before anything is captured nothing is vouched for. -/
theorem begun_blank {core : Thumb.Core} (pc : core.pc = 0)
    (blank : memory (layout.evidenceAddress magicWord) ≠ evidenceMagic) :
    Attributed layout (.begun memory core) := by
  -- There is no author yet, and the one context is a reset.
  refine ⟨⟨memory, .of_resetAt (.stateAddress pc)⟩, ?_, ?_, fun kept => absurd kept blank⟩
  · intro index capture evidence author
    cases author
  · intro context below contexts
    cases contexts
    trivial

/-- A careful step, whoever takes it, keeps the history accounting for the snapshot. -/
theorem step {after : Bench} {choice : Option (Fin 19)} (held : Attributed layout bench)
    (step : bench.Step layout sentinels choice after) (careful : bench.Careful layout choice) :
    Attributed layout after := by
  -- One case for each party: the program, what disturbs it, and the reset.
  cases step with
  | run choice ran => exact held.advance ran careful
  | disturb disturbed => exact held.disturb disturbed
  | reset pc kept => exact held.reset pc kept

/-- A step that leaves the snapshot untorn was careful. -/
theorem careful_of_untorn {after : Bench} {choice : Option (Fin 19)}
    (held : Attributed layout bench) (step : bench.Step layout sentinels choice after)
    (untorn : Untorn layout after.board.memory after.history) : bench.Careful layout choice := by
  -- Only a step of the program can be careless.
  cases step with
  | disturb _ | reset _ _ => exact fun _ _ => Or.inl rfl
  | @run after choice ran =>
    intro fresh kept
    obtain ⟨initial, exclusive⟩ := held.exclusive
    obtain ⟨context, later, below, before, contexts, _, stepped, _⟩ := exclusive.ran ran
    rw [Bench.record_of_contexts before contexts] at untorn
    -- A first word other than the magic would leave it vouching for a mixture.
    by_contra careless
    have other : choice ≠ magicWord := by
      rintro rfl
      exact careless (Or.inr rfl)
    exact stepped.torn (held.recorded context below before) (by simpa [before] using fresh) kept
      other untorn

/-- A run of careful steps keeps the history accounting for the snapshot. -/
theorem of_run {start : Bench} {steps : List (Bench × Option (Fin 19))}
    (held : Attributed layout start) (run : Bench.Run layout sentinels start steps bench)
    (careful : ∀ taken ∈ steps, taken.1.Careful layout taken.2) : Attributed layout bench := by
  -- The induction is on the run, with the newest step first.
  induction run with
  | start => exact held
  | step _ step ih =>
    rw [List.forall_mem_cons] at careful
    exact (ih careful.2).step step careful.1

end Attributed

/--
From a memory without the magic, the magic never vouches for a torn snapshot in a run exactly when
no capture in it starts to overwrite a published snapshot behind its magic.
-/
theorem untorn_iff_careful {core : Thumb.Core} {steps : List (Bench × Option (Fin 19))}
    {bench : Bench} (pc : core.pc = 0)
    (blank : memory (layout.evidenceAddress magicWord) ≠ evidenceMagic)
    (run : Bench.Run layout sentinels (.begun memory core) steps bench) :
    ((∀ taken ∈ steps, Untorn layout taken.1.board.memory taken.1.history) ∧
        Untorn layout bench.board.memory bench.history) ↔
      ∀ taken ∈ steps, taken.1.Careful layout taken.2 := by
  have begun : Attributed layout (.begun memory core) := .begun_blank pc blank
  constructor
  · rintro ⟨untorn, last⟩
    induction run with
    | start => exact fun _ taken => absurd taken List.not_mem_nil
    | step run step ih =>
      rw [List.forall_mem_cons] at untorn ⊢
      -- Up to the last step everything was careful, so the step itself decides.
      have careful := ih untorn.2 untorn.1
      exact ⟨(begun.of_run run careful).careful_of_untorn step last, careful⟩
  · intro careful
    refine ⟨?_, (begun.of_run run careful).untorn⟩
    induction run with
    | start => exact fun _ taken => absurd taken List.not_mem_nil
    | step run _ ih =>
      rw [List.forall_mem_cons] at careful ⊢
      exact ⟨(begun.of_run run careful.2).untorn, ih careful.2⟩

/-- What can happen next on a bench, as a schedule lists it. -/
inductive BenchEvent where
  | board (event : Event)
  | reset (core : Thumb.Core)

/-- The choice and the bench after an event, when it is possible there. -/
def BenchEvent.happen (layout : Layout) (sentinels : Sentinels layout) (bench : Bench) :
    BenchEvent → Option (Option (Fin 19) × Bench)
  | .board (.run choice) =>
    (bench.board.advance layout sentinels choice).map fun next =>
      (some choice, ⟨next, bench.record choice next⟩)
  | .board (.fault core) =>
    if core.pc < 4 then
      some (none, ⟨⟨bench.board.memory, .entry core :: bench.board.contexts⟩, bench.history⟩)
    else none
  | .reset core =>
    if core.pc = 0 then some (none, ⟨⟨bench.board.memory, [.reset core]⟩, bench.history⟩) else none

/-- An event is a step of the run. -/
theorem BenchEvent.step {bench after : Bench} {choice : Option (Fin 19)} {event : BenchEvent}
    (happens : event.happen layout sentinels bench = some (choice, after)) :
    bench.Step layout sentinels choice after := by
  -- Each event is the step of its name, under the same conditions.
  cases event with
  | board event =>
    cases event with
    | run choice =>
      rw [happen, Option.map_eq_some_iff] at happens
      obtain ⟨next, ran, same⟩ := happens
      cases same
      exact .run choice ran
    | fault core =>
      rw [happen, Option.ite_none_right_eq_some] at happens
      obtain ⟨vector, same⟩ := happens
      cases same
      exact .disturb (.fault (fun _ _ => rfl) vector)
  | reset core =>
    rw [happen, Option.ite_none_right_eq_some] at happens
    obtain ⟨pc, same⟩ := happens
    cases same
    exact .reset pc fun _ _ => rfl

/-- The run of a schedule, latest event first. -/
def Bench.play (layout : Layout) (sentinels : Sentinels layout) (start : Bench) :
    List BenchEvent → Option (List (Bench × Option (Fin 19)) × Bench)
  | [] => some ([], start)
  | event :: earlier =>
    (start.play layout sentinels earlier).bind fun (steps, bench) =>
      (event.happen layout sentinels bench).map fun (choice, next) =>
        ((bench, choice) :: steps, next)

/-- A schedule that is possible is a run. -/
theorem Bench.run_of_play {start bench : Bench} {steps : List (Bench × Option (Fin 19))}
    {schedule : List BenchEvent}
    (played : start.play layout sentinels schedule = some (steps, bench)) :
    Run layout sentinels start steps bench := by
  -- A schedule lists its newest event first, as a run lists its steps.
  induction schedule generalizing steps bench with
  | nil =>
    cases played
    exact .start
  | cons event earlier ih =>
    rw [play, Option.bind_eq_some_iff] at played
    obtain ⟨⟨before, reached⟩, run, happens⟩ := played
    obtain ⟨⟨choice, next⟩, happens, same⟩ := Option.map_eq_some_iff.mp happens
    cases same
    exact .step (ih run) (BenchEvent.step happens)

/-- A hard fault deeper on the main stack. -/
def hardFault : Thumb.Core where
  regs := fun register => if register = .lr then excReturnThreadMspBasic else 0
  special := fun special => if special = .ipsr then 3 else 0x2001ff80
  zero := false
  carry := false
  primask := false
  pc := 0

/-- The bootstrap image comes up, faults, and takes some accesses once it has read its registers. -/
def faultingBoot (fault : Thumb.Core) (choices : List (Fin 19)) : List BenchEvent :=
  let comesUp := List.replicate 27 (Event.run magicWord)
  let reads := List.replicate 21 (Event.run magicWord)
  (comesUp ++ [Event.fault fault] ++ reads ++ choices.map Event.run).map .board

/-- A bench with the bootstrap image, at its first reset. -/
def bootstrapBench : Bench := .begun bootstrapMemory bootstrapCore

/-- A usage fault is captured, and after a warm reset a hard fault is, from the words given on. -/
def twoFaults (choices : List (Fin 19)) : List BenchEvent :=
  faultingBoot usageFault (List.finRange 19 ++ [magicWord, magicWord]) ++ [.reset bootstrapCore]
    ++ faultingBoot hardFault choices

/-- A second capture that writes the exception number first tears the snapshot of the first one: under
the magic, the hard fault of the one stands beside the stack pointer of the other. -/
theorem twoFaults_torn : ∃ steps bench,
    Bench.Run bootstrapLayout bootstrapSentinels bootstrapBench steps bench ∧
      bootstrapMemory (bootstrapLayout.evidenceAddress magicWord) ≠ evidenceMagic ∧
      bench.board.memory (bootstrapLayout.evidenceAddress magicWord) = evidenceMagic ∧
      bench.board.memory (bootstrapLayout.evidenceAddress 2) = 3 ∧
      bench.board.memory (bootstrapLayout.evidenceAddress 4) = 0x2001ffc0 ∧
      ¬Untorn bootstrapLayout bench.board.memory bench.history := by
  have played : (bootstrapBench.play bootstrapLayout bootstrapSentinels (twoFaults [2]).reverse).map
      (fun (_, bench) => (bench.board.memory (bootstrapLayout.evidenceAddress magicWord),
        bench.board.memory (bootstrapLayout.evidenceAddress 2),
        bench.board.memory (bootstrapLayout.evidenceAddress 4),
        (bench.history.author 2).map Prod.fst, (bench.history.author 4).map Prod.fst))
      = some (evidenceMagic, 3, 0x2001ffc0, some 2, some 1) := by
    decide +kernel
  obtain ⟨⟨steps, bench⟩, ends, values⟩ := Option.map_eq_some_iff.mp played
  simp only [Prod.mk.injEq] at values
  obtain ⟨magic, exception, stack, second, first⟩ := values
  refine ⟨steps, bench, Bench.run_of_play ends, by decide, magic, exception, stack, ?_⟩
  intro untorn
  obtain ⟨capture, evidence, same⟩ := untorn magic
  -- One capture cannot be both the first and the second.
  rw [(same 2 (by decide)).1] at second
  rw [(same 4 (by decide)).1] at first
  cases second
  cases first

/-- A second capture that writes the magic first publishes a snapshot of its own. -/
theorem twoFaults_untorn : ∃ steps bench,
    Bench.Run bootstrapLayout bootstrapSentinels bootstrapBench steps bench ∧
      bench.history.captures = 2 ∧
      bench.board.memory (bootstrapLayout.evidenceAddress magicWord) = evidenceMagic ∧
      Untorn bootstrapLayout bench.board.memory bench.history := by
  -- The schedule is played out, and each of its steps found careful.
  have played : (bootstrapBench.play bootstrapLayout bootstrapSentinels
        (twoFaults (List.finRange 19 ++ [magicWord])).reverse).map
      (fun (steps, bench) =>
        (steps.all fun taken => taken.1.Careful bootstrapLayout taken.2, bench.history.captures,
          bench.board.memory (bootstrapLayout.evidenceAddress magicWord)))
      = some (true, 2, evidenceMagic) := by
    decide +kernel
  obtain ⟨⟨steps, bench⟩, ends, values⟩ := Option.map_eq_some_iff.mp played
  simp only [Prod.mk.injEq] at values
  obtain ⟨careful, captures, magic⟩ := values
  have run := Bench.run_of_play ends
  have untorn := (untorn_iff_careful rfl (by decide) run).mpr (by simpa using careful)
  exact ⟨steps, bench, run, captures, magic, untorn.2⟩

end Malleus
