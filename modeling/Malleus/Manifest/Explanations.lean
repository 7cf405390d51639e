import Malleus.Manifest.Acceptance

/-! Every finding tells what is wrong and what to do about it, whichever check produced it. -/

namespace Malleus

open Machine

/-- A text shows something: there is more in it than white space. -/
def Visible (text : String) : Prop := Text.trim text ≠ ""

instance : DecidablePred Visible := fun text => inferInstanceAs (Decidable (¬Text.trim text = ""))

/-- A text shows something exactly when some character of it is no white space. -/
theorem visible_iff {text : String} :
    Visible text ↔ ∃ c ∈ text.toList, Text.isWhiteSpace c = false := by
  rw [Visible, ne_eq, Text.trim_eq_empty_iff, Text.Blank]
  simp

/-- A text that opens with a character other than white space shows something. -/
theorem visible_text {first : Char} {rest : List Char} (ink : Text.isWhiteSpace first = false) :
    Visible (String.ofList (first :: rest)) :=
  visible_iff.mpr ⟨first, by simp, ink⟩

/-- A text shows something if its first part does. -/
theorem Visible.append {first : String} (visible : Visible first) (second : String) :
    Visible (first ++ second) := by
  obtain ⟨c, listed, ink⟩ := visible_iff.mp visible
  exact visible_iff.mpr ⟨c, by simp [listed], ink⟩

/-- A printed number shows something. -/
theorem visible_repr (number : ℕ) : Visible (toString number) := by
  have digits : (toString number).toList ≠ [] := by
    have printed : (toString number).toList = Nat.toDigits 10 number := Nat.toList_repr
    rw [printed]
    exact Nat.toDigits_ne_nil
  -- The first digit is no white space.
  have listed := List.head_mem digits
  exact visible_iff.mpr
    ⟨_, listed, Text.isWhiteSpace_of_isDigit (Text.isDigit_repr number _ listed)⟩

/-- All findings have a property. -/
def AllFindings (property : Diagnostic → Prop) (findings : List Diagnostic) : Prop :=
  ∀ finding ∈ findings, property finding

section AllFindings

variable {property : Diagnostic → Prop}

@[simp] theorem allFindings_nil : AllFindings property [] := by simp [AllFindings]

@[simp] theorem allFindings_append {first second : List Diagnostic} :
    AllFindings property (first ++ second)
      ↔ AllFindings property first ∧ AllFindings property second := List.forall_mem_append

@[simp] theorem allFindings_flatMap {α : Type} {entries : List α} {check : α → List Diagnostic} :
    AllFindings property (entries.flatMap check)
      ↔ ∀ entry ∈ entries, AllFindings property (check entry) := by
  -- A finding of the whole list is a finding about one entry.
  simp only [AllFindings, List.mem_flatMap]
  constructor
  · intro each entry listed finding found
    exact each finding ⟨entry, listed, found⟩
  · intro each finding found
    obtain ⟨entry, listed, here⟩ := found
    exact each entry listed finding here

@[simp] theorem allFindings_singleton {finding : Diagnostic} :
    AllFindings property [finding] ↔ property finding := List.forall_mem_singleton

@[simp] theorem allFindings_reportIf {found : Prop} [Decidable found] {finding : Diagnostic} :
    AllFindings property (reportIf found finding) ↔ (found → property finding) := by
  unfold reportIf
  split <;> simp [*]

/-- A property holds throughout a sweep exactly when every visit establishes it. -/
theorem allFindings_visitAll_iff {α : Type} {check : α → Eval (List Diagnostic)} {entries : List α}
    {found : List Diagnostic} (visited : visitAll check entries = .ok found) :
    AllFindings property found
      ↔ ∀ entry ∈ entries, ∃ part, check entry = .ok part ∧ AllFindings property part := by
  -- A sweep that completes joins what its visits found.
  obtain ⟨each, joined⟩ := (visitAll_eq_ok check entries found).mp visited
  rw [joined, allFindings_flatMap]
  refine forall₂_congr fun entry listed => ?_
  obtain ⟨part, here⟩ := each entry listed
  simp only [findingsOf, here, Except.ok.injEq, exists_eq_left']

/-- A property holds throughout a report exactly when every check establishes it. -/
theorem allFindings_report_iff {manifest : Manifest} {order : HashOrder} {report : ValidationReport}
    (completed : manifest.validate order = .ok report) :
    AllFindings property report.diagnostics
      ↔ AllFindings property (checkTaskNames [] manifest.tasks)
        ∧ AllFindings property (checkPriorities order manifest.tasks)
        ∧ AllFindings property (checkTickRate manifest.system.tickRate
          (parseTickHz manifest.system.tickRate))
        ∧ (∀ task ∈ manifest.tasks, ∃ found, checkTaskTiming manifest.system.tickRate
          (parseTickHz manifest.system.tickRate) task = .ok found ∧ AllFindings property found)
        ∧ (∀ task ∈ manifest.tasks,
          ∃ found, checkStack task = .ok found ∧ AllFindings property found)
        ∧ AllFindings property (checkChannels order manifest
          ((manifest.tasks.map Task.name).dedup) [] manifest.channels)
        ∧ AllFindings property (checkCapabilities manifest) := by
  -- A completed report is the findings of the six checks in a row.
  obtain ⟨timing, memory, timed, visited, joined⟩ :=
    (manifest.validate_eq_ok order report).mp completed
  obtain ⟨found, swept, listed⟩ := Machine.bind_eq_ok.mp timed
  rw [Machine.pure_eq_ok, Except.ok.injEq] at listed
  rw [joined, ← listed]
  simp only [allFindings_append, allFindings_visitAll_iff visited, allFindings_visitAll_iff swept,
    and_assoc]

end AllFindings

/-- A finding tells what is wrong and what to do about it. -/
structure Diagnostic.Explained (finding : Diagnostic) : Prop where
  message : Visible finding.message
  suggestion : Visible finding.suggestion

/-- One finding is explained by its two texts. -/
theorem explained_singleton {finding : Diagnostic} (message : Visible finding.message)
    (suggestion : Visible finding.suggestion) : AllFindings Diagnostic.Explained [finding] :=
  allFindings_singleton.mpr ⟨message, suggestion⟩

/-- A finding that is explained is so whenever it is reported. -/
theorem explained_reportIf {found : Prop} [Decidable found] {finding : Diagnostic}
    (message : Visible finding.message) (suggestion : Visible finding.suggestion) :
    AllFindings Diagnostic.Explained (reportIf found finding) :=
  allFindings_reportIf.mpr fun _ => ⟨message, suggestion⟩

/-- Findings about task names are explained. -/
theorem checkTaskNames_explained (seen : List String) (tasks : List Task) :
    AllFindings Diagnostic.Explained (checkTaskNames seen tasks) := by
  induction tasks generalizing seen with
  | nil => exact allFindings_nil
  | cons task rest explained =>
    simp only [checkTaskNames, allFindings_append]
    refine ⟨⟨?_, ?_⟩, explained _⟩
    -- The message quotes the repeated name, which may show nothing, between words that do.
    · exact explained_reportIf (((visible_text rfl).append _).append _)
        ((visible_text rfl).append _)
    · exact explained_reportIf (visible_text rfl) (visible_text rfl)

/-- Findings about priorities are explained. -/
theorem checkPriorities_explained (order : HashOrder) (tasks : List Task) :
    AllFindings Diagnostic.Explained (checkPriorities order tasks) := by
  simp only [checkPriorities, checkPriority, allFindings_append, allFindings_flatMap]
  refine ⟨fun task _ => ⟨?_, ?_⟩, fun level _ => ?_⟩
  · exact explained_reportIf (((((visible_text rfl).append _).append _).append _).append _)
      (((visible_text rfl).append _).append _)
  · exact explained_reportIf (visible_text rfl) (visible_text rfl)
  -- The message about a shared level opens with a count.
  · exact explained_reportIf (((visible_repr _).append _).append _)
      (((visible_text rfl).append _).append _)

/-- Findings about the tick rate are explained. -/
theorem checkTickRate_explained (tickRate : String) (tickHz : Option UInt64) :
    AllFindings Diagnostic.Explained (checkTickRate tickRate tickHz) := by
  -- Either the text is no tick rate, or the rate may be zero.
  cases tickHz with
  | none =>
    exact explained_singleton ((((visible_text rfl).append _).append _).append _)
      ((visible_text rfl).append _)
  | some hz => exact explained_reportIf (visible_text rfl) (visible_text rfl)

/-- Findings about a field that is no duration are explained. -/
theorem parseDuration_explained (text : Option String) (task field : String) :
    AllFindings Diagnostic.Explained (parseDuration text task field).2 := by
  unfold parseDuration
  -- Only a field that is given and does not parse is reported.
  split
  · exact allFindings_nil
  · split
    · exact allFindings_nil
    · exact explained_singleton ((((visible_text rfl).append _).append _).append _)
        (visible_text rfl)

/-- Findings about a zero period are explained. -/
theorem discardZeroPeriod_explained (task : String) (period : Option Duration) :
    AllFindings Diagnostic.Explained (discardZeroPeriod task period).2 := by
  unfold discardZeroPeriod
  -- Only a period that is given and zero is reported.
  split
  · split
    · exact explained_singleton ((visible_text rfl).append _) ((visible_text rfl).append _)
    · exact allFindings_nil
  · exact allFindings_nil

/-- Findings about a deadline against the period are explained. -/
theorem checkDeadline_explained (task : String) (period deadline : Option Duration) :
    AllFindings Diagnostic.Explained (checkDeadline task period deadline) := by
  unfold checkDeadline
  -- Both durations must be there to be compared.
  split
  · exact explained_reportIf
      (((((visible_text rfl).append _).append _).append _).append _ |>.append _) (visible_text rfl)
  · exact allFindings_nil

/-- Findings about an execution time against the deadline are explained. -/
theorem checkWcet_explained (task : String) (wcet deadline : Option Duration) :
    AllFindings Diagnostic.Explained (checkWcet task wcet deadline) := by
  unfold checkWcet
  -- Both durations must be there to be compared.
  split
  · exact explained_reportIf ((((visible_text rfl).append _).append _).append _)
      ((visible_text rfl).append _)
  · exact allFindings_nil

/-- The finding about a deadline that cannot be checked is explained. -/
theorem checkUnmeasured_explained (task : Task) :
    AllFindings Diagnostic.Explained (checkUnmeasured task) :=
  explained_reportIf ((visible_text rfl).append _) ((visible_text rfl).append _)

/-- Findings about the alignment of a period are explained. -/
theorem checkAlignment_explained {tickRate task : String} {period : Option Duration}
    {tickHz : Option UInt64} {found : List Diagnostic}
    (completed : checkAlignment tickRate task period tickHz = .ok found) :
    AllFindings Diagnostic.Explained found := by
  unfold checkAlignment at completed
  split at completed
  · split at completed
    -- A clock that stands still has no tick to be aligned to.
    · cases completed
      exact allFindings_nil
    · obtain ⟨aligned, -, joined⟩ := Machine.bind_eq_ok.mp completed
      cases joined
      exact explained_reportIf (((((visible_text rfl).append _).append _).append _).append _)
        ((visible_text rfl).append _)
  -- Without a period or a tick rate nothing is checked.
  · cases completed
    exact allFindings_nil

/-- Findings about a task's timing are explained. -/
theorem checkTaskTiming_explained {tickRate : String} {tickHz : Option UInt64} {task : Task}
    {found : List Diagnostic} (completed : checkTaskTiming tickRate tickHz task = .ok found) :
    AllFindings Diagnostic.Explained found := by
  obtain ⟨misaligned, tested, joined⟩ := Machine.bind_eq_ok.mp completed
  -- The findings of a task are those of its checks in a row.
  cases joined
  simp only [allFindings_append, parseDuration_explained, discardZeroPeriod_explained,
    checkDeadline_explained, checkWcet_explained, checkUnmeasured_explained,
    checkAlignment_explained tested, and_self]

/-- Findings about a task's stack are explained. -/
theorem checkStack_explained {task : Task} {found : List Diagnostic}
    (completed : checkStack task = .ok found) : AllFindings Diagnostic.Explained found := by
  unfold checkStack at completed
  split at completed
  · cases completed
    exact explained_singleton (((visible_text rfl).append _).append _) (visible_text rfl)
  · obtain ⟨padded, -, remaining⟩ := Machine.bind_eq_ok.mp completed
    obtain ⟨wasteful, checked, joined⟩ := Machine.bind_eq_ok.mp remaining
    cases joined
    rw [allFindings_append]
    refine ⟨explained_reportIf
      (((((visible_text rfl).append _).append _).append _).append _ |>.append _)
      ((visible_text rfl).append _), ?_⟩
    unfold checkPadding at checked
    split at checked
    -- A power of two is not padded.
    · cases checked
      exact allFindings_nil
    · obtain ⟨wasted, -, warned⟩ := Machine.bind_eq_ok.mp checked
      cases warned
      exact explained_singleton
        (((((((visible_text rfl).append _).append _).append _).append _).append _).append _ |>.append _)
        ((((visible_text rfl).append _).append _).append _)

/-- Findings about one channel are explained. -/
theorem checkChannel_explained (order : HashOrder) (manifest : Manifest) (names : List String)
    (channel : Channel) :
    AllFindings Diagnostic.Explained (checkChannel order manifest names channel) := by
  -- Both ends are looked up in the same way.
  have endpoint : ∀ role task,
      AllFindings Diagnostic.Explained (checkEndpoint order names channel.name role task) := by
    intro role task
    exact explained_reportIf (((((visible_text rfl).append _).append _).append _).append _)
      ((((visible_text rfl).append _).append _).append _)
  have inversion : AllFindings Diagnostic.Explained (checkInversion manifest channel) := by
    unfold checkInversion
    split
    -- Only a channel that blocks between two declared tasks is compared.
    · split
      · exact explained_reportIf
          (((((visible_text rfl).append _).append _).append _).append _ |>.append _)
          (((visible_text rfl).append _).append _)
      · exact allFindings_nil
    · exact allFindings_nil
  simp only [checkChannel, allFindings_append, endpoint, inversion, true_and, and_true]
  refine ⟨⟨?_, ?_⟩, ?_⟩
  · exact explained_reportIf (((visible_text rfl).append _).append _) (visible_text rfl)
  · exact explained_reportIf (visible_text rfl) ((visible_text rfl).append _)
  · exact explained_reportIf (((visible_text rfl).append _).append _)
      ((((visible_text rfl).append _).append _).append _)

/-- Findings about the channels are explained. -/
theorem checkChannels_explained (order : HashOrder) (manifest : Manifest) (names seen : List String)
    (channels : List Channel) :
    AllFindings Diagnostic.Explained (checkChannels order manifest names seen channels) := by
  -- The induction follows the channels, with the names seen so far growing.
  induction channels generalizing seen with
  | nil => exact allFindings_nil
  | cons channel rest explained =>
    simp only [checkChannels, allFindings_append]
    refine ⟨⟨?_, checkChannel_explained order manifest names channel⟩, explained _⟩
    exact explained_reportIf (((visible_text rfl).append _).append _) (visible_text rfl)

/-- Findings about the channel a capability names are explained. -/
theorem checkGrant_explained (manifest : Manifest) (task capability : String) :
    AllFindings Diagnostic.Explained (checkGrant manifest task capability) := by
  unfold checkGrant
  split
  -- A capability that names no channel is not checked.
  · exact allFindings_nil
  · split
    · exact explained_singleton (((visible_text rfl).append _).append _)
        ((((visible_text rfl).append _).append _).append _)
    · exact explained_reportIf ((((visible_text rfl).append _).append _).append _)
        ((visible_text rfl).append _)

/-- Findings about one task's capabilities are explained. -/
theorem checkGrants_explained (manifest : Manifest) (task : String) (seen capabilities : List String) :
    AllFindings Diagnostic.Explained (checkGrants manifest task seen capabilities) := by
  -- The induction follows the capabilities, with those seen so far growing.
  induction capabilities generalizing seen with
  | nil => exact allFindings_nil
  | cons capability rest explained =>
    simp only [checkGrants, allFindings_append]
    refine ⟨⟨?_, checkGrant_explained manifest task capability⟩, explained _⟩
    exact explained_reportIf (((visible_text rfl).append _).append _) (visible_text rfl)

/-- Findings about the capabilities are explained. -/
theorem checkCapabilities_explained (manifest : Manifest) :
    AllFindings Diagnostic.Explained (checkCapabilities manifest) := by
  simp only [checkCapabilities, allFindings_append, allFindings_flatMap, checkGrants_explained,
    implies_true, true_and]
  -- What is left is the channel that no task claims.
  intro channel _
  exact explained_reportIf ((visible_text rfl).append _)
    (((((((visible_text rfl).append _).append _).append _).append _).append _).append _ |>.append _)

/-- Every finding of a report is explained. -/
theorem report_explained {manifest : Manifest} {order : HashOrder} {report : ValidationReport}
    (completed : manifest.validate order = .ok report) :
    AllFindings Diagnostic.Explained report.diagnostics := by
  have sized := manifest.roundable_of_validate completed
  rw [allFindings_report_iff completed]
  refine ⟨checkTaskNames_explained _ _, checkPriorities_explained _ _, checkTickRate_explained _ _,
    fun task _ => ?_, fun task listed => ?_, checkChannels_explained _ _ _ _ _,
    checkCapabilities_explained manifest⟩
  -- Timing checks always return, and stack checks do because the whole report did.
  · obtain ⟨found, checked, -⟩ := checkTaskTiming_eq_ok manifest.system.tickRate
      (parseTickHz manifest.system.tickRate) task
    exact ⟨found, checked, checkTaskTiming_explained checked⟩
  · obtain ⟨found, checked⟩ := (checkStack_returns task).mpr (sized task listed)
    exact ⟨found, checked, checkStack_explained checked⟩

end Malleus
