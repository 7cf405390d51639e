import Malleus.Manifest.Findings

/-! Which findings a report raises, by severity, code, and location, and which check raises a code. -/

namespace Malleus

open Machine

/-- What a finding is known by: how serious it is, its code, and where it is. -/
abbrev FindingKey : Type := Severity × String × String

/-- The key of a finding. -/
def Diagnostic.key (finding : Diagnostic) : FindingKey :=
  (finding.severity, finding.code, finding.location)

/-- Some finding has a key. -/
def Raises (findings : List Diagnostic) (key : FindingKey) : Prop :=
  key ∈ findings.map Diagnostic.key

@[simp] theorem not_raises_nil (key : FindingKey) : ¬Raises [] key := by simp [Raises]

@[simp] theorem raises_append (first second : List Diagnostic) (key : FindingKey) :
    Raises (first ++ second) key ↔ Raises first key ∨ Raises second key := by
  simp [Raises]

@[simp] theorem raises_flatMap {α : Type} (entries : List α) (check : α → List Diagnostic)
    (key : FindingKey) :
    Raises (entries.flatMap check) key ↔ ∃ entry ∈ entries, Raises (check entry) key := by
  simp [Raises, List.map_flatMap]

@[simp] theorem Diagnostic.key_error (code location message suggestion : String) :
    (Diagnostic.error code location message suggestion).key = (.error, code, location) := rfl

@[simp] theorem Diagnostic.key_warning (code location message suggestion : String) :
    (Diagnostic.warning code location message suggestion).key = (.warning, code, location) := rfl

@[simp] theorem raises_singleton (finding : Diagnostic) (key : FindingKey) :
    Raises [finding] key ↔ key = finding.key := by
  simp [Raises]

/-- A finding is raised exactly when its condition holds. -/
@[simp] theorem raises_reportIf (found : Prop) [Decidable found] (finding : Diagnostic)
    (key : FindingKey) : Raises (reportIf found finding) key ↔ found ∧ key = finding.key := by
  unfold reportIf
  split <;> simp [*]

/-- Findings with the same keys are free of errors together. -/
theorem errorFree_congr {first second : List Diagnostic}
    (same : ∀ key, Raises first key ↔ Raises second key) : ErrorFree first ↔ ErrorFree second := by
  -- The severity of a finding is part of its key.
  have free : ∀ findings : List Diagnostic,
      ErrorFree findings ↔ ∀ key, Raises findings key → key.1 = .warning := by
    intro findings
    simp [ErrorFree, Raises, Diagnostic.key]
  simp only [free, same]

/-- All findings have one of the listed codes. -/
def CodesIn (findings : List Diagnostic) (codes : List String) : Prop :=
  ∀ key, Raises findings key → key.2.1 ∈ codes

@[simp] theorem codesIn_append {first second : List Diagnostic} {codes : List String} :
    CodesIn (first ++ second) codes ↔ CodesIn first codes ∧ CodesIn second codes := by
  simp only [CodesIn, raises_append, or_imp, forall_and]

@[simp] theorem codesIn_flatMap {α : Type} {entries : List α} {check : α → List Diagnostic}
    {codes : List String} :
    CodesIn (entries.flatMap check) codes ↔ ∀ entry ∈ entries, CodesIn (check entry) codes := by
  -- A finding of the whole list is a finding about one entry.
  simp only [CodesIn, raises_flatMap]
  constructor
  · intro within entry listed key raised
    exact within key ⟨entry, listed, raised⟩
  · intro within key raised
    obtain ⟨entry, listed, here⟩ := raised
    exact within entry listed key here

@[simp] theorem codesIn_nil (codes : List String) : CodesIn [] codes := by simp [CodesIn]

/-- A reported finding has its own code. -/
theorem codesIn_reportIf {found : Prop} [Decidable found] {finding : Diagnostic}
    {codes : List String} (listed : finding.key.2.1 ∈ codes) :
    CodesIn (reportIf found finding) codes := by
  intro key raised
  rw [raises_reportIf] at raised
  rw [raised.2]
  exact listed

/-- Findings about task names. -/
theorem checkTaskNames_codes (seen : List String) (tasks : List Task) :
    CodesIn (checkTaskNames seen tasks) ["M0001", "M0002"] := by
  induction tasks generalizing seen with
  | nil => exact codesIn_nil _
  | cons task rest others =>
    -- Two findings for the head, then those for the rest.
    simp only [checkTaskNames, codesIn_append]
    exact ⟨⟨codesIn_reportIf (by simp), codesIn_reportIf (by simp)⟩, others _⟩

/-- Findings about one task's priority. -/
theorem checkPriority_codes (task : Task) : CodesIn (checkPriority task) ["M0003", "M0004"] := by
  -- Out of range, or reserved for the idle task.
  simp only [checkPriority, codesIn_append]
  exact ⟨codesIn_reportIf (by simp), codesIn_reportIf (by simp)⟩

/-- Findings about the tick rate. -/
theorem checkTickRate_codes (tickRate : String) (tickHz : Option UInt64) :
    CodesIn (checkTickRate tickRate tickHz) ["M0024", "M0025"] := by
  -- Unreadable, or zero.
  cases tickHz with
  | none => simp [checkTickRate, CodesIn]
  | some hz => exact codesIn_reportIf (by simp)

/-- Findings about a field that is no duration. -/
theorem parseDuration_codes (text : Option String) (task field : String) :
    CodesIn (parseDuration text task field).2 ["M0023"] := by
  -- Only a given text that does not parse is reported.
  unfold parseDuration
  split
  · exact codesIn_nil _
  · split <;> simp [CodesIn]

/-- Findings about a zero period. -/
theorem discardZeroPeriod_codes (task : String) (period : Option Duration) :
    CodesIn (discardZeroPeriod task period).2 ["M0026"] := by
  -- Only a period of zero is reported.
  unfold discardZeroPeriod
  split
  · split <;> simp [CodesIn]
  · exact codesIn_nil _

/-- Findings about a deadline beyond the period. -/
theorem checkDeadline_codes (task : String) (period deadline : Option Duration) :
    CodesIn (checkDeadline task period deadline) ["M0006"] := by
  -- Only two given durations are compared.
  unfold checkDeadline
  split
  · exact codesIn_reportIf (by simp)
  · exact codesIn_nil _

/-- Findings about a period that is no whole number of ticks. -/
theorem checkAlignment_codes {tickRate task : String} {period : Option Duration}
    {tickHz : Option UInt64} {found : List Diagnostic}
    (completed : checkAlignment tickRate task period tickHz = .ok found) :
    CodesIn found ["M0009"] := by
  -- A zero rate is caught before the division, and any other is tested.
  unfold checkAlignment at completed
  split at completed
  · split at completed
    · cases completed
      exact codesIn_nil _
    · obtain ⟨aligned, -, joined⟩ := Machine.bind_eq_ok.mp completed
      cases joined
      exact codesIn_reportIf (by simp)
  · cases completed
    exact codesIn_nil _

/-- Findings about one task's stack. -/
theorem checkStack_codes {task : Task} {found : List Diagnostic}
    (completed : checkStack task = .ok found) : CodesIn found ["M0010", "M0011", "M0012"] := by
  -- A text that is no size ends the check.
  unfold checkStack at completed
  split at completed
  · cases completed
    simp [CodesIn]
  -- Otherwise the size is compared with the minimum and with its padding.
  · obtain ⟨padded, -, remaining⟩ := Machine.bind_eq_ok.mp completed
    obtain ⟨wasteful, checked, joined⟩ := Machine.bind_eq_ok.mp remaining
    rw [Machine.pure_eq_ok, Except.ok.injEq] at joined
    subst joined
    rw [codesIn_append]
    refine ⟨codesIn_reportIf (by simp), ?_⟩
    unfold checkPadding at checked
    split at checked
    · cases checked
      exact codesIn_nil _
    · obtain ⟨wasted, -, warned⟩ := Machine.bind_eq_ok.mp checked
      rw [Machine.pure_eq_ok, Except.ok.injEq] at warned
      subst warned
      simp [CodesIn]

/-- The codes of the findings about channels. -/
def channelCodes : List String := ["M0013", "M0014", "M0015", "M0016", "M0017", "M0018"]

/-- Findings about the channels. -/
theorem checkChannels_codes (order : HashOrder) (manifest : Manifest) (names seen : List String)
    (channels : List Channel) :
    CodesIn (checkChannels order manifest names seen channels) channelCodes := by
  induction channels generalizing seen with
  | nil => exact codesIn_nil _
  | cons channel rest others =>
    -- The last check of a channel depends on the overflow policy and both endpoints.
    have inversion : CodesIn (checkInversion manifest channel) channelCodes := by
      unfold checkInversion
      split
      · split
        · exact codesIn_reportIf (by simp [channelCodes])
        · exact codesIn_nil _
      · exact codesIn_nil _
    have endpoint : ∀ role task,
        CodesIn (checkEndpoint order names channel.name role task) channelCodes :=
      fun role task => codesIn_reportIf (by simp [channelCodes])
    -- Every other check reports a single error.
    simp only [checkChannels, checkChannel, codesIn_append]
    exact ⟨⟨codesIn_reportIf (by simp [channelCodes]),
      ⟨⟨⟨⟨endpoint _ _, endpoint _ _⟩, codesIn_reportIf (by simp [channelCodes])⟩,
        codesIn_reportIf (by simp [channelCodes])⟩,
        codesIn_reportIf (by simp [channelCodes])⟩, inversion⟩, others _⟩

/-- The codes of the findings about capabilities. -/
def capabilityCodes : List String := ["M0019", "M0020", "M0021", "M0022"]

/-- Findings about the capabilities. -/
theorem checkCapabilities_codes (manifest : Manifest) :
    CodesIn (checkCapabilities manifest) capabilityCodes := by
  -- A capability is a duplicate, undeclared, or held by a task at neither end.
  have grants : ∀ (task : String) (capabilities seen : List String),
      CodesIn (checkGrants manifest task seen capabilities) capabilityCodes := by
    intro task capabilities
    induction capabilities with
    | nil => intro seen; exact codesIn_nil _
    | cons capability rest others =>
      intro seen
      have grant : CodesIn (checkGrant manifest task capability) capabilityCodes := by
        unfold checkGrant
        split
        · exact codesIn_nil _
        · split
          · simp [CodesIn, capabilityCodes]
          · exact codesIn_reportIf (by simp [capabilityCodes])
      simp only [checkGrants, codesIn_append]
      exact ⟨⟨codesIn_reportIf (by simp [capabilityCodes]), grant⟩, others _⟩
  -- Channels that no endpoint claims come last.
  simp only [checkCapabilities, codesIn_append, codesIn_flatMap]
  exact ⟨fun task _ => grants task.name task.capabilities [],
    fun channel _ => codesIn_reportIf (by simp [capabilityCodes])⟩

/-- Findings of some codes are findings of a longer list of codes. -/
theorem CodesIn.mono {findings : List Diagnostic} {codes more : List String}
    (within : CodesIn findings codes) (included : ∀ code ∈ codes, code ∈ more) :
    CodesIn findings more :=
  fun key raised => included key.2.1 (within key raised)

/-- Findings of some codes raise no other code. -/
theorem CodesIn.not_raises {findings : List Diagnostic} {codes : List String}
    (within : CodesIn findings codes) {code : String} (other : code ∉ codes) (severity : Severity)
    (location : String) : ¬Raises findings (severity, code, location) :=
  fun raised => other (within _ raised)

/-- No finding has one of the listed codes. -/
def Avoids (findings : List Diagnostic) (codes : List String) : Prop :=
  ∀ key, Raises findings key → key.2.1 ∉ codes

/-- Findings of some codes avoid all others. -/
theorem CodesIn.avoids {findings : List Diagnostic} {codes avoided : List String}
    (within : CodesIn findings codes) (apart : ∀ code ∈ codes, code ∉ avoided) :
    Avoids findings avoided :=
  fun key raised => apart key.2.1 (within key raised)

@[simp] theorem avoids_flatMap {α : Type} {entries : List α} {check : α → List Diagnostic}
    {codes : List String} :
    Avoids (entries.flatMap check) codes ↔ ∀ entry ∈ entries, Avoids (check entry) codes := by
  -- A finding of the whole list is a finding about one entry.
  simp only [Avoids, raises_flatMap]
  constructor
  · intro avoid entry listed key raised
    exact avoid key ⟨entry, listed, raised⟩
  · intro avoid key raised
    obtain ⟨entry, listed, here⟩ := raised
    exact avoid entry listed key here

end Malleus
