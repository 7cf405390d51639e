import Malleus.Cli.Contract
import Malleus.Manifest.Report

/-! The tool's commands: what each reads, how it ends, and when it aborts. -/

namespace Malleus

open Machine

/-- How the tool ends. -/
inductive ExitCode where
  | success
  | failure
  deriving DecidableEq, Repr

/-- Failure to read a manifest; the text's own errors are the reader's. -/
inductive ManifestError (ε : Type) where
  | malformed (error : ε)
  | invalid (errors : Nat)
  deriving DecidableEq, Repr

/-- Why a command ends without an exit code of its own. -/
inductive ToolError (ε : Type) where
  | unreadable (path : String)
  | manifest (error : ManifestError ε)
  | analyze (error : AnalyzeError)
  deriving DecidableEq, Repr

/-- What the tool is asked to do. -/
inductive Command where
  | check (manifest : String) (denyWarnings : Bool)
  | analyze (manifest : String)
  | new (name : String)
  | build
  | flash
  | test
  | inspect
  | trace
  | dump
  | expand
  deriving DecidableEq, Repr

/-- The checkpoint that delivers a command that is not there yet, and where it is described. -/
def Command.checkpoint : Command → Option (String × String)
  | check _ _ | analyze _ => none
  | new _ | build | flash | test => some ("2", "docs/ROADMAP.md#checkpoint-2--make-it-usable")
  | dump | expand => some ("3", "docs/ROADMAP.md#checkpoint-3--build-the-differentiator")
  | inspect | trace => some ("4", "docs/ROADMAP.md#checkpoint-4--production-platform")

/-- The number of findings the build proceeds past. -/
def ValidationReport.warningCount (report : ValidationReport) : Nat :=
  (report.diagnostics.filter fun finding => finding.severity = .warning).length

section Tool

variable {ε : Type} (fromStr : String → Except ε Manifest) (order : HashOrder)

/-- Parse a manifest from its text, without validating it. -/
def Manifest.parse (source : String) : Except (ManifestError ε) Manifest :=
  (fromStr source).mapError .malformed

/-- Parse and validate, with the report beside the manifest on success. -/
def Manifest.parseAndValidate (source : String) :
    Eval (Except (ManifestError ε) (Manifest × ValidationReport)) :=
  match Manifest.parse fromStr source with
  | .error error => return .error error
  | .ok manifest => do
    let report ← manifest.validate order
    if report.errorCount > 0 then return .error (.invalid report.errorCount)
    else return .ok (manifest, report)

/-- Validate a manifest and end with what was found. -/
def Check.run (source : String) (denyWarnings : Bool) : Eval (Except (ManifestError ε) ExitCode) :=
  match Manifest.parse fromStr source with
  | .error error => return .error error
  | .ok manifest => do
    let report ← manifest.validate order
    if report.errorCount > 0 then return .ok .failure
    else if report.warningCount > 0 then
      if denyWarnings then return .ok .failure else return .ok .success
    else return .ok .success

/-- How the command ends with an analysis. -/
def Analyze.exitCode (analysis : Analysis) : ExitCode :=
  if analysis.hasUnknowns then .failure
  else if analysis.isSchedulable then .success
  else .failure

/-- Analyse the manifest of a text and end with its verdict. -/
def Analyze.command (source : String) : Eval (Except (ToolError ε) ExitCode) :=
  match Manifest.parse fromStr source with
  | .error error => return .error (.manifest error)
  | .ok manifest => do
    match ← Analyze.run manifest order with
    | .error error => return .error (.analyze error)
    | .ok analysis => return .ok (Analyze.exitCode analysis)

variable (files : String → Option String)

/-- The text of a file. -/
def read (path : String) : Except (ToolError ε) String :=
  match files path with
  | none => .error (.unreadable path)
  | some source => .ok source

/-- Carry out a command. -/
def Command.run (command : Command) : Eval (Except (ToolError ε) ExitCode) :=
  if command.checkpoint.isSome then return .ok .failure
  else
    match command with
    | check manifest denyWarnings =>
      match read files manifest with
      | .error error => return .error error
      | .ok source => do
        let outcome ← Check.run fromStr order source denyWarnings
        return outcome.mapError .manifest
    | analyze manifest =>
      match read files manifest with
      | .error error => return .error error
      | .ok source => Analyze.command fromStr order source
    -- Every other command reports its checkpoint above.
    | _ => .error .assertion

/-- The exit code of the tool: an error of a command is a failure. -/
def main (command : Command) : Eval ExitCode := do
  match ← command.run fromStr order files with
  | .ok code => return code
  | .error _ => return .failure

end Tool

section Outcomes

variable {ε : Type} {fromStr : String → Except ε Manifest} {order : HashOrder}
  {files : String → Option String}

/-- A path leads to a manifest: the file can be read, and its text is one. -/
def Opens (fromStr : String → Except ε Manifest) (files : String → Option String) (path : String)
    (manifest : Manifest) : Prop :=
  ∃ source, files path = some source ∧ fromStr source = .ok manifest

/-- The file a command reads its manifest from, if it reads one. -/
def Command.manifestPath : Command → Option String
  | check manifest _ | analyze manifest => some manifest
  | _ => none

/-- Every stack that is a size can be rounded up to a power of two. -/
def Roundable (manifest : Manifest) : Prop := ∀ task ∈ manifest.tasks, RoundableStack task

/-- The commands that succeed, and on what. -/
inductive Succeeds (fromStr : String → Except ε Manifest) (files : String → Option String) :
    Command → Prop
  | check {path : String} {manifest : Manifest} (opens : Opens fromStr files path manifest)
    (roundable : Roundable manifest) (formed : WellFormed manifest) :
    Succeeds fromStr files (.check path false)
  | strict {path : String} {manifest : Manifest} (opens : Opens fromStr files path manifest)
    (roundable : Roundable manifest) (faultless : ∀ key, ¬ManifestFault manifest key) :
    Succeeds fromStr files (.check path true)
  | analyze {path : String} {manifest : Manifest} {hz : UInt64}
    (opens : Opens fromStr files path manifest) (roundable : Roundable manifest)
    (formed : WellFormed manifest) (rate : parseTickHz manifest.system.tickRate = some hz)
    (passes : ∀ task ∈ manifest.tasks,
      (verdictFor (timingOf hz task) (manifest.tasks.map (timingOf hz))).isPass = true) :
    Succeeds fromStr files (.analyze path)

/-- A report has no errors and no warnings exactly when it has no findings. -/
theorem ValidationReport.diagnostics_eq_nil_iff (report : ValidationReport) :
    report.diagnostics = [] ↔ report.errorCount = 0 ∧ report.warningCount = 0 := by
  rw [errorCount, warningCount, List.length_eq_zero_iff, List.length_eq_zero_iff,
    List.filter_eq_nil_iff, List.filter_eq_nil_iff, List.eq_nil_iff_forall_not_mem]
  constructor
  · intro empty
    exact ⟨fun finding member => absurd member (empty finding),
      fun finding member => absurd member (empty finding)⟩
  · intro none_ finding member
    -- A finding has one of the two severities.
    have notError := none_.1 finding member
    have notWarning := none_.2 finding member
    cases severity : finding.severity with
    | warning => simp [severity] at notWarning
    | error => simp [severity] at notError

/-- A validation that completes without errors is of a well-formed manifest that can be rounded. -/
theorem validate_clean_iff (manifest : Manifest) (order : HashOrder) :
    (∃ report, manifest.validate order = .ok report ∧ report.errorCount = 0)
      ↔ Roundable manifest ∧ WellFormed manifest := by
  constructor
  -- A completed report has rounded every stack, and no errors make it an accepted one.
  · intro clean
    obtain ⟨report, completed, none_⟩ := clean
    have accepted : report.isOk = true := by simpa [ValidationReport.isOk] using none_
    exact ⟨Manifest.roundable_of_validate completed, (isOk_iff_wellFormed completed).mp accepted⟩
  · intro both
    obtain ⟨roundable, formed⟩ := both
    -- Stacks that round let the validation complete, and a well-formed manifest has no errors.
    obtain ⟨report, completed⟩ := Manifest.validate_returns order roundable
    have accepted := (isOk_iff_wellFormed completed).mpr formed
    exact ⟨report, completed, by simpa [ValidationReport.isOk] using accepted⟩

/-- A validation finds nothing exactly in a faultless manifest that can be rounded. -/
theorem validate_eq_nil_iff (manifest : Manifest) (order : HashOrder) :
    manifest.validate order = .ok ⟨[]⟩
      ↔ Roundable manifest ∧ ∀ key, ¬ManifestFault manifest key := by
  constructor
  · intro clean
    exact ⟨Manifest.roundable_of_validate clean, (diagnostics_eq_nil_iff_faultless clean).mp rfl⟩
  · intro both
    obtain ⟨roundable, faultless⟩ := both
    -- What completes on a faultless manifest has nothing to report.
    obtain ⟨⟨diagnostics⟩, completed⟩ := Manifest.validate_returns order roundable
    have empty : diagnostics = [] := (diagnostics_eq_nil_iff_faultless completed).mpr faultless
    rw [completed, empty]

/-- The analyse command ends in success exactly when every verdict passes. -/
theorem Analyze.exitCode_eq_success (analysis : Analysis) :
    Analyze.exitCode analysis = .success ↔ ∀ entry ∈ analysis.verdicts, entry.2.isPass = true := by
  have known : analysis.isSchedulable = true → analysis.hasUnknowns = false := by
    intro schedulable
    rw [Analysis.hasUnknowns, List.any_eq_false]
    intro entry listed
    have passed := List.all_eq_true.mp schedulable entry listed
    -- A pass is not an unknown.
    cases verdict : entry.2 with
    | pass _ _ => simp
    | fail _ _ => simp
    | unknown _ => simp [verdict, Verdict.isPass] at passed
  rw [Analyze.exitCode, ← List.all_eq_true (p := fun entry : String × Verdict => entry.2.isPass)]
  change _ ↔ analysis.isSchedulable = true
  cases schedulable : analysis.isSchedulable with
  | true => simp [known schedulable]
  | false => simp

/-- A text that is no manifest ends every command in an error. -/
theorem Manifest.parse_eq_ok {source : String} {manifest : Manifest} :
    Manifest.parse fromStr source = .ok manifest ↔ fromStr source = .ok manifest := by
  rw [Manifest.parse]
  cases fromStr source <;> simp [Except.mapError]

/-- The check command succeeds on a report without errors, and strictly only on one without findings. -/
theorem Check.run_eq_success {source : String} {denyWarnings : Bool} :
    Check.run fromStr order source denyWarnings = .ok (.ok .success)
      ↔ ∃ manifest report, fromStr source = .ok manifest ∧ manifest.validate order = .ok report
        ∧ report.errorCount = 0 ∧ (denyWarnings = true → report.warningCount = 0) := by
  rw [Check.run]
  cases parsed : Manifest.parse fromStr source with
  | error error =>
    -- Without a manifest there is no report.
    have none_ : ∀ manifest, fromStr source ≠ .ok manifest := by
      intro manifest given
      rw [Manifest.parse_eq_ok.mpr given] at parsed
      cases parsed
    simp [none_]
  | ok manifest =>
    rw [Manifest.parse_eq_ok.mp parsed]
    cases completed : manifest.validate order with
    | error panic => simp [completed]
    | ok report =>
      -- The text has one manifest, and the manifest one report in this order.
      have only : (∃ manifest' report', (.ok manifest : Except ε Manifest) = .ok manifest'
          ∧ manifest'.validate order = .ok report' ∧ report'.errorCount = 0
          ∧ (denyWarnings = true → report'.warningCount = 0))
          ↔ report.errorCount = 0 ∧ (denyWarnings = true → report.warningCount = 0) := by
        constructor
        · rintro ⟨manifest', report', same, completed', counts⟩
          cases same
          rw [completed, Except.ok.injEq] at completed'
          rw [completed']
          exact counts
        · intro counts
          exact ⟨manifest, report, rfl, completed, counts⟩
      rw [only]
      simp only [completed, Machine.ok_bind, gt_iff_lt]
      -- The three outcomes follow the two counts.
      by_cases errors : 0 < report.errorCount
      · simp [errors, errors.ne']
      · have none_ : report.errorCount = 0 := by omega
        by_cases warnings : 0 < report.warningCount
        · cases denyWarnings <;> simp [none_, warnings, warnings.ne']
        · have clean : report.warningCount = 0 := by omega
          simp [none_, clean]

/-- The analyse command succeeds exactly on an analysis in which every verdict passes. -/
theorem Analyze.command_eq_success {source : String} :
    Analyze.command fromStr order source = .ok (.ok .success)
      ↔ ∃ manifest analysis, fromStr source = .ok manifest
        ∧ Analyze.run manifest order = .ok (.ok analysis)
        ∧ ∀ entry ∈ analysis.verdicts, entry.2.isPass = true := by
  rw [Analyze.command]
  -- The command stops at a text that does not parse, an abort or an error of the run.
  cases parsed : Manifest.parse fromStr source with
  | error error =>
    have none_ : ∀ manifest, fromStr source ≠ .ok manifest := by
      intro manifest given
      rw [Manifest.parse_eq_ok.mpr given] at parsed
      cases parsed
    simp [none_]
  | ok manifest =>
    rw [Manifest.parse_eq_ok.mp parsed]
    cases ran : Analyze.run manifest order with
    | error panic => simp [ran]
    | ok outcome =>
      cases outcome with
      | error error => simp [ran]
      | ok analysis => simp [ran, Analyze.exitCode_eq_success]

/-- Checking a file is checking its text. -/
theorem main_check_eq_success {path : String} {denyWarnings : Bool} :
    main fromStr order files (.check path denyWarnings) = .ok .success
      ↔ ∃ source, files path = some source
        ∧ Check.run fromStr order source denyWarnings = .ok (.ok .success) := by
  simp only [main, Command.run, Command.checkpoint, Option.isSome_none, Bool.false_eq_true, if_false,
    read]
  -- A file that cannot be read is an error, and an error of the check stays one.
  cases files path with
  | none => simp
  | some source =>
    cases ran : Check.run fromStr order source denyWarnings with
    | error panic => simp [ran]
    | ok outcome => cases outcome <;> simp [ran, Except.mapError]

/-- Analysing a file is analysing its text. -/
theorem main_analyze_eq_success {path : String} :
    main fromStr order files (.analyze path) = .ok .success
      ↔ ∃ source, files path = some source
        ∧ Analyze.command fromStr order source = .ok (.ok .success) := by
  simp only [main, Command.run, Command.checkpoint, Option.isSome_none, Bool.false_eq_true, if_false,
    read]
  -- A file that cannot be read is an error, and an error of the command stays one.
  cases files path with
  | none => simp
  | some source =>
    cases ran : Analyze.command fromStr order source with
    | error panic => simp [ran]
    | ok outcome => cases outcome <;> simp [ran]

/-- Checking a file succeeds exactly where it leads to a manifest whose report permits it. -/
theorem main_check_success {path : String} {denyWarnings : Bool} :
    main fromStr order files (.check path denyWarnings) = .ok .success
      ↔ ∃ manifest, Opens fromStr files path manifest
        ∧ if denyWarnings then manifest.validate order = .ok ⟨[]⟩
          else Roundable manifest ∧ WellFormed manifest := by
  have permitted : ∀ manifest : Manifest, (∃ report, manifest.validate order = .ok report
      ∧ report.errorCount = 0 ∧ (denyWarnings = true → report.warningCount = 0))
      ↔ if denyWarnings then manifest.validate order = .ok ⟨[]⟩
        else Roundable manifest ∧ WellFormed manifest := by
    intro manifest
    cases denyWarnings with
    | false => simpa using validate_clean_iff manifest order
    -- Without errors and without warnings there is no finding.
    | true =>
      simp only [true_imp_iff, if_true, ← ValidationReport.diagnostics_eq_nil_iff]
      constructor
      · rintro ⟨⟨_⟩, completed, rfl⟩
        exact completed
      · intro clean
        exact ⟨_, clean, rfl⟩
  simp only [← permitted, main_check_eq_success, Check.run_eq_success, Opens]
  constructor
  · rintro ⟨source, held, manifest, report, parsed, outcome⟩
    exact ⟨manifest, ⟨source, held, parsed⟩, report, outcome⟩
  · rintro ⟨manifest, ⟨source, held, parsed⟩, report, outcome⟩
    exact ⟨source, held, manifest, report, parsed, outcome⟩

/-- Analysing a file succeeds exactly where it leads to a manifest in which every verdict passes. -/
theorem main_analyze_success {path : String} :
    main fromStr order files (.analyze path) = .ok .success
      ↔ ∃ manifest hz, Opens fromStr files path manifest ∧ Roundable manifest ∧ WellFormed manifest
        ∧ parseTickHz manifest.system.tickRate = some hz
        ∧ ∀ task ∈ manifest.tasks,
          (verdictFor (timingOf hz task) (manifest.tasks.map (timingOf hz))).isPass = true := by
  rw [main_analyze_eq_success]
  constructor
  · intro ended
    obtain ⟨source, held, ran⟩ := ended
    obtain ⟨manifest, analysis, parsed, analyzed, passes⟩ := Analyze.command_eq_success.mp ran
    obtain ⟨report, completed, accepted⟩ := accepted_of_analyze_run analyzed
    have formed := (isOk_iff_wellFormed completed).mp accepted
    obtain ⟨hz, rate, -⟩ := formed.exists_tickHz
    -- The analysis is that of the declared tasks, so each of them has an entry in it.
    rw [analyze_run completed accepted rate, Except.ok.injEq, Except.ok.injEq] at analyzed
    refine ⟨manifest, hz, ⟨source, held, parsed⟩, Manifest.roundable_of_validate completed, formed,
      rate, ?_⟩
    intro task listed
    have entry : ((timingOf hz task).name,
        verdictFor (timingOf hz task) (manifest.tasks.map (timingOf hz))) ∈ analysis.verdicts := by
      rw [← analyzed]
      exact List.mem_map_of_mem (List.mem_map_of_mem listed)
    exact passes _ entry
  · intro succeeds
    obtain ⟨manifest, hz, ⟨source, held, parsed⟩, roundable, formed, rate, passes⟩ := succeeds
    obtain ⟨report, completed⟩ := Manifest.validate_returns order roundable
    have accepted := (isOk_iff_wellFormed completed).mpr formed
    refine ⟨source, held, Analyze.command_eq_success.mpr
      ⟨manifest, _, parsed, analyze_run completed accepted rate, ?_⟩⟩
    -- Every entry is the verdict of a declared task.
    intro entry member
    obtain ⟨timing, listed, rfl⟩ := List.mem_map.mp member
    obtain ⟨task, declared, rfl⟩ := List.mem_map.mp listed
    exact passes task declared

/-- The tool succeeds exactly on the commands that do, and on what they do. -/
theorem main_success_iff (fromStr : String → Except ε Manifest) (order : HashOrder)
    (files : String → Option String) (command : Command) :
    main fromStr order files command = .ok .success ↔ Succeeds fromStr files command := by
  cases command with
  | check path denyWarnings =>
    rw [main_check_success]
    constructor
    · rintro ⟨manifest, opens, permitted⟩
      cases denyWarnings with
      | false => exact .check opens permitted.1 permitted.2
      | true =>
        -- An empty report leaves no fault, whichever order the collections were visited in.
        obtain ⟨roundable, faultless⟩ := (validate_eq_nil_iff manifest order).mp permitted
        exact .strict opens roundable faultless
    · intro succeeds
      cases succeeds with
      | check opens roundable formed => exact ⟨_, opens, roundable, formed⟩
      | strict opens roundable faultless =>
        exact ⟨_, opens, (validate_eq_nil_iff _ order).mpr ⟨roundable, faultless⟩⟩
  | analyze path =>
    rw [main_analyze_success]
    constructor
    · rintro ⟨manifest, hz, opens, roundable, formed, rate, passes⟩
      exact .analyze opens roundable formed rate passes
    · intro succeeds
      cases succeeds with
      | analyze opens roundable formed rate passes =>
        exact ⟨_, _, opens, roundable, formed, rate, passes⟩
  -- Every other command reports its checkpoint and fails.
  | _ =>
    constructor
    · intro ended
      simp [main, Command.run, Command.checkpoint] at ended
    · intro succeeds
      cases succeeds

/-- Parsing and validating succeeds on the manifests that are well formed and can be rounded. -/
theorem Manifest.parseAndValidate_eq_ok {source : String} {manifest : Manifest}
    (parsed : fromStr source = .ok manifest) :
    (∃ result, Manifest.parseAndValidate fromStr order source = .ok (.ok result))
      ↔ Roundable manifest ∧ WellFormed manifest := by
  rw [← validate_clean_iff manifest order, parseAndValidate, Manifest.parse_eq_ok.mpr parsed]
  cases completed : manifest.validate order with
  | error panic => simp [completed]
  | ok report =>
    simp only [completed, Machine.ok_bind, gt_iff_lt, Except.ok.injEq, exists_eq_left']
    -- The manifest is returned unless the report counts an error.
    by_cases errors : 0 < report.errorCount
    · simp [errors, errors.ne']
    · have none_ : report.errorCount = 0 := by omega
      simp [none_]

/-- The analyse command has an analysis of exactly these manifests. -/
theorem Analyze.run_eq_ok (manifest : Manifest) (order : HashOrder) :
    (∃ analysis, Analyze.run manifest order = .ok (.ok analysis))
      ↔ Roundable manifest ∧ WellFormed manifest := by
  constructor
  -- An analysis comes behind an accepted report.
  · intro ran
    obtain ⟨analysis, analyzed⟩ := ran
    obtain ⟨report, completed, accepted⟩ := accepted_of_analyze_run analyzed
    exact ⟨Manifest.roundable_of_validate completed, (isOk_iff_wellFormed completed).mp accepted⟩
  · intro both
    obtain ⟨roundable, formed⟩ := both
    obtain ⟨report, completed⟩ := Manifest.validate_returns order roundable
    -- A well-formed manifest has a tick rate, and the rest of the command cannot fail.
    obtain ⟨hz, rate, -⟩ := formed.exists_tickHz
    exact ⟨_, analyze_run completed ((isOk_iff_wellFormed completed).mpr formed) rate⟩

/-- The analyse command aborts only where the validator does. -/
theorem Analyze.run_aborts_iff (manifest : Manifest) (order : HashOrder) :
    (∃ panic, Analyze.run manifest order = .error panic) ↔ ¬Roundable manifest := by
  constructor
  · intro ran roundable
    obtain ⟨panic, aborted⟩ := ran
    obtain ⟨report, completed⟩ := Manifest.validate_returns order roundable
    by_cases accepted : report.isOk = true
    · obtain ⟨hz, rate, -⟩ := ((isOk_iff_wellFormed completed).mp accepted).exists_tickHz
      rw [analyze_run completed accepted rate] at aborted
      cases aborted
    -- A rejected manifest ends the command with an error, not with an abort.
    · have errors : report.errorCount > 0 := by
        have some_ : report.errorCount ≠ 0 := by simpa [ValidationReport.isOk] using accepted
        omega
      rw [Analyze.run, completed, Machine.ok_bind, if_pos errors] at aborted
      cases aborted
  · intro unroundable
    cases completed : manifest.validate order with
    | error panic => exact ⟨panic, by rw [Analyze.run, completed, Machine.error_bind]⟩
    | ok report => exact absurd (Manifest.roundable_of_validate completed) unroundable

/--
The three ways into the tool accept the same manifests.

Parsing with validation, checking, and analysing agree on every text, whatever the verdicts.
-/
theorem entry_points_agree (fromStr : String → Except ε Manifest) (order : HashOrder)
    {source : String} {manifest : Manifest} (parsed : fromStr source = .ok manifest) :
    List.TFAE [
      ∃ result, Manifest.parseAndValidate fromStr order source = .ok (.ok result),
      Check.run fromStr order source false = .ok (.ok .success),
      ∃ analysis, Analyze.run manifest order = .ok (.ok analysis),
      Roundable manifest ∧ WellFormed manifest] := by
  -- Each entry point is compared with the condition, not with the other two.
  tfae_have 1 ↔ 4 := Manifest.parseAndValidate_eq_ok parsed
  tfae_have 3 ↔ 4 := Analyze.run_eq_ok manifest order
  tfae_have 2 ↔ 4 := by
    rw [Check.run_eq_success, ← validate_clean_iff manifest order]
    constructor
    -- The text parses to one manifest, so the report is about that one.
    · intro ran
      obtain ⟨manifest', report, parsed', completed, errors, -⟩ := ran
      rw [parsed, Except.ok.injEq] at parsed'
      exact ⟨report, parsed' ▸ completed, errors⟩
    · intro clean
      obtain ⟨report, completed, errors⟩ := clean
      exact ⟨manifest, report, parsed, completed, errors, fun strict => absurd strict (by decide)⟩
  tfae_finish

/-- The text of a manifest with one task. -/
def minimalText : String :=
  "[system]\nname = \"demo\"\nboard = \"nucleo-f767zi\"\n\n" ++
    "[[task]]\nname = \"control\"\npriority = 7\nstack = \"2KiB\"\n"

/-- The manifest it describes, with the default tick rate. -/
def minimalManifest : Manifest := ⟨⟨"1MHz"⟩, [⟨"control", 7, "2KiB", none, none, none, []⟩], []⟩

/-- A reader that knows this one text. -/
def minimalReader (source : String) : Except String Manifest :=
  if source = minimalText then .ok minimalManifest else .error "malformed"

/-- The text is accepted by all three ways into the tool or by none. -/
theorem minimalText_agrees : List.TFAE [
    ∃ result, Manifest.parseAndValidate minimalReader .insertion minimalText = .ok (.ok result),
    Check.run minimalReader .insertion minimalText false = .ok (.ok .success),
    ∃ analysis, Analyze.run minimalManifest .insertion = .ok (.ok analysis),
    Roundable minimalManifest ∧ WellFormed minimalManifest] :=
  entry_points_agree minimalReader .insertion (if_pos rfl)

/-- The validator aborts exactly where a stack cannot be rounded. -/
theorem validate_aborts_iff (manifest : Manifest) (order : HashOrder) :
    (∃ panic, manifest.validate order = .error panic) ↔ ¬Roundable manifest := by
  constructor
  -- A validation either returns a report or aborts, and a report needs every stack to round.
  · intro aborted roundable
    obtain ⟨panic, aborted⟩ := aborted
    obtain ⟨report, completed⟩ := Manifest.validate_returns order roundable
    rw [completed] at aborted
    cases aborted
  · intro unroundable
    cases completed : manifest.validate order with
    | error panic => exact ⟨panic, rfl⟩
    | ok report => exact absurd (Manifest.roundable_of_validate completed) unroundable

/-- Checking a text aborts exactly where validating its manifest does. -/
theorem Check.run_aborts_iff {source : String} {denyWarnings : Bool} :
    (∃ panic, Check.run fromStr order source denyWarnings = .error panic)
      ↔ ∃ manifest, fromStr source = .ok manifest ∧ ¬Roundable manifest := by
  -- A text that does not parse ends before the validation.
  cases parsed : fromStr source with
  | error error => simp [Check.run, Manifest.parse, parsed, Except.mapError]
  | ok manifest =>
    simp only [Except.ok.injEq, exists_eq_left']
    rw [← validate_aborts_iff manifest order, Check.run, Manifest.parse_eq_ok.mpr parsed]
    cases completed : manifest.validate order with
    | error panic => simp [completed]
    | ok report =>
      simp only [completed, Machine.ok_bind]
      -- No exit behind the validation aborts.
      split
      · simp
      · split
        · split <;> simp
        · simp

/-- Analysing a text aborts exactly where validating its manifest does. -/
theorem Analyze.command_aborts_iff {source : String} :
    (∃ panic, Analyze.command fromStr order source = .error panic)
      ↔ ∃ manifest, fromStr source = .ok manifest ∧ ¬Roundable manifest := by
  -- A text that does not parse ends before the analysis.
  cases parsed : fromStr source with
  | error error => simp [Analyze.command, Manifest.parse, parsed, Except.mapError]
  | ok manifest =>
    simp only [Except.ok.injEq, exists_eq_left']
    rw [← Analyze.run_aborts_iff manifest order, Analyze.command, Manifest.parse_eq_ok.mpr parsed]
    cases ran : Analyze.run manifest order with
    | error panic => simp [ran]
    | ok outcome => cases outcome <;> simp [ran]

/-- Checking a file aborts exactly where the manifest it leads to has a stack that cannot be rounded. -/
theorem main_check_aborts {path : String} {denyWarnings : Bool} :
    (∃ panic, main fromStr order files (.check path denyWarnings) = .error panic)
      ↔ ∃ manifest, Opens fromStr files path manifest ∧ ¬Roundable manifest := by
  -- Reading the file and printing the outcome do not abort.
  have same : (∃ panic, main fromStr order files (.check path denyWarnings) = .error panic)
      ↔ ∃ source, files path = some source
        ∧ ∃ panic, Check.run fromStr order source denyWarnings = .error panic := by
    simp only [main, Command.run, Command.checkpoint, Option.isSome_none, Bool.false_eq_true,
      if_false, read]
    cases files path with
    | none => simp
    | some source =>
      cases ran : Check.run fromStr order source denyWarnings with
      | error panic => simp [ran]
      | ok outcome => cases outcome <;> simp [ran, Except.mapError]
  rw [same]
  simp only [Check.run_aborts_iff, Opens]
  -- The text in between is the one the file holds.
  constructor
  · rintro ⟨source, held, manifest, parsed, unroundable⟩
    exact ⟨manifest, ⟨source, held, parsed⟩, unroundable⟩
  · rintro ⟨manifest, ⟨source, held, parsed⟩, unroundable⟩
    exact ⟨source, held, manifest, parsed, unroundable⟩

/-- Analysing a file aborts exactly where checking it does. -/
theorem main_analyze_aborts {path : String} :
    (∃ panic, main fromStr order files (.analyze path) = .error panic)
      ↔ ∃ manifest, Opens fromStr files path manifest ∧ ¬Roundable manifest := by
  -- Reading the file and printing the outcome do not abort.
  have same : (∃ panic, main fromStr order files (.analyze path) = .error panic)
      ↔ ∃ source, files path = some source
        ∧ ∃ panic, Analyze.command fromStr order source = .error panic := by
    simp only [main, Command.run, Command.checkpoint, Option.isSome_none, Bool.false_eq_true,
      if_false, read]
    cases files path with
    | none => simp
    | some source =>
      cases ran : Analyze.command fromStr order source with
      | error panic => simp [ran]
      | ok outcome => cases outcome <;> simp [ran]
  rw [same]
  simp only [Analyze.command_aborts_iff, Opens]
  -- The text in between is the one the file holds.
  constructor
  · rintro ⟨source, held, manifest, parsed, unroundable⟩
    exact ⟨manifest, ⟨source, held, parsed⟩, unroundable⟩
  · rintro ⟨manifest, ⟨source, held, parsed⟩, unroundable⟩
    exact ⟨source, held, manifest, parsed, unroundable⟩

/--
The tool aborts exactly when a command reads a manifest with a stack that cannot be rounded.

A file that cannot be read, a text that is no manifest, and a command still to come end without one.
-/
theorem main_aborts_iff (fromStr : String → Except ε Manifest) (order : HashOrder)
    (files : String → Option String) (command : Command) :
    (∃ panic, main fromStr order files command = .error panic)
      ↔ ∃ path manifest, command.manifestPath = some path
        ∧ Opens fromStr files path manifest ∧ ¬Roundable manifest := by
  -- Only two commands read a manifest; every other one ends before it reads anything.
  cases command with
  | check path denyWarnings =>
    rw [main_check_aborts]
    constructor
    · rintro ⟨manifest, opens, unroundable⟩
      exact ⟨path, manifest, rfl, opens, unroundable⟩
    · rintro ⟨_, manifest, asked, opens, unroundable⟩
      cases asked
      exact ⟨manifest, opens, unroundable⟩
  | analyze path =>
    rw [main_analyze_aborts]
    constructor
    · rintro ⟨manifest, opens, unroundable⟩
      exact ⟨path, manifest, rfl, opens, unroundable⟩
    · rintro ⟨_, manifest, asked, opens, unroundable⟩
      cases asked
      exact ⟨manifest, opens, unroundable⟩
  | _ =>
    constructor
    · rintro ⟨panic, ended⟩
      simp [main, Command.run, Command.checkpoint] at ended
    · rintro ⟨_, _, asked, -⟩
      cases asked

end Outcomes

end Malleus
