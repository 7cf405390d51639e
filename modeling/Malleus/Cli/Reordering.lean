import Malleus.Cli.Commands
import Malleus.Manifest.Report
import Malleus.Analyzer.Isolation

/-! The order of declarations: a manifest ends the tool the same way however it is written down. -/

namespace Malleus

open Machine

/-- The same declarations, written down in another order. -/
structure Reordered (first second : Manifest) : Prop where
  system : first.system = second.system
  tasks : first.tasks.Perm second.tasks
  channels : first.channels.Perm second.channels

/-- With distinct names, looking a task up finds the one of its name. -/
theorem Manifest.task_eq_some {manifest : Manifest} (distinct : (manifest.tasks.map Task.name).Nodup)
    {name : String} {task : Task} :
    manifest.task name = some task ↔ task ∈ manifest.tasks ∧ task.name = name := by
  constructor
  · intro found
    exact ⟨List.mem_of_find?_eq_some found, by simpa using List.find?_some found⟩
  · rintro ⟨listed, named⟩
    -- The lookup finds the first task of the name, and there is only one.
    cases found : manifest.task name with
    | none => exact absurd named (by simpa using List.find?_eq_none.mp found task listed)
    | some other =>
      have named' : other.name = name := by simpa using List.find?_some found
      rw [List.inj_on_of_nodup_map distinct (List.mem_of_find?_eq_some found) listed
        (named'.trans named.symm)]

/-- A name that occurs twice does so in any order. -/
theorem duplicate_perm {names names' : List String} (perm : names.Perm names') {name : String} :
    List.Duplicate name names ↔ List.Duplicate name names' := by
  rw [List.duplicate_iff_two_le_count, List.duplicate_iff_two_le_count, perm.count_eq]

namespace Reordered

variable {first second : Manifest}

/-- The order can be changed back. -/
theorem symm (reordered : Reordered first second) : Reordered second first :=
  ⟨reordered.system.symm, reordered.tasks.symm, reordered.channels.symm⟩

/-- The stacks are the same ones. -/
theorem roundable_iff (reordered : Reordered first second) : Roundable first ↔ Roundable second := by
  simp only [Roundable, reordered.tasks.mem_iff]

/-- With distinct task names, a channel is at fault for the same reasons in any order. -/
theorem channelFault (reordered : Reordered first second)
    (distinct : (first.tasks.map Task.name).Nodup) {channel : Channel} {key : FindingKey}
    (fault : ChannelFault first channel key) : ChannelFault second channel key := by
  have distinct' := (reordered.tasks.map Task.name).nodup_iff.mp distinct
  -- Looking a task up by its name finds the same task in any order.
  have found : ∀ {name : String} {task : Task}, first.task name = some task →
      second.task name = some task := by
    intro name task held
    rw [Manifest.task_eq_some distinct, reordered.tasks.mem_iff] at held
    exact (Manifest.task_eq_some distinct').mpr held
  -- Each fault is about the channel, about the tasks found, or about all tasks alike.
  cases fault with
  | dangling listed undeclared =>
    exact .dangling listed fun other present => undeclared other (reordered.tasks.mem_iff.mpr present)
  | looped same => exact .looped same
  | roomless empty => exact .roomless empty
  | policyless other => exact .policyless other
  | inverted blocking sends receives inversion =>
    exact .inverted blocking (found sends) (found receives) inversion
  | unclaimed idle =>
    exact .unclaimed fun task present => idle task (reordered.tasks.mem_iff.mpr present)

/-- With distinct channel names, a capability is at fault for the same reasons in any order. -/
theorem grantFault (reordered : Reordered first second)
    (distinct : (first.channels.map Channel.name).Nodup) {task : Task} {key : FindingKey}
    (fault : GrantFault first task key) : GrantFault second task key := by
  have distinct' := (reordered.channels.map Channel.name).nodup_iff.mp distinct
  -- Only the channels enter, and a name leads to the same ends in any order.
  cases fault with
  | repeated twice => exact .repeated twice
  | undeclared held missing =>
    exact .undeclared held fun other present => missing other (reordered.channels.mem_iff.mpr present)
  | foreign held ends neither neither' =>
    rw [Manifest.endpoints_eq_some distinct] at ends
    simp only [reordered.channels.mem_iff] at ends
    exact .foreign held ((Manifest.endpoints_eq_some distinct' _ _).mpr ends) neither neither'

/-- A fault in one order leaves one in any other, if only of a name that occurs twice. -/
theorem exists_fault (reordered : Reordered first second) {key : FindingKey}
    (fault : ManifestFault first key) : ∃ key, ManifestFault second key := by
  have names := reordered.tasks.map Task.name
  have channelNames := reordered.channels.map Channel.name
  cases fault with
  | sameTask twice => exact ⟨_, .sameTask ((duplicate_perm names).mp twice)⟩
  | @sharedLevel level text joins =>
    -- The level's names are joined in another order, so its finding has another text.
    have held : (deadlineNames level first.tasks).Perm (deadlineNames level second.tasks) :=
      (reordered.tasks.filter _).map _
    have joins' : JoinsLevel second.tasks level _ := ⟨joins.1.trans_eq held.length_eq, rfl⟩
    exact ⟨_, .sharedLevel joins'⟩
  | sameChannel twice => exact ⟨_, .sameChannel ((duplicate_perm channelNames).mp twice)⟩
  | rateless unread => exact ⟨_, .rateless (reordered.system ▸ unread)⟩
  | stopped zero => exact ⟨_, .stopped (reordered.system ▸ zero)⟩
  | task listed alone =>
    exact ⟨_, .task (reordered.tasks.mem_iff.mp listed) (reordered.system ▸ alone)⟩
  | channel listed alone =>
    -- Which task a repeated name means depends on the order, but the repetition is a fault in both.
    by_cases distinct : (first.tasks.map Task.name).Nodup
    · exact ⟨_, .channel (reordered.channels.mem_iff.mp listed) (reordered.channelFault distinct alone)⟩
    · obtain ⟨name, twice⟩ := List.exists_duplicate_iff_not_nodup.mpr distinct
      exact ⟨_, .sameTask ((duplicate_perm names).mp twice)⟩
  | grant listed alone =>
    by_cases distinct : (first.channels.map Channel.name).Nodup
    · exact ⟨_, .grant (reordered.tasks.mem_iff.mp listed) (reordered.grantFault distinct alone)⟩
    · obtain ⟨name, twice⟩ := List.exists_duplicate_iff_not_nodup.mpr distinct
      exact ⟨_, .sameChannel ((duplicate_perm channelNames).mp twice)⟩

/-- The validator has nothing to report in one order exactly when it has nothing to report in any. -/
theorem clean_iff (reordered : Reordered first second) (order order' : HashOrder) :
    first.validate order = .ok ⟨[]⟩ ↔ second.validate order' = .ok ⟨[]⟩ := by
  rw [validate_eq_nil_iff, validate_eq_nil_iff, reordered.roundable_iff]
  -- A fault in one order would leave one in the other, where there is none.
  refine and_congr_right fun _ => ⟨fun faultless key fault => ?_, fun faultless key fault => ?_⟩
  · obtain ⟨other, fault'⟩ := reordered.symm.exists_fault fault
    exact faultless other fault'
  · obtain ⟨other, fault'⟩ := reordered.exists_fault fault
    exact faultless other fault'

/-- A manifest is well formed in one order exactly when it is in any. -/
theorem wellFormed (reordered : Reordered first second) (formed : WellFormed first) :
    WellFormed second where
  tick_rate := reordered.system ▸ formed.tick_rate
  task_name_ne_empty := fun task listed =>
    formed.task_name_ne_empty task (reordered.tasks.mem_iff.mpr listed)
  task_names_distinct := (reordered.tasks.map Task.name).nodup_iff.mp formed.task_names_distinct
  priority_range := fun task listed => formed.priority_range task (reordered.tasks.mem_iff.mpr listed)
  timing := fun task listed => formed.timing task (reordered.tasks.mem_iff.mpr listed)
  stack := fun task listed => formed.stack task (reordered.tasks.mem_iff.mpr listed)
  channel_names_distinct :=
    (reordered.channels.map Channel.name).nodup_iff.mp formed.channel_names_distinct
  channel := by
    intro channel listed
    have sound := formed.channel channel (reordered.channels.mem_iff.mpr listed)
    obtain ⟨sender, present, sends⟩ := sound.from_declared
    obtain ⟨receiver, present', receives⟩ := sound.to_declared
    exact ⟨⟨sender, reordered.tasks.mem_iff.mp present, sends⟩,
      ⟨receiver, reordered.tasks.mem_iff.mp present', receives⟩, sound.from_ne_to,
      sound.capacity_pos, sound.overflow_listed⟩
  grant := by
    intro task listed capability held name spelled
    obtain ⟨channel, present, named, ends⟩ :=
      formed.grant task (reordered.tasks.mem_iff.mpr listed) capability held name spelled
    exact ⟨channel, reordered.channels.mem_iff.mp present, named, ends⟩

end Reordered

/-- The text of an unknown decides nothing about passing. -/
@[simp] theorem Verdict.isPass_withoutReason (verdict : Verdict) :
    verdict.withoutReason.isPass = verdict.isPass := by
  cases verdict <;> rfl

section Tool

variable {ε : Type} {fromStr : String → Except ε Manifest} {files : String → Option String}

/-- A path leads to one manifest. -/
theorem Opens.unique {path : String} {manifest manifest' : Manifest}
    (opens : Opens fromStr files path manifest) (opens' : Opens fromStr files path manifest') :
    manifest = manifest' := by
  obtain ⟨source, held, parsed⟩ := opens
  obtain ⟨source', held', parsed'⟩ := opens'
  -- The file holds one text, and the text is read as one manifest.
  obtain rfl := Option.some.inj (held.symm.trans held')
  exact Except.ok.inj (parsed.symm.trans parsed')

/-- Commands that succeed together and abort together end together. -/
theorem outcome_iff {first second : Eval ExitCode}
    (success : first = .ok .success ↔ second = .ok .success)
    (aborts : (∃ panic, first = .error panic) ↔ ∃ panic, second = .error panic) (code : ExitCode) :
    first = .ok code ↔ second = .ok code := by
  cases code with
  | success => exact success
  -- What neither succeeds nor aborts fails.
  | failure =>
    have failed : ∀ outcome : Eval ExitCode, outcome = .ok .failure
        ↔ ¬outcome = .ok .success ∧ ¬∃ panic, outcome = .error panic := by
      rintro (panic | (_ | _)) <;> simp
    rw [failed, failed, success, aborts]

section Commands

variable {order order' : HashOrder} {path path' : String} {manifest manifest' : Manifest}

/-- A check that succeeds does so in any order. -/
theorem check_reordered (opens : Opens fromStr files path manifest)
    (opens' : Opens fromStr files path' manifest') (reordered : Reordered manifest manifest')
    {denyWarnings : Bool} (succeeds : main fromStr order files (.check path denyWarnings) = .ok .success) :
    main fromStr order' files (.check path' denyWarnings) = .ok .success := by
  obtain ⟨_, same, permitted⟩ := main_check_success.mp succeeds
  rw [← opens.unique same] at permitted
  refine main_check_success.mpr ⟨manifest', opens', ?_⟩
  -- What permits the success holds of the manifest in any order.
  cases denyWarnings with
  | true => exact (reordered.clean_iff order order').mp permitted
  | false => exact ⟨reordered.roundable_iff.mp permitted.1, reordered.wellFormed permitted.2⟩

/-- An analysis that succeeds does so in any order. -/
theorem analyze_reordered (opens : Opens fromStr files path manifest)
    (opens' : Opens fromStr files path' manifest') (reordered : Reordered manifest manifest')
    (succeeds : main fromStr order files (.analyze path) = .ok .success) :
    main fromStr order' files (.analyze path') = .ok .success := by
  obtain ⟨_, hz, same, roundable, formed, rate, passes⟩ := main_analyze_success.mp succeeds
  obtain rfl := opens.unique same
  refine main_analyze_success.mpr ⟨manifest', hz, opens', reordered.roundable_iff.mp roundable,
    reordered.wellFormed formed, reordered.system ▸ rate, ?_⟩
  intro task listed
  have passed := passes task (reordered.tasks.mem_iff.mpr listed)
  -- A verdict reads the other tasks in no order.
  rw [← Verdict.isPass_withoutReason, verdictFor_perm (reordered.tasks.map (timingOf hz)),
    Verdict.isPass_withoutReason] at passed
  exact passed

/-- Two files with the same declarations lead to stacks that cannot be rounded, or neither does. -/
theorem aborts_reordered (opens : Opens fromStr files path manifest)
    (opens' : Opens fromStr files path' manifest') (reordered : Reordered manifest manifest') :
    (∃ manifest, Opens fromStr files path manifest ∧ ¬Roundable manifest)
      ↔ ∃ manifest, Opens fromStr files path' manifest ∧ ¬Roundable manifest := by
  -- Each file leads to the one manifest it opens.
  constructor
  · rintro ⟨_, same, unroundable⟩
    rw [← opens.unique same, reordered.roundable_iff] at unroundable
    exact ⟨_, opens', unroundable⟩
  · rintro ⟨_, same, unroundable⟩
    rw [← opens'.unique same, ← reordered.roundable_iff] at unroundable
    exact ⟨_, opens, unroundable⟩

/--
The order of the declarations does not enter how the tool ends.

Two files that declare the same tasks and channels, each in its own order, end the check, strict or
not, and the analysis with the same exit code, and abort both or neither.
-/
theorem main_ignores_declaration_order (opens : Opens fromStr files path manifest)
    (opens' : Opens fromStr files path' manifest') (reordered : Reordered manifest manifest')
    (code : ExitCode) :
    (∀ denyWarnings, main fromStr order files (.check path denyWarnings) = .ok code
        ↔ main fromStr order' files (.check path' denyWarnings) = .ok code)
      ∧ (main fromStr order files (.analyze path) = .ok code
        ↔ main fromStr order' files (.analyze path') = .ok code) := by
  -- An outcome is success, an abort or a failure, and the first two are the same in any order.
  have aborts := aborts_reordered opens opens' reordered
  constructor
  · intro denyWarnings
    refine outcome_iff ⟨check_reordered opens opens' reordered,
      check_reordered opens' opens reordered.symm⟩ ?_ code
    rw [main_check_aborts, main_check_aborts, aborts]
  · refine outcome_iff ⟨analyze_reordered opens opens' reordered,
      analyze_reordered opens' opens reordered.symm⟩ ?_ code
    rw [main_analyze_aborts, main_analyze_aborts, aborts]

end Commands

end Tool

/-- The texts of two task declarations. -/
def declarationTexts : String × String :=
  ("[[task]]\nname = \"pump\"\npriority = 4\nstack = \"2KiB\"\n\n",
    "[[task]]\nname = \"valve\"\npriority = 6\nstack = \"2KiB\"\n\n")

/-- The text of a manifest of the two tasks, the pump or the valve first. -/
def pairText (pumpFirst : Bool) : String :=
  "[system]\nname = \"demo\"\nboard = \"nucleo-f767zi\"\n\n"
    ++ if pumpFirst then declarationTexts.1 ++ declarationTexts.2
      else declarationTexts.2 ++ declarationTexts.1

/-- The manifest such a text describes, with the default tick rate. -/
def declaredPair (pumpFirst : Bool) : Manifest :=
  ⟨⟨"1MHz"⟩, if pumpFirst
    then [⟨"pump", 4, "2KiB", none, none, none, []⟩, ⟨"valve", 6, "2KiB", none, none, none, []⟩]
    else [⟨"valve", 6, "2KiB", none, none, none, []⟩, ⟨"pump", 4, "2KiB", none, none, none, []⟩], []⟩

/-- A reader that knows the two texts. -/
def pairReader (source : String) : Except String Manifest :=
  if source = pairText true then .ok (declaredPair true)
  else if source = pairText false then .ok (declaredPair false)
  else .error "malformed"

/-- A directory with both files. -/
def pairFiles (path : String) : Option String :=
  if path = "pump.toml" then some (pairText true)
  else if path = "valve.toml" then some (pairText false)
  else none

/-- The check accepts the pair with the pump first exactly where it does with the valve first. -/
theorem pump_or_valve_first :
    (∀ denyWarnings, main pairReader .insertion pairFiles (.check "pump.toml" denyWarnings)
          = .ok .success
        ↔ main pairReader .insertion pairFiles (.check "valve.toml" denyWarnings) = .ok .success)
      ∧ (main pairReader .insertion pairFiles (.analyze "pump.toml") = .ok .success
        ↔ main pairReader .insertion pairFiles (.analyze "valve.toml") = .ok .success) := by
  -- The two texts differ, and each is read as its own manifest.
  have apart : pairText false ≠ pairText true := by decide
  have opens : Opens pairReader pairFiles "pump.toml" (declaredPair true) :=
    ⟨pairText true, rfl, if_pos rfl⟩
  have opens' : Opens pairReader pairFiles "valve.toml" (declaredPair false) :=
    ⟨pairText false, rfl, (if_neg apart).trans (if_pos rfl)⟩
  exact main_ignores_declaration_order opens opens' ⟨rfl, .swap _ _ _, .refl _⟩ .success

end Malleus
