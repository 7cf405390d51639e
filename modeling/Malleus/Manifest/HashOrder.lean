import Malleus.Manifest.Acceptance
import Malleus.Manifest.Codes
import Malleus.Manifest.Levels

/-! What the iteration order of the hash collections changes in a report: the shared levels, no more. -/

namespace Malleus

open Machine

/-- The insertion order of the priority levels backwards, another order a run may see. -/
def HashOrder.reversed : HashOrder :=
  { HashOrder.insertion with levels := List.reverse, levels_perm := List.reverse_perm }

/-- Sorted names do not show the order they were handed out in. -/
theorem sortedList_order (first second : HashOrder) (names : List String) :
    sortedList first names = sortedList second names := by
  -- Both are the one sorted list of the same names.
  have sorted : ∀ handed : List String, (handed.insertionSort (· ≤ ·)).Pairwise (· ≤ ·) :=
    fun handed => List.pairwise_insertionSort (· ≤ ·) handed
  have same : ((first.names names).insertionSort (· ≤ ·)).Perm
      ((second.names names).insertionSort (· ≤ ·)) :=
    ((List.perm_insertionSort _ _).trans (first.names_perm names)).trans
      ((List.perm_insertionSort _ _).trans (second.names_perm names)).symm
  rw [sortedList, sortedList, same.eq_of_pairwise' (sorted _) (sorted _)]

/-- The check of the channels does not show the order of the task names. -/
theorem checkChannels_order (first second : HashOrder) (manifest : Manifest)
    (names seen : List String) (channels : List Channel) :
    checkChannels first manifest names seen channels
      = checkChannels second manifest names seen channels := by
  -- The names are sorted before they are shown.
  induction channels generalizing seen with
  | nil => rfl
  | cons channel rest same =>
    simp only [checkChannels, checkChannel, checkEndpoint, sortedList_order first second, same]

/-- The findings about shared levels, in the order a run hands the levels out. -/
def levelFindings (order : HashOrder) (tasks : List Task) : List Diagnostic :=
  (order.levels (byPriority tasks)).flatMap checkLevel

/-- Two runs find the same about shared levels, in some order. -/
theorem levelFindings_perm (first second : HashOrder) (tasks : List Task) :
    (levelFindings first tasks).Perm (levelFindings second tasks) :=
  List.Perm.flatMap_right _ ((first.levels_perm _).trans (second.levels_perm _).symm)

/-- A report is the findings about shared levels between findings that no order enters. -/
theorem Manifest.validate_levels {manifest : Manifest}
    (bounded : ∀ task ∈ manifest.tasks, RoundableStack task) :
    ∃ before after, ∀ order,
      manifest.validate order = .ok ⟨before ++ levelFindings order manifest.tasks ++ after⟩ := by
  obtain ⟨memory, visited⟩ := (visitAll_checkStack_returns manifest.tasks).mpr bounded
  obtain ⟨timing, timed, -⟩ := checkTiming_eq_ok manifest
  refine ⟨checkTaskNames [] manifest.tasks ++ manifest.tasks.flatMap checkPriority,
    timing ++ memory ++ checkChannels .insertion manifest ((manifest.tasks.map Task.name).dedup) []
      manifest.channels ++ checkCapabilities manifest, fun order => ?_⟩
  rw [manifest.validate_eq_ok]
  refine ⟨timing, memory, timed, visited, ?_⟩
  -- The channels are checked as under any other order, so only the levels move.
  rw [checkChannels_order order .insertion]
  simp only [checkPriorities, levelFindings, List.append_assoc]

/-- A run that aborts does so whatever the order. -/
theorem Manifest.validate_aborts {manifest : Manifest}
    (unbounded : ∃ task ∈ manifest.tasks, ¬RoundableStack task) :
    ∃ panic, ∀ order, manifest.validate order = .error panic := by
  obtain ⟨timing, timed, -⟩ := checkTiming_eq_ok manifest
  -- The stacks are visited before any order enters, and the visit does not complete.
  cases visited : visitAll checkStack manifest.tasks with
  | error panic =>
    refine ⟨panic, fun order => ?_⟩
    rw [validate, timed, ok_bind, visited, error_bind]
  | ok memory =>
    obtain ⟨task, listed, stuck⟩ := unbounded
    exact absurd ((visitAll_checkStack_returns manifest.tasks).mp ⟨memory, visited⟩ task listed) stuck

/-- A priority level is shared by two or more tasks with declared deadlines. -/
def SharedLevel (tasks : List Task) (level : UInt8) : Prop :=
  1 < (deadlineNames level tasks).length

/-- The message about a shared level tells which level it is. -/
theorem level_of_message {count others : ℕ} {level another : UInt8}
    (same : s!"{count} tasks with declared deadlines share priority {level}"
      = s!"{others} tasks with declared deadlines share priority {another}") : level = another := by
  -- Behind the digits of the count both texts are the same words and then a level.
  have cut : ∀ (number : ℕ) (rest : List Char),
      ((toString number).toList
          ++ ((toString " tasks with declared deadlines share priority ").toList ++ rest)).dropWhile
        Char.isDigit = (toString " tasks with declared deadlines share priority ").toList ++ rest := by
    intro number rest
    refine (Text.takeWhile_digits (Text.isDigit_repr number) ?_).2
    intro c opens
    cases opens
    rfl
  have texts := congrArg (List.dropWhile Char.isDigit) (congrArg String.toList same)
  simp only [String.toList_append, List.append_assoc, cut] at texts
  have levels : toString level = toString another :=
    String.toList_inj.mp (List.append_cancel_left texts)
  exact UInt8.toNat_inj.mp (Text.repr_inj levels)

/-- The finding about a shared level. -/
theorem mem_checkLevel {level : UInt8} {names : List String} {finding : Diagnostic}
    (found : finding ∈ checkLevel (level, names)) :
    finding.message = s!"{names.length} tasks with declared deadlines share priority {level}" := by
  simp only [checkLevel, reportIf] at found
  -- A level is reported with its message or not at all.
  split at found
  · rw [List.mem_singleton] at found
    rw [found]
    rfl
  · cases found

/-- No finding about shared levels is reported twice. -/
theorem nodup_levelFindings (order : HashOrder) (tasks : List Task) :
    (levelFindings order tasks).Nodup := by
  have distinct : ((order.levels (byPriority tasks)).map Prod.fst).Nodup :=
    (((order.levels_perm _).map Prod.fst).nodup_iff).mpr (byPriority_spec tasks).1
  rw [levelFindings, List.nodup_flatMap]
  constructor
  -- Each level is reported at most once.
  · intro entry _
    simp only [checkLevel, reportIf]
    split <;> simp
  -- Findings about two entries tell their levels, which differ.
  · rw [List.Nodup, List.pairwise_map] at distinct
    refine distinct.imp fun {first second} apart finding found found' => apart ?_
    exact level_of_message ((mem_checkLevel found).symm.trans (mem_checkLevel found'))

/-- Handing the levels out backwards reverses the findings about them. -/
theorem levelFindings_reversed (tasks : List Task) :
    levelFindings .reversed tasks = (levelFindings .insertion tasks).reverse := by
  -- One level has one finding or none, the same in both directions.
  have one : ∀ entry, (checkLevel entry).reverse = checkLevel entry := by
    intro entry
    simp only [checkLevel, reportIf]
    split <;> rfl
  simp only [levelFindings, HashOrder.reversed, HashOrder.insertion, id, List.reverse_flatMap, one,
    Function.comp_def]

/-- A list without repetition that reads the same backwards has at most one entry. -/
theorem eq_of_reverse {α : Type} {entries : List α} (distinct : entries.Nodup)
    (same : entries.reverse = entries) : ∀ first ∈ entries, ∀ second ∈ entries, first = second := by
  have few : entries.length ≤ 1 := by
    by_contra several
    -- The first entry is also the last one.
    have inside : 0 < entries.reverse.length := by simp; omega
    have ends : entries.reverse[0] = entries[0] := by simp only [same]
    rw [List.getElem_reverse, distinct.getElem_inj_iff] at ends
    omega
  intro first listed second listed'
  obtain ⟨index, inside, rfl⟩ := List.getElem_of_mem listed
  obtain ⟨index', inside', rfl⟩ := List.getElem_of_mem listed'
  congr
  omega

/-- A list of at most one entry is the only order of its entries. -/
theorem eq_of_perm {α : Type} {entries others : List α} (reordered : entries.Perm others)
    (distinct : entries.Nodup) (alone : ∀ first ∈ entries, ∀ second ∈ entries, first = second) :
    entries = others := by
  -- A second entry would be a repetition of the first.
  cases entries with
  | nil => exact reordered.nil_eq
  | cons entry rest =>
    have empty : rest = [] := by
      apply List.eq_nil_iff_forall_not_mem.mpr
      intro other listed
      rw [alone other (List.mem_cons_of_mem _ listed) entry List.mem_cons_self] at listed
      exact (List.nodup_cons.mp distinct).1 listed
    rw [empty] at reordered ⊢
    exact reordered.singleton_eq

/-- A finding about shared levels is the one about some level, whatever the order. -/
theorem mem_levelFindings (order : HashOrder) (tasks : List Task) (finding : Diagnostic) :
    finding ∈ levelFindings order tasks
      ↔ ∃ level, SharedLevel tasks level
        ∧ checkLevel (level, deadlineNames level tasks) = [finding] := by
  have held := (byPriority_spec tasks).2
  simp only [levelFindings, List.mem_flatMap, (order.levels_perm _).mem_iff, Prod.exists, held]
  constructor
  · intro found
    obtain ⟨level, names, ⟨-, rfl⟩, here⟩ := found
    by_cases shared : 1 < (deadlineNames level tasks).length
    · simp only [checkLevel, reportIf, if_pos shared, List.mem_singleton] at here
      exact ⟨level, shared, by simp only [checkLevel, reportIf, if_pos shared, here]⟩
    · simp only [checkLevel, reportIf, if_neg shared, List.not_mem_nil] at here
  · intro shared
    obtain ⟨level, several, reported⟩ := shared
    -- A level of several names is one of the map's entries.
    have nonempty : deadlineNames level tasks ≠ [] := by
      intro empty
      simp [SharedLevel, empty] at several
    exact ⟨level, _, ⟨nonempty, rfl⟩, by rw [reported]; exact List.mem_singleton_self _⟩

/-- A shared level is reported, whatever the order. -/
theorem exists_levelFinding {tasks : List Task} {level : UInt8} (shared : SharedLevel tasks level) :
    ∃ finding, checkLevel (level, deadlineNames level tasks) = [finding] :=
  ⟨_, if_pos shared⟩

/-- The order enters the findings about shared levels exactly when there are several of them. -/
theorem levelFindings_order_free_iff (tasks : List Task) :
    (∀ first second, levelFindings first tasks = levelFindings second tasks)
      ↔ ∀ level level', SharedLevel tasks level → SharedLevel tasks level' → level = level' := by
  constructor
  · intro same level level' shared shared'
    obtain ⟨finding, reported⟩ := exists_levelFinding shared
    obtain ⟨finding', reported'⟩ := exists_levelFinding shared'
    -- Findings that read the same backwards are at most one, so both levels share theirs.
    have alone := eq_of_reverse (nodup_levelFindings .insertion tasks)
      (by rw [← levelFindings_reversed, same])
    have listed := (mem_levelFindings .insertion tasks finding).mpr ⟨level, shared, reported⟩
    have listed' := (mem_levelFindings .insertion tasks finding').mpr ⟨level', shared', reported'⟩
    have one : finding = finding' := alone finding listed finding' listed'
    apply level_of_message
    rw [← mem_checkLevel (by rw [reported]; exact List.mem_singleton_self _), one]
    exact mem_checkLevel (by rw [reported']; exact List.mem_singleton_self _)
  -- With one shared level there is one finding at most, and nothing to reorder.
  · intro alone first second
    refine eq_of_perm (levelFindings_perm first second tasks) (nodup_levelFindings first tasks) ?_
    intro finding found finding' found'
    obtain ⟨level, shared, reported⟩ := (mem_levelFindings first tasks finding).mp found
    obtain ⟨level', shared', reported'⟩ := (mem_levelFindings first tasks finding').mp found'
    rw [alone level level' shared shared', reported'] at reported
    exact (List.head_eq_of_cons_eq reported).symm

/--
The report does not depend on hash order exactly when at most one priority level is shared.

A run that aborts reports nothing, in whatever order.
-/
theorem Manifest.order_free_iff (manifest : Manifest) :
    (∀ first second, manifest.validate first = manifest.validate second)
      ↔ (∃ task ∈ manifest.tasks, ¬RoundableStack task)
        ∨ ∀ level level', SharedLevel manifest.tasks level → SharedLevel manifest.tasks level' →
          level = level' := by
  rw [← levelFindings_order_free_iff]
  by_cases bounded : ∀ task ∈ manifest.tasks, RoundableStack task
  · obtain ⟨before, after, parts⟩ := manifest.validate_levels bounded
    have returns : ¬∃ task ∈ manifest.tasks, ¬RoundableStack task := by
      push Not
      exact bounded
    simp only [parts, Except.ok.injEq, ValidationReport.mk.injEq, List.append_cancel_right_eq,
      List.append_cancel_left_eq, returns, false_or]
  -- A stack that cannot be rounded aborts every run alike.
  · push Not at bounded
    obtain ⟨panic, aborted⟩ := manifest.validate_aborts bounded
    exact iff_of_true (fun first second => by rw [aborted, aborted]) (.inl bounded)

/-- Two priority levels, each of two tasks with declared deadlines. -/
def twoSharedLevels : Manifest where
  system := ⟨"1MHz"⟩
  tasks :=
    [⟨"imu", 9, "1KiB", some "1ms", some "1ms", some "1us", []⟩,
      ⟨"motor", 9, "1KiB", some "1ms", some "1ms", some "1us", []⟩,
      ⟨"log", 3, "1KiB", some "1s", some "1s", some "1us", []⟩,
      ⟨"radio", 3, "1KiB", some "1s", some "1s", some "1us", []⟩]
  channels := []

/-- The two shared levels are reported in the order the hash map hands them out. -/
theorem twoSharedLevels_order_shown :
    ¬(∀ first second, twoSharedLevels.validate first = twoSharedLevels.validate second)
      ∧ (twoSharedLevels.validate .insertion).map (fun report => report.diagnostics.map Diagnostic.key)
        = .ok [(.warning, "M0005", "imu, motor"), (.warning, "M0005", "log, radio")]
      ∧ (twoSharedLevels.validate .reversed).map (fun report => report.diagnostics.map Diagnostic.key)
        = .ok [(.warning, "M0005", "log, radio"), (.warning, "M0005", "imu, motor")] := by
  -- Both orders are played out, and the findings come in opposite orders.
  have forwards : (twoSharedLevels.validate .insertion).map
      (fun report => report.diagnostics.map Diagnostic.key)
      = .ok [(.warning, "M0005", "imu, motor"), (.warning, "M0005", "log, radio")] := by
    decide +kernel
  have backwards : (twoSharedLevels.validate .reversed).map
      (fun report => report.diagnostics.map Diagnostic.key)
      = .ok [(.warning, "M0005", "log, radio"), (.warning, "M0005", "imu, motor")] := by
    decide +kernel
  refine ⟨fun same => ?_, forwards, backwards⟩
  rw [same .insertion .reversed, backwards] at forwards
  revert forwards
  decide

end Malleus
