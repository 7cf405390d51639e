import Malleus.Manifest.Validate

/-! The tasks with declared deadlines, level by level: what the priority map holds. -/

namespace Malleus

/-- The names, in order, of the tasks of a priority that declare a deadline. -/
def deadlineNames (priority : UInt8) (tasks : List Task) : List String :=
  (tasks.filter fun task => task.deadline.isSome ∧ task.priority = priority).map Task.name

/-- One more task joins its level last, if it declares a deadline. -/
theorem deadlineNames_append (priority : UInt8) (first second : List Task) :
    deadlineNames priority (first ++ second)
      = deadlineNames priority first ++ deadlineNames priority second := by
  simp [deadlineNames]

/-- Entering a name keeps the priorities of the map distinct. -/
theorem enterLevel_nodup {priority : UInt8} {name : String} {levels : List (UInt8 × List String)}
    (distinct : (levels.map Prod.fst).Nodup) :
    ((enterLevel priority name levels).map Prod.fst).Nodup
      ∧ ∀ level ∈ (enterLevel priority name levels).map Prod.fst,
        level = priority ∨ level ∈ levels.map Prod.fst := by
  induction levels with
  | nil => simp [enterLevel]
  | cons entry rest entered =>
    obtain ⟨level, names⟩ := entry
    rw [List.map_cons, List.nodup_cons] at distinct
    obtain ⟨fresh, others⟩ := distinct
    obtain ⟨kept, within⟩ := entered others
    by_cases here : level = priority
    · simp only [enterLevel, if_pos here, List.map_cons, List.nodup_cons]
      exact ⟨⟨fresh, others⟩, fun other listed => .inr listed⟩
    · simp only [enterLevel, if_neg here, List.map_cons, List.nodup_cons]
      refine ⟨⟨?_, kept⟩, ?_⟩
      -- The only priority that can be new is the one entered.
      · intro again
        exact (within level again).elim here fresh
      · intro other listed
        rcases List.mem_cons.mp listed with rfl | later
        · exact .inr (by simp)
        · exact (within other later).imp_right fun older => List.mem_cons_of_mem _ older

/-- Entering a name extends its own level, or opens it, and leaves every other level alone. -/
theorem mem_enterLevel {priority level : UInt8} {name : String} {names : List String}
    {levels : List (UInt8 × List String)} (distinct : (levels.map Prod.fst).Nodup) :
    (level, names) ∈ enterLevel priority name levels
      ↔ if level = priority then
          (∃ older, (priority, older) ∈ levels ∧ names = older ++ [name])
            ∨ priority ∉ levels.map Prod.fst ∧ names = [name]
        else (level, names) ∈ levels := by
  induction levels with
  | nil =>
    by_cases own : level = priority <;> simp [enterLevel, own]
  | cons entry rest entered =>
    obtain ⟨present, held⟩ := entry
    rw [List.map_cons, List.nodup_cons] at distinct
    obtain ⟨fresh, others⟩ := distinct
    -- The scan stops at the entry of the priority, if there is one.
    by_cases here : present = priority
    · subst here
      have absent : ∀ older, (present, older) ∉ rest :=
        fun older listed => fresh (List.mem_map.mpr ⟨_, listed, rfl⟩)
      by_cases own : level = present
      · subst own
        simp [enterLevel, absent]
      · simp [enterLevel, own]
    · have other : priority ≠ present := fun same => here same.symm
      simp only [enterLevel, if_neg here, List.mem_cons, entered others]
      by_cases own : level = priority
      · subst own
        simp [other]
      · simp [own]

/-- The priority map has one entry per priority, holding the names of its level in order. -/
theorem byPriority_spec (tasks : List Task) :
    ((byPriority tasks).map Prod.fst).Nodup
      ∧ ∀ level names, (level, names) ∈ byPriority tasks
        ↔ names ≠ [] ∧ names = deadlineNames level tasks := by
  -- The scan is followed from its last task.
  induction tasks using List.reverseRecOn with
  | nil => simp [byPriority, deadlineNames]
  | append_singleton front last scanned =>
    obtain ⟨distinct, held⟩ := scanned
    have step : byPriority (front ++ [last])
        = if last.deadline.isSome then enterLevel last.priority last.name (byPriority front)
          else byPriority front := by
      simp [byPriority]
    have present : last.priority ∈ (byPriority front).map Prod.fst
        ↔ deadlineNames last.priority front ≠ [] := by
      simp [held]
    rw [step]
    by_cases declared : last.deadline.isSome
    · rw [if_pos declared]
      refine ⟨(enterLevel_nodup distinct).1, ?_⟩
      intro level names
      rw [mem_enterLevel distinct, deadlineNames_append]
      by_cases own : level = last.priority
      · subst own
        have joined : deadlineNames last.priority [last] = [last.name] := by
          simp [deadlineNames, declared]
        rw [if_pos rfl, joined, present]
        simp only [held]
        -- Either way the name itself is there, so the joined list is not empty.
        by_cases empty : deadlineNames last.priority front = []
        · simp +contextual [empty]
        · simp +contextual [empty]
      · have apart : deadlineNames level [last] = [] := by
          simp [deadlineNames, declared, Ne.symm own]
        rw [if_neg own, apart, List.append_nil, held]
    · rw [if_neg declared]
      refine ⟨distinct, ?_⟩
      intro level names
      have apart : deadlineNames level [last] = [] := by
        simp [deadlineNames, declared]
      rw [deadlineNames_append, apart, List.append_nil, held]

/-- The length of some names joined by commas is the sum of their lengths, each with a comma. -/
theorem length_intercalate {names : List String} (nonempty : names ≠ []) :
    (String.intercalate ", " names).length + 2 = (names.map fun name => name.length + 2).sum := by
  -- Each name but the last brings its comma and space; the last one is charged for them too.
  induction names with
  | nil => exact absurd rfl nonempty
  | cons first rest counted =>
    by_cases single : rest = []
    · subst single
      simp
    · have comma : (", " : String).length = 2 := rfl
      rw [String.intercalate_cons_of_ne_nil single, String.length_append, String.length_append,
        comma, List.map_cons, List.sum_cons, ← counted single]
      omega

/-- One more name in between lengthens the joined text. -/
theorem intercalate_ne_insert {front back : List String} (name : String)
    (several : front ++ back ≠ []) :
    String.intercalate ", " (front ++ name :: back) ≠ String.intercalate ", " (front ++ back) := by
  -- The two texts differ in length.
  intro same
  have longer := length_intercalate (show front ++ name :: back ≠ [] by simp)
  have shorter := length_intercalate several
  rw [same, shorter] at longer
  simp at longer

end Malleus
