import Malleus.Analyzer.LeastResponse
import Malleus.Realtime.Rescale
import Mathlib.Data.List.Forall2

/-! Task names: which verdicts they enter, and the reassignments no verdict notices. -/

namespace Malleus

open Realtime

namespace TaskTiming

/-- A task under another name. -/
def named (task : TaskTiming) (name : String) : TaskTiming := { task with name := name }

@[simp] theorem priority_named (task : TaskTiming) (name : String) :
    (task.named name).priority = task.priority := rfl

@[simp] theorem name_named (task : TaskTiming) (name : String) : (task.named name).name = name := rfl

/-- The search for a task's response is made: it declares an execution time and a period. -/
def Analysed (task : TaskTiming) : Prop := task.wcet.isSome = true ∧ task.period.isSome = true

end TaskTiming

/-- An entry is charged nothing but zero: it never works, or the search starts where nothing counts. -/
def ChargesNothing (task other : TaskTiming) : Prop :=
  other.Declared ∧ (other.wcet = some 0 ∨ task.searchBase = 0 ∨ task.searchBase = UInt64.MAX)

/-- One list is another with the names reassigned. -/
def Renamed (tasks renamed : List TaskTiming) : Prop :=
  List.Forall₂ (fun task other => other = task.named other.name) tasks renamed

/-- The verdicts of an analysis, without the names they are reported under. -/
def bareVerdicts (tasks : List TaskTiming) : List Verdict := (analyse tasks).verdicts.map Prod.snd

/-- The verdicts are those of the entries one by one. -/
theorem bareVerdicts_eq (tasks : List TaskTiming) :
    bareVerdicts tasks = tasks.map fun task => verdictFor task tasks := by
  rw [bareVerdicts, analyse, List.map_map]
  rfl

/-- An activation is charged nothing when there is nothing to add, nothing to wait for, or no room. -/
theorem addInterference_of_chargesNothing {task other : TaskTiming}
    (nothing : ChargesNothing task other) :
    addInterference task.searchBase task.searchBase other.times = task.searchBase := by
  obtain ⟨declared, idle⟩ := nothing
  have positive : other.times.1 ≠ 0 :=
    positivePeriods_of_declared (List.forall_mem_singleton.mpr declared) _ List.mem_cons_self
  have bound := task.searchBase.toNat_le_max
  rw [addInterference, ← UInt64.toNat_inj, UInt64.toNat_saturatingAdd, UInt64.toNat_saturatingMul,
    UInt64.toNat_divCeil _ positive]
  -- The product is zero in the first two cases, and the sum is full already in the third.
  rcases idle with works | start | full
  · have cost : other.times.2.toNat = 0 := by rw [TaskTiming.times, works]; rfl
    rw [cost, Nat.mul_zero]
    omega
  · have zero : (0 : UInt64).toNat = 0 := rfl
    rw [start, zero, zero_ceilDiv, Nat.zero_mul]
    rfl
  · rw [full, UInt64.toNat_MAX]
    omega

/-- Entries that are charged nothing leave the search where it starts. -/
theorem nextResponse_of_chargesNothing {task : TaskTiming} {others : List TaskTiming}
    (nothing : ∀ other ∈ others, ChargesNothing task other) :
    nextResponse task.searchBase (others.map TaskTiming.times) task.searchBase = task.searchBase := by
  -- Each entry in turn leaves the running sum at the start of the search.
  induction others with
  | nil => rfl
  | cons other rest settled =>
    obtain ⟨first, remaining⟩ := List.forall_mem_cons.mp nothing
    rw [nextResponse, List.map_cons, List.foldl_cons, addInterference_of_chargesNothing first]
    exact settled remaining

/-- A search that does not leave its start was charged nothing. -/
theorem chargesNothing_of_nextResponse {task : TaskTiming} {others : List TaskTiming}
    (declared : ∀ other ∈ others, other.Declared)
    (settled : nextResponse task.searchBase (others.map TaskTiming.times) task.searchBase
      = task.searchBase) :
    ∀ other ∈ others, ChargesNothing task other := by
  intro other listed
  refine ⟨declared other listed, ?_⟩
  by_contra charged
  rw [not_or, not_or] at charged
  obtain ⟨works, started, room⟩ := charged
  have positive := positivePeriods_of_declared declared
  have computed : (nextResponse task.searchBase _ task.searchBase).toNat = _ :=
    toNat_nextResponse positive
  rw [settled, exactDemand] at computed
  -- The entry's own charge is one term of the sum on top of the start.
  have listed_ : (other.periodTicks, other.wcetTicks) ∈ exactTimes (others.map TaskTiming.times) :=
    List.mem_map_of_mem (List.mem_map_of_mem listed)
  have term := activations_le_periodicDemand listed_ 0 task.searchBase.toNat
  have top : periodicDemand task.searchBase.toNat (exactTimes (others.map TaskTiming.times))
      task.searchBase.toNat = task.searchBase.toNat
        + periodicDemand 0 (exactTimes (others.map TaskTiming.times)) task.searchBase.toNat := by
    rw [periodicDemand, periodicDemand, Nat.zero_add]
  have start := UInt64.toNat_pos_iff.mpr started
  have charge := Nat.mul_pos (ceilDiv_pos start (declared other listed).period_pos)
    (wcetTicks_pos (declared other listed) works)
  have below : task.searchBase.toNat ≠ 18446744073709551615 := fun full =>
    room (UInt64.toNat_inj.mp full)
  simp only at term
  omega

/-- An outcome published at the start of a search shows that the search did not leave it. -/
theorem settled_of_recurrence {base deadline : UInt64} {preempting : List (UInt64 × UInt64)}
    (positive : PositivePeriods preempting) {rounds : Nat} {response other : UInt64}
    (after_ : base ≤ response)
    (outcome : recurrence base deadline preempting rounds response = .pass base other
      ∨ recurrence base deadline preempting rounds response = .fail base other) :
    nextResponse base preempting base = base := by
  induction rounds generalizing response with
  | zero => simp [recurrence] at outcome
  | succ rounds settled =>
    have grown := nextResponse_mono base positive after_
    have above := base_le_nextResponse base base positive
    simp only [recurrence] at outcome
    split at outcome
    -- A round that repeats its response publishes it.
    · rename_i same
      have start : response = base := by
        split at outcome
        · exact (show response = base ∧ deadline - response = other by simpa using outcome).1
        · exact (show response = base ∧ response - deadline = other by simpa using outcome).1
      rw [start] at same
      exact same
    · split at outcome
      · have start : nextResponse base preempting response = base
            ∧ nextResponse base preempting response - deadline = other := by simpa using outcome
        rw [start.1] at grown
        exact UInt64.le_antisymm grown above
      · exact settled (base_le_nextResponse base response positive) outcome

/-- A search without interferers publishes its start. -/
theorem recurrence_settled {base : UInt64} (deadline : UInt64) {preempting : List (UInt64 × UInt64)}
    (settled : nextResponse base preempting base = base) :
    recurrence base deadline preempting maxIterations base
      = if base ≤ deadline then .pass base (deadline - base) else .fail base (base - deadline) := by
  rw [maxIterations, recurrence]
  simp only [settled, if_true]

/-- A complete search starts at the task's base and knows its deadline. -/
theorem verdictFor_eq_recurrence_of_analysed {task : TaskTiming} (analysed : task.Analysed) :
    ∃ deadline, ∀ all : List TaskTiming, (∀ other ∈ preempters task all, other.Declared) →
      verdictFor task all = recurrence task.searchBase deadline
        ((preempters task all).map TaskTiming.times) maxIterations task.searchBase := by
  obtain ⟨costed, timed⟩ := analysed
  -- The base and the deadline are read from the task alone, before any other entry.
  obtain ⟨wcet, cost⟩ := Option.isSome_iff_exists.mp costed
  obtain ⟨deadline, contract⟩ := TaskTiming.exists_effectiveDeadline timed
  refine ⟨deadline, fun all declared => ?_⟩
  rw [verdictFor_eq_recurrence cost timed contract declared, TaskTiming.searchBase, cost,
    Option.getD_some]

/-- Without an execution time or a period the other entries are never looked at. -/
theorem verdictFor_eq_alone_of_not_analysed {task : TaskTiming} (unanalysed : ¬task.Analysed)
    (all : List TaskTiming) : verdictFor task all = verdictFor task [] := by
  unfold verdictFor
  -- Both guards come before the scan of the other entries.
  cases cost : task.wcet with
  | none => rfl
  | some wcet =>
    have untimed : task.period = none := by
      rw [← Option.not_isSome_iff_eq_none]
      intro timed
      exact unanalysed ⟨by rw [cost]; rfl, timed⟩
    rw [untimed]
    cases task.deadline <;> rfl

/-- A verdict is that of the task alone exactly when whoever can preempt it is charged nothing. -/
theorem verdictFor_eq_alone_iff (task : TaskTiming) (all : List TaskTiming) :
    verdictFor task all = verdictFor task []
      ↔ (task.Analysed → ∀ other ∈ preempters task all, ChargesNothing task other) := by
  by_cases analysed : task.Analysed
  · obtain ⟨deadline, searched⟩ := verdictFor_eq_recurrence_of_analysed analysed
    have alone : verdictFor task [] = if task.searchBase ≤ deadline
        then .pass task.searchBase (deadline - task.searchBase)
        else .fail task.searchBase (task.searchBase - deadline) := by
      rw [searched [] (by simp [preempters])]
      exact recurrence_settled deadline rfl
    rw [alone]
    constructor
    · intro same _
      have decided : (verdictFor task all).isDecided = true := by
        rw [same]
        split <;> rfl
      -- A number needs the declarations of every entry that can preempt the task.
      obtain ⟨-, -, -, -, -, declared, -⟩ := verdictFor_decided decided
      have positive := positivePeriods_of_declared declared
      rw [searched all declared] at same
      apply chargesNothing_of_nextResponse declared
      split at same
      · exact settled_of_recurrence positive UInt64.le_rfl (.inl same)
      · exact settled_of_recurrence positive UInt64.le_rfl (.inr same)
    · intro nothing
      have unpaid := nothing analysed
      rw [searched all fun other member => (unpaid other member).1]
      exact recurrence_settled deadline (nextResponse_of_chargesNothing unpaid)
  · exact iff_of_true (verdictFor_eq_alone_of_not_analysed analysed all) fun claimed =>
      absurd claimed analysed

/-- The name of a task alone enters nothing. -/
theorem verdictFor_named_alone (task : TaskTiming) (name : String) :
    verdictFor (task.named name) [] = verdictFor task [] := rfl

/-- Only more urgent entries can preempt a task. -/
theorem mem_moreUrgent_of_mem_preempters {task other : TaskTiming} {all : List TaskTiming}
    (member : other ∈ preempters task all) : other ∈ moreUrgent task all := by
  obtain ⟨present, kept⟩ := List.mem_filter.mp member
  rw [decide_eq_true_iff, not_or] at kept
  exact mem_moreUrgent.mpr ⟨present, UInt8.not_le.mp kept.2⟩

/-- Names that follow the priorities hide no more urgent entry. -/
theorem preempters_namedByPriority {name : UInt8 → String} (injective : Function.Injective name)
    (task : TaskTiming) (all : List TaskTiming) :
    preempters (task.named (name task.priority)) (all.map fun other => other.named (name other.priority))
      = (moreUrgent task all).map fun other => other.named (name other.priority) := by
  rw [preempters, moreUrgent, List.filter_map]
  congr 1
  apply List.filter_congr
  intro other _
  rw [Function.comp_apply, decide_eq_decide]
  simp only [TaskTiming.name_named, TaskTiming.priority_named, injective.eq_iff, not_or, UInt8.not_le]
  -- A more urgent entry has another priority, and therefore another name.
  constructor
  · exact And.right
  · intro urgent
    exact ⟨fun same => UInt8.ne_of_lt urgent same.symm, urgent⟩

/-- One name for every entry hides them all. -/
theorem preempters_namedAlike (name : String) (task : TaskTiming) (all : List TaskTiming) :
    preempters (task.named name) (all.map fun other => other.named name) = [] := by
  rw [preempters, List.filter_eq_nil_iff]
  -- Every entry bears the name of the task, so the scan skips it.
  intro other listed
  obtain ⟨entry, -, rfl⟩ := List.mem_map.mp listed
  simp

/-- Naming each entry by a rule reassigns the names. -/
theorem renamed_map (tasks : List TaskTiming) (name : TaskTiming → String) :
    Renamed tasks (tasks.map fun task => task.named (name task)) := by
  rw [Renamed, List.forall₂_map_right_iff, List.forall₂_same]
  intro task _
  rfl

section Renamed

variable {tasks renamed : List TaskTiming}

/-- A list made entry by entry from a renamed one is made entry by entry from the original. -/
theorem Renamed.map_eq {result : TaskTiming → Verdict} {original : TaskTiming → Verdict}
    (reassigned : Renamed tasks renamed)
    (same : ∀ pair ∈ tasks.zip renamed, result pair.2 = original pair.1) :
    renamed.map result = tasks.map original := by
  -- The induction follows the entries and their new names side by side.
  induction reassigned with
  | nil => rfl
  | cons _ _ mapped =>
    rw [List.zip_cons_cons, List.forall_mem_cons] at same
    rw [List.map_cons, List.map_cons, same.1, mapped same.2]

/-- A paired entry of a renamed list is the original entry under another name. -/
theorem Renamed.eq_named (reassigned : Renamed tasks renamed) {pair : TaskTiming × TaskTiming}
    (paired : pair ∈ tasks.zip renamed) : pair.2 = pair.1.named pair.2.name :=
  (List.forall₂_iff_zip.mp reassigned).2 paired

/-- Every entry of a renamed list is an original entry under another name. -/
theorem Renamed.exists_named (reassigned : Renamed tasks renamed) {other : TaskTiming}
    (listed : other ∈ renamed) : ∃ original ∈ tasks, other = original.named other.name := by
  -- An entry of the renamed list stands where its original stands.
  induction reassigned with
  | nil => cases listed
  | cons same _ found =>
    rcases List.mem_cons.mp listed with rfl | later
    · exact ⟨_, List.mem_cons_self, same⟩
    · obtain ⟨original, present, named⟩ := found later
      exact ⟨original, List.mem_cons_of_mem _ present, named⟩

/-- A reassignment keeps, for each entry, which more urgent entries bear its name. -/
def SharesAlike (tasks renamed : List TaskTiming) : Prop :=
  ∀ first ∈ tasks.zip renamed, ∀ second ∈ tasks.zip renamed, first.1.priority < second.1.priority →
    (second.1.name = first.1.name ↔ second.2.name = first.2.name)

/-- The scan finds the same interferers as long as the same more urgent entries bear the name. -/
theorem Renamed.interferers_eq (reassigned : Renamed tasks renamed) (task : TaskTiming) (name : String)
    (alike : ∀ second ∈ tasks.zip renamed, task.priority < second.1.priority →
      (second.1.name = task.name ↔ second.2.name = name)) :
    interferers (task.named name) renamed = interferers task tasks := by
  -- The induction is on the scan; a name decides only about more urgent entries.
  induction reassigned with
  | nil => rfl
  | @cons other other' rest rest' same _ scanned =>
    rw [List.zip_cons_cons, List.forall_mem_cons] at alike
    have here := alike.1
    have skips : (other'.name = (task.named name).name ∨ other'.priority ≤ (task.named name).priority)
        ↔ (other.name = task.name ∨ other.priority ≤ task.priority) := by
      have level : other'.priority = other.priority := by rw [same, TaskTiming.priority_named]
      rw [TaskTiming.name_named, TaskTiming.priority_named, level]
      by_cases low : other.priority ≤ task.priority
      · simp [low]
      · rw [or_iff_left low, or_iff_left low]
        exact (here (UInt8.not_le.mp low)).symm
    have period : other'.period = other.period := by rw [same]; rfl
    have cost : other'.wcet = other.wcet := by rw [same]; rfl
    rw [interferers, interferers, scanned alike.2, period, cost]
    simp only [skips]

/-- A reassignment that keeps who shares a name with whom leaves every verdict alone. -/
theorem Renamed.bareVerdicts_eq (reassigned : Renamed tasks renamed)
    (alike : SharesAlike tasks renamed) : bareVerdicts renamed = bareVerdicts tasks := by
  rw [Malleus.bareVerdicts_eq, Malleus.bareVerdicts_eq]
  apply reassigned.map_eq
  -- A renamed entry differs in its name only, and the scan for it finds the same interferers.
  intro pair paired
  have same := reassigned.eq_named paired
  have scanned := reassigned.interferers_eq pair.1 pair.2.name (alike pair paired)
  rw [same]
  simp only [verdictFor, scanned]
  rfl

end Renamed

/-- The verdict of a task that is charged for every more urgent entry, whatever the two are called. -/
def chargedVerdict (tasks : List TaskTiming) (task : TaskTiming) : Verdict :=
  verdictFor (task.named "") ((moreUrgent task tasks).map fun other => other.named "other")

/-- Names serve reporting only: no reassignment changes a verdict, and all that is due is charged. -/
structure NamesOnlyReported (tasks : List TaskTiming) : Prop where
  unchanged : ∀ renamed, Renamed tasks renamed → bareVerdicts renamed = bareVerdicts tasks
  charged : ∀ renamed, Renamed tasks renamed →
    bareVerdicts renamed = tasks.map (chargedVerdict tasks)

/-- No analysed entry is charged anything for a more urgent one. -/
def Uncharged (tasks : List TaskTiming) : Prop :=
  ∀ task ∈ tasks, task.Analysed → ∀ other ∈ moreUrgent task tasks, ChargesNothing task other

/-- Where nothing is charged, every entry is judged as if it were alone, whatever its name. -/
theorem Uncharged.bareVerdicts_eq {tasks renamed : List TaskTiming} (uncharged : Uncharged tasks)
    (reassigned : Renamed tasks renamed) :
    bareVerdicts renamed = tasks.map fun task => verdictFor task [] := by
  rw [Malleus.bareVerdicts_eq]
  apply reassigned.map_eq
  rintro ⟨task, other⟩ paired
  have same : other = task.named other.name := reassigned.eq_named paired
  have listed := (List.of_mem_zip paired).1
  have alone : verdictFor other renamed = verdictFor other [] := by
    rw [verdictFor_eq_alone_iff, same]
    intro analysed above member
    -- Whoever can preempt the entry is a more urgent original entry.
    obtain ⟨present, urgent⟩ := mem_moreUrgent.mp (mem_moreUrgent_of_mem_preempters member)
    obtain ⟨original, original_, named⟩ := reassigned.exists_named present
    have level : above.priority = original.priority := by rw [named, TaskTiming.priority_named]
    rw [named]
    exact uncharged task listed analysed original (mem_moreUrgent.mpr ⟨original_, level ▸ urgent⟩)
  exact alone.trans (by rw [same]; exact verdictFor_named_alone task _)

/-- Where nothing is charged, the full charge comes to nothing as well. -/
theorem Uncharged.chargedVerdict_eq {tasks : List TaskTiming} (uncharged : Uncharged tasks)
    {task : TaskTiming} (listed : task ∈ tasks) : chargedVerdict tasks task = verdictFor task [] := by
  rw [chargedVerdict, ← verdictFor_named_alone task "", verdictFor_eq_alone_iff]
  -- What is charged in full are more urgent entries, each of which is charged nothing.
  intro analysed above member
  obtain ⟨original, urgent, rfl⟩ := List.mem_map.mp (List.mem_of_mem_filter member)
  exact uncharged task listed analysed original urgent

/-- A name for every priority, no two alike. -/
def priorityName (priority : UInt8) : String := String.ofList (List.replicate priority.toNat 'p')

/-- Different priorities have names of different lengths. -/
theorem priorityName_injective : Function.Injective priorityName := by
  intro first second same
  -- A name is as many characters long as the priority is high.
  have lengths := congrArg (fun name : String => name.toList.length) same
  simp only [priorityName, String.toList_ofList, List.length_replicate] at lengths
  exact UInt8.toNat_inj.mp lengths

/-- If no reassignment changes a verdict, nothing was ever charged. -/
theorem uncharged_of_unchanged {tasks : List TaskTiming}
    (unchanged : ∀ renamed, Renamed tasks renamed → bareVerdicts renamed = bareVerdicts tasks) :
    Uncharged tasks := by
  -- Compare one name for all, which hides every entry, with names by priority, which hide none.
  have alike := unchanged _ (renamed_map tasks fun _ => "")
  have apart := unchanged _ (renamed_map tasks fun task => priorityName task.priority)
  rw [← alike, bareVerdicts_eq, bareVerdicts_eq, List.map_map, List.map_map, List.map_inj_left] at apart
  intro task listed analysed other urgent
  have same := apart task listed
  simp only [Function.comp_apply] at same
  have hidden := (verdictFor_eq_alone_iff (task.named "") (tasks.map fun other => other.named "")).mpr
    fun _ above member => by
      rw [preempters_namedAlike] at member
      cases member
  rw [hidden, verdictFor_named_alone,
    ← verdictFor_named_alone task (priorityName task.priority), verdictFor_eq_alone_iff,
    preempters_namedByPriority priorityName_injective] at same
  have unpaid := same analysed (other.named (priorityName other.priority))
    (List.mem_map_of_mem urgent)
  exact unpaid

/--
Names serve reporting only exactly where no more urgent entry is ever charged.

Apart from that, a reassignment is safe for every list if it keeps which more urgent entries bear an
entry's name; so it is between any two lists of distinct names.
-/
theorem namesOnlyReported_iff (tasks : List TaskTiming) :
    (NamesOnlyReported tasks ↔ Uncharged tasks)
      ∧ ∀ renamed, Renamed tasks renamed → SharesAlike tasks renamed →
        bareVerdicts renamed = bareVerdicts tasks := by
  -- Where nothing is charged, every naming gives each task its verdict alone.
  refine ⟨⟨fun reported => uncharged_of_unchanged reported.unchanged, fun uncharged => ⟨?_, ?_⟩⟩,
    fun renamed reassigned alike => reassigned.bareVerdicts_eq alike⟩
  · intro renamed reassigned
    have itself : Renamed tasks tasks := List.forall₂_same.mpr fun _ _ => rfl
    rw [uncharged.bareVerdicts_eq reassigned, uncharged.bareVerdicts_eq itself]
  · intro renamed reassigned
    rw [uncharged.bareVerdicts_eq reassigned]
    exact List.map_congr_left fun task listed => (uncharged.chargedVerdict_eq listed).symm

/-- A worker and a more urgent one of the same name. -/
def namesakes : List TaskTiming :=
  [⟨"worker", 9, some 10, none, some 8, 0⟩, ⟨"worker", 3, some 20, some 10, some 5, 0⟩]

/-- The two with a name of their own each. -/
def distinctWorkers : List TaskTiming :=
  [⟨"helper", 9, some 10, none, some 8, 0⟩, ⟨"worker", 3, some 20, some 10, some 5, 0⟩]

/-- A more urgent entry of the task's own name is not charged, and a late task passes. -/
theorem namesakes_pass : ¬NamesOnlyReported namesakes ∧ Renamed namesakes distinctWorkers
    ∧ bareVerdicts namesakes = [.pass 8 2, .pass 5 5]
    ∧ bareVerdicts distinctWorkers = [.pass 8 2, .fail 13 3] := by
  have reassigned : Renamed namesakes distinctWorkers := .cons rfl (.cons rfl .nil)
  have together : bareVerdicts namesakes = [.pass 8 2, .pass 5 5] := by decide
  have apart : bareVerdicts distinctWorkers = [.pass 8 2, .fail 13 3] := by decide
  refine ⟨fun reported => ?_, reassigned, together, apart⟩
  -- Were names only reported, both lists would have the same verdicts.
  have same := reported.unchanged distinctWorkers reassigned
  rw [together, apart] at same
  exact absurd same (by decide)

end Malleus
