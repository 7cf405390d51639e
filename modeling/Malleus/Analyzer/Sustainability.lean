import Malleus.Analyzer.LeastResponse

/-! Easing a system: a pass survives every change that only takes demand away. -/

namespace Malleus

open Realtime

/-- Whatever one task declares as its cost, the other declares no more. -/
def CostsNoMore (after before : TaskTiming) : Prop :=
  ∀ wcet, before.wcet = some wcet → ∃ lowered ≤ wcet, after.wcet = some lowered

/-- Whatever one task declares as its period, the other declares no less. -/
def RepeatsNoMore (after before : TaskTiming) : Prop :=
  ∀ period, before.period = some period → ∃ lengthened ≥ period, after.period = some lengthened

/-- The analysed task after easing: no more work, no more blocking, no earlier deadline. -/
structure EasedTask (after before : TaskTiming) : Prop where
  name : after.name = before.name
  priority : after.priority = before.priority
  wcet : CostsNoMore after before
  blocking : after.blocking ≤ before.blocking
  period : before.period.isSome = true → after.period.isSome = true
  deadline : ∀ deadline, before.effectiveDeadline = some deadline →
    ∃ raised ≥ deadline, after.effectiveDeadline = some raised

/-- An entry of the list after easing; only the analysed task may change how often it repeats. -/
structure EasedEntry (task after before : TaskTiming) : Prop where
  name : after.name = before.name
  priority : after.priority = before.priority
  wcet : CostsNoMore after before
  period : before.name ≠ task.name → RepeatsNoMore after before

/-- The eased list: some entries are gone, and the ones that are left were eased. -/
def EasedList (task : TaskTiming) (after before : List TaskTiming) : Prop :=
  after.SublistForall₂ (EasedEntry task) before

variable {task task' : TaskTiming} {tasks tasks' : List TaskTiming}

/-- The entries that preempt the eased task are eased entries of those that preempted it. -/
theorem EasedList.preempters_eased (eased : EasedTask task' task)
    (list : EasedList task tasks' tasks) :
    (preempters task' tasks').SublistForall₂
      (fun after before => CostsNoMore after before ∧ RepeatsNoMore after before)
      (preempters task tasks) := by
  induction list with
  | nil => exact .nil
  | @cons after before rest' rest entry _ ih =>
    -- Names and priorities are unchanged, so both entries are skipped or both are kept.
    have same : (after.name = task'.name ∨ after.priority ≤ task'.priority) ↔
        (before.name = task.name ∨ before.priority ≤ task.priority) := by
      rw [entry.name, entry.priority, eased.name, eased.priority]
    by_cases skipped : before.name = task.name ∨ before.priority ≤ task.priority
    · rw [preempters_cons_of_skipped rest' (same.mpr skipped),
        preempters_cons_of_skipped rest skipped]
      exact ih
    · rw [preempters_cons_of_kept rest' (same.not.mpr skipped),
        preempters_cons_of_kept rest skipped]
      exact .cons ⟨entry.wcet, entry.period fun named => skipped (Or.inl named)⟩ ih
  | @cons_right before _ rest _ ih =>
    -- A removed entry may or may not have been able to preempt.
    by_cases skipped : before.name = task.name ∨ before.priority ≤ task.priority
    · rw [preempters_cons_of_skipped rest skipped]
      exact ih
    · rw [preempters_cons_of_kept rest skipped]
      exact .cons_right ih

/-- Easing a declared entry leaves it declared, with lighter times. -/
theorem lighter_times {after before : TaskTiming} (declared : before.Declared)
    (cheaper : CostsNoMore after before) (rarer : RepeatsNoMore after before) :
    after.Declared ∧ Lighter (after.times.1.toNat, after.times.2.toNat)
      (before.times.1.toNat, before.times.2.toNat) := by
  obtain ⟨costed, timed, nonzero⟩ := declared
  obtain ⟨wcet, cost⟩ := Option.isSome_iff_exists.mp costed
  obtain ⟨period, interval⟩ := Option.isSome_iff_exists.mp timed
  obtain ⟨lowered, less, cost'⟩ := cheaper wcet cost
  obtain ⟨lengthened, longer, interval'⟩ := rarer period interval
  have positive : 0 < period.toNat := by
    rw [UInt64.toNat_pos_iff]
    intro zero
    exact nonzero (zero ▸ interval)
  have longer : period.toNat ≤ lengthened.toNat := UInt64.le_iff_toNat_le.mp longer
  -- A longer period is still not zero.
  have kept : lengthened ≠ 0 := UInt64.toNat_pos_iff.mp (positive.trans_le longer)
  refine ⟨⟨by simp [cost'], by simp [interval'], by simpa [interval'] using kept⟩, ?_⟩
  simp only [TaskTiming.times, cost, cost', interval, interval', Option.getD_some]
  exact ⟨positive, longer, UInt64.le_iff_toNat_le.mp less⟩

/-- Eased interferers are all declared, and their times are lighter. -/
theorem lighter_exactTimes {entries entries' : List TaskTiming}
    (declared : ∀ other ∈ entries, other.Declared)
    (eased : entries'.SublistForall₂
      (fun after before => CostsNoMore after before ∧ RepeatsNoMore after before) entries) :
    (∀ other ∈ entries', other.Declared) ∧
      (exactTimes (entries'.map TaskTiming.times)).SublistForall₂ Lighter
        (exactTimes (entries.map TaskTiming.times)) := by
  induction eased with
  | nil => exact ⟨by simp, .nil⟩
  | cons head _ ih =>
    rw [List.forall_mem_cons] at declared
    obtain ⟨restDeclared, rest⟩ := ih declared.2
    -- The entry that is left is declared and lighter than the one it came from.
    obtain ⟨firstDeclared, first⟩ := lighter_times declared.1 head.1 head.2
    exact ⟨List.forall_mem_cons.mpr ⟨firstDeclared, restDeclared⟩, .cons first rest⟩
  | cons_right _ ih =>
    rw [List.forall_mem_cons] at declared
    obtain ⟨restDeclared, rest⟩ := ih declared.2
    exact ⟨restDeclared, .cons_right rest⟩

/-- A search confined to windows up to the deadline passes within them, or runs out of rounds. -/
theorem recurrence_of_closed {base deadline bound : UInt64} {preempting : List (UInt64 × UInt64)}
    (closed : ∀ response ≤ bound, nextResponse base preempting response ≤ bound)
    (within : bound ≤ deadline) (rounds : Nat) {response : UInt64} (below : response ≤ bound) :
    (∃ found slack, recurrence base deadline preempting rounds response = .pass found slack ∧
        found ≤ bound) ∨
      recurrence base deadline preempting rounds response = .unknown Reason.noConvergence := by
  induction rounds generalizing response with
  | zero => exact Or.inr rfl
  | succ rounds ih =>
    have step := closed response below
    -- Neither the response nor the next one is past the deadline, so no exit is a failure.
    simp only [recurrence, if_pos (UInt64.le_trans below within),
      if_neg (UInt64.not_lt.mpr (UInt64.le_trans step within))]
    split
    · exact Or.inl ⟨response, deadline - response, rfl, below⟩
    · exact ih step

/-- A task's start of the search after easing is no later. -/
theorem EasedTask.base_le (eased : EasedTask task' task) {wcet wcet' : UInt64}
    (lowered : wcet' ≤ wcet) :
    wcet'.saturatingAdd task'.blocking ≤ wcet.saturatingAdd task.blocking := by
  -- Both summands go down, and clipping keeps the order.
  have cost := UInt64.le_iff_toNat_le.mp lowered
  have wait := UInt64.le_iff_toNat_le.mp eased.blocking
  rw [UInt64.le_iff_toNat_le, UInt64.toNat_saturatingAdd, UInt64.toNat_saturatingAdd]
  omega

/--
A pass survives easing the system, with no later response; at worst the search runs out of rounds.

It never turns into a failure.
-/
theorem pass_of_eased (eased : EasedTask task' task) (list : EasedList task tasks' tasks)
    {response slack : UInt64} (passed : verdictFor task tasks = .pass response slack) :
    (∃ response' slack', verdictFor task' tasks' = .pass response' slack' ∧
        response' ≤ response) ∨
      verdictFor task' tasks' = .unknown Reason.noConvergence := by
  obtain ⟨wcet, deadline, cost, timed, contract, declared, searched⟩ :=
    verdictFor_decided (by rw [passed]; rfl)
  obtain ⟨wcet', lowered, cost'⟩ := eased.wcet wcet cost
  obtain ⟨deadline', raised, contract'⟩ := eased.deadline deadline contract
  obtain ⟨declared', lighter⟩ := lighter_exactTimes declared (list.preempters_eased eased)
  have positive := positivePeriods_of_declared declared
  have positive' := positivePeriods_of_declared declared'
  -- The old response is a fixed point of the old rounds, within the old deadline.
  have established := recurrence_start (wcet.saturatingAdd task.blocking) deadline positive
    maxIterations
  rw [← searched, passed] at established
  obtain ⟨fixed, within, _, _⟩ := established
  rw [verdictFor_eq_recurrence cost' (eased.period timed) contract' declared']
  apply recurrence_of_closed _ (UInt64.le_trans within raised)
  · have part : wcet.saturatingAdd task.blocking ≤ response := by
      rw [← fixed]
      exact base_le_nextResponse _ response positive
    exact UInt64.le_trans (eased.base_le lowered) part
  -- New rounds compute no more than the old ones, which do not leave the old response.
  · intro window below
    have old := nextResponse_mono (wcet.saturatingAdd task.blocking) positive below
    have demand := periodicDemand_le_of_lighter
      (UInt64.le_iff_toNat_le.mp (eased.base_le lowered)) lighter window.toNat
    rw [fixed, UInt64.le_iff_toNat_le, toNat_nextResponse positive] at old
    rw [UInt64.le_iff_toNat_le, toNat_nextResponse positive']
    exact le_trans (min_le_min_right _ demand) old

/-- The slow task with less work and a later deadline. -/
def easedSlowTask : TaskTiming := ⟨"slow", 2, some 1000, some 1200, some 250, 0⟩

/-- The fast interferer slowed down, above the eased slow task. -/
def easedFastOverSlow : List TaskTiming :=
  [⟨"fast", 9, some 250, some 200, some 90, 0⟩, easedSlowTask]

/-- Having passed with 600 ticks under an audit task, the slow task still does without it. -/
theorem easedSlowTask_sustained :
    (∃ response slack, verdictFor easedSlowTask easedFastOverSlow = .pass response slack ∧
        response ≤ 600) ∨
      verdictFor easedSlowTask easedFastOverSlow = .unknown Reason.noConvergence := by
  have audited : verdictFor slowTask
      (⟨"audit", 7, some 5000, none, some 0, 0⟩ :: fastOverSlow) = .pass 600 400 := by decide
  have eased : EasedTask easedSlowTask slowTask := by
    refine ⟨rfl, rfl, ?_, by decide, fun _ => rfl, ?_⟩
    · intro wcet cost
      exact ⟨250, by cases cost; decide, rfl⟩
    · intro deadline contract
      exact ⟨1200, by cases contract; decide, rfl⟩
  have list : EasedList slowTask easedFastOverSlow
      (⟨"audit", 7, some 5000, none, some 0, 0⟩ :: fastOverSlow) := by
    -- The audit task is gone, the other two entries are eased.
    refine .cons_right (.cons ⟨rfl, rfl, ?_, ?_⟩ (.cons ⟨rfl, rfl, eased.wcet, ?_⟩ .nil))
    · intro wcet cost
      exact ⟨90, by cases cost; decide, rfl⟩
    · intro _ period interval
      exact ⟨250, by cases interval; decide, rfl⟩
    · intro other
      exact absurd rfl other
  exact pass_of_eased eased list audited

end Malleus
