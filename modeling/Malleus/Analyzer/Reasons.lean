import Malleus.Analyzer.LeastResponse
import Malleus.Analyzer.Decided

/-! Why a verdict carries no number: the one reason the analyser gives, out of all that may hold. -/

namespace Malleus

/-- Why a task that can preempt another cannot be charged to it. -/
inductive Unchargeable (other : TaskTiming) : String → Prop
  | unbounded (zero : other.period = some 0) : Unchargeable other Reason.zeroPeriod
  | missing (finite : other.period ≠ some 0) (gap : other.period = none ∨ other.wcet = none) :
      Unchargeable other Reason.undeclared

/-- Why a task among others gets no number: its own gaps first, then the first gap above it. -/
inductive Withheld (task : TaskTiming) (all : List TaskTiming) : String → Prop
  | noWcet (uncosted : task.wcet = none) : Withheld task all Reason.noWcet
  | noContract (costed : task.wcet ≠ none) (unlimited : task.deadline = none)
      (aperiodic : task.period = none) : Withheld task all Reason.noContract
  | noPeriod (costed : task.wcet ≠ none) (limited : task.deadline ≠ none)
      (aperiodic : task.period = none) : Withheld task all Reason.noPeriod
  | uncharged (costed : task.wcet ≠ none) (periodic : task.period ≠ none)
      {before after : List TaskTiming} {other : TaskTiming} {reason : String}
      (first : preempters task all = before ++ other :: after)
      (declared : ∀ earlier ∈ before, earlier.Declared) (why : Unchargeable other reason) :
      Withheld task all reason
  | noConvergence (costed : task.wcet ≠ none) (periodic : task.period ≠ none)
      (declared : ∀ other ∈ preempters task all, other.Declared)
      (unsettled : ¬Settles task.searchBase (task.effectiveDeadline.getD 0)
        ((preempters task all).map TaskTiming.times) maxIterations task.searchBase.toNat) :
      Withheld task all Reason.noConvergence

variable {task other : TaskTiming} {all : List TaskTiming} {reason : String}

/-- A task is uncharged for one reason. -/
theorem Unchargeable.unique {reason' : String} (why : Unchargeable other reason)
    (why' : Unchargeable other reason') : reason = reason' := by
  -- The reasons tell a period of zero from every other.
  cases why with
  | unbounded zero =>
    cases why' with
    | unbounded _ => rfl
    | missing finite _ => exact absurd zero finite
  | missing finite _ =>
    cases why' with
    | unbounded zero => exact absurd zero finite
    | missing _ _ => rfl

/-- What is declared is charged. -/
theorem Unchargeable.not_declared (why : Unchargeable other reason) : ¬other.Declared := by
  intro declared
  obtain ⟨costed, timed, nonzero⟩ := declared
  -- Each reason names a declaration that is not there.
  cases why with
  | unbounded zero => exact nonzero zero
  | missing _ gap =>
    rcases gap with aperiodic | uncosted
    · simp [aperiodic] at timed
    · simp [uncosted] at costed

/-- What is not declared has a reason. -/
theorem exists_unchargeable (undeclared : ¬other.Declared) : ∃ reason, Unchargeable other reason := by
  by_cases zero : other.period = some 0
  · exact ⟨_, .unbounded zero⟩
  · refine ⟨_, .missing zero ?_⟩
    -- With a period that is not zero, one of the two declarations is missing.
    by_contra whole
    rw [not_or] at whole
    exact undeclared ⟨Option.isSome_iff_ne_none.mpr whole.2,
      Option.isSome_iff_ne_none.mpr whole.1, zero⟩

/-- A declared entry is charged before the rest is scanned. -/
theorem interferers_cons_of_declared {rest : List TaskTiming}
    (kept : ¬(other.name = task.name ∨ other.priority ≤ task.priority)) (declared : other.Declared) :
    interferers task (other :: rest) = (interferers task rest).map (other.times :: ·) := by
  obtain ⟨costed, timed, nonzero⟩ := declared
  obtain ⟨wcet, cost⟩ := Option.isSome_iff_exists.mp costed
  obtain ⟨period, interval⟩ := Option.isSome_iff_exists.mp timed
  have finite : period ≠ 0 := fun zero => nonzero (zero ▸ interval)
  -- Neither guard of the scan applies.
  simp [interferers, if_neg kept, interval, cost, TaskTiming.times]

/-- An uncharged entry ends the scan with its reason. -/
theorem interferers_cons_of_uncharged {rest : List TaskTiming}
    (kept : ¬(other.name = task.name ∨ other.priority ≤ task.priority))
    (why : Unchargeable other reason) : interferers task (other :: rest) = .error reason := by
  -- The guard against a period of zero comes first, then the one against missing declarations.
  cases why with
  | unbounded zero => simp [interferers, if_neg kept, zero]
  | missing finite gap =>
    cases interval : other.period with
    | none => simp [interferers, if_neg kept, interval]
    | some period =>
      have uncosted : other.wcet = none := by simpa [interval] using gap
      have nonzero : period ≠ 0 := fun zero => finite (zero ▸ interval)
      simp [interferers, if_neg kept, interval, uncosted, nonzero]

/-- The scan fails with the reason of the first entry it cannot charge. -/
theorem interferers_eq_error :
    interferers task all = .error reason ↔
      ∃ before other after, preempters task all = before ++ other :: after
        ∧ (∀ earlier ∈ before, earlier.Declared) ∧ Unchargeable other reason := by
  -- The induction follows the scan: skipped entries, charged ones, and the first that cannot be charged.
  induction all with
  | nil => simp [interferers, preempters]
  | cons entry rest ih =>
    by_cases skipped : entry.name = task.name ∨ entry.priority ≤ task.priority
    · rw [preempters_cons_of_skipped rest skipped, interferers, if_pos skipped]
      exact ih
    rw [preempters_cons_of_kept rest skipped]
    by_cases declared : entry.Declared
    -- A declared entry is never the first uncharged one.
    · have passed : interferers task (entry :: rest) = .error reason
          ↔ interferers task rest = .error reason := by
        rw [interferers_cons_of_declared skipped declared]
        cases interferers task rest <;> simp [Except.map]
      rw [passed, ih]
      constructor
      · intro found
        obtain ⟨before, other, after, split, earlier, why⟩ := found
        refine ⟨entry :: before, other, after, by rw [split, List.cons_append], ?_, why⟩
        exact List.forall_mem_cons.mpr ⟨declared, earlier⟩
      · intro found
        obtain ⟨before, other, after, split, earlier, why⟩ := found
        cases before with
        | nil =>
          obtain ⟨rfl, -⟩ := List.cons.inj split
          exact absurd declared why.not_declared
        | cons head before =>
          obtain ⟨-, split⟩ := List.cons.inj split
          exact ⟨before, other, after, split, (List.forall_mem_cons.mp earlier).2, why⟩
    -- Any other entry ends the scan, with nothing before it.
    · obtain ⟨given, why⟩ := exists_unchargeable declared
      rw [interferers_cons_of_uncharged skipped why, Except.error.injEq]
      constructor
      · rintro rfl
        exact ⟨[], entry, _, rfl, List.forall_mem_nil _, why⟩
      · intro found
        obtain ⟨before, other, after, split, earlier, why'⟩ := found
        cases before with
        | nil =>
          obtain ⟨rfl, -⟩ := List.cons.inj split
          exact why.unique why'
        | cons head before =>
          obtain ⟨rfl, -⟩ := List.cons.inj split
          exact absurd (earlier _ List.mem_cons_self) declared

/-- The search itself withholds a number for one reason alone. -/
theorem recurrence_eq_unknown {base deadline : UInt64} {preempting : List (UInt64 × UInt64)}
    (rounds : Nat) (response : UInt64) :
    recurrence base deadline preempting rounds response = .unknown reason ↔
      reason = Reason.noConvergence
        ∧ (recurrence base deadline preempting rounds response).isDecided = false := by
  -- Only running out of rounds answers with a reason.
  induction rounds generalizing response with
  | zero => simp [recurrence, Verdict.isDecided, @eq_comm _ reason]
  | succ rounds ih =>
    simp only [recurrence]
    split
    · split <;> simp [Verdict.isDecided]
    · split
      · simp [Verdict.isDecided]
      · exact ih _

/-- Where everything is declared, the search is for the task's own demand within its deadline. -/
theorem verdictFor_eq_searched {wcet deadline : UInt64} (cost : task.wcet = some wcet)
    (periodic : task.period ≠ none) (contract : task.effectiveDeadline = some deadline)
    (declared : ∀ other ∈ preempters task all, other.Declared) :
    verdictFor task all = recurrence task.searchBase (task.effectiveDeadline.getD 0)
      ((preempters task all).map TaskTiming.times) maxIterations task.searchBase := by
  -- The search starts at the declared cost with the blocking on top.
  have base : task.searchBase = wcet.saturatingAdd task.blocking := by
    rw [TaskTiming.searchBase, cost, Option.getD_some]
  rw [verdictFor_eq_recurrence cost (Option.isSome_iff_ne_none.mpr periodic) contract declared, base,
    contract, Option.getD_some]

/-- A number is withheld only for a reason the verdict gives. -/
theorem Withheld.verdictFor_eq (withheld : Withheld task all reason) :
    verdictFor task all = .unknown reason := by
  -- The reasons are in the order of the guards, and each supposes the guards before it passed.
  cases withheld with
  | noWcet uncosted => simp [verdictFor, uncosted]
  | noContract costed unlimited aperiodic =>
    obtain ⟨wcet, cost⟩ := Option.ne_none_iff_exists'.mp costed
    simp [verdictFor, cost, unlimited, aperiodic]
  | noPeriod costed limited aperiodic =>
    obtain ⟨wcet, cost⟩ := Option.ne_none_iff_exists'.mp costed
    obtain ⟨deadline, due⟩ := Option.ne_none_iff_exists'.mp limited
    simp [verdictFor, cost, due, aperiodic]
  | uncharged costed periodic first declared why =>
    obtain ⟨wcet, cost⟩ := Option.ne_none_iff_exists'.mp costed
    obtain ⟨period, interval⟩ := Option.ne_none_iff_exists'.mp periodic
    have scanned := interferers_eq_error.mpr ⟨_, _, _, first, declared, why⟩
    cases due : task.deadline <;> simp [verdictFor, cost, due, interval, scanned]
  | noConvergence costed periodic declared unsettled =>
    obtain ⟨wcet, cost⟩ := Option.ne_none_iff_exists'.mp costed
    obtain ⟨deadline, contract⟩ :=
      TaskTiming.exists_effectiveDeadline (Option.isSome_iff_ne_none.mpr periodic)
    rw [verdictFor_eq_searched cost periodic contract declared, recurrence_eq_unknown,
      ← Bool.not_eq_true, recurrence_decided_iff (positivePeriods_of_declared declared)]
    exact ⟨rfl, unsettled⟩

/-- A verdict is unknown exactly for the reason its number is withheld for. -/
theorem verdictFor_eq_unknown_iff :
    verdictFor task all = .unknown reason ↔ Withheld task all reason := by
  refine ⟨fun unknown => ?_, Withheld.verdictFor_eq⟩
  -- Each exit is found by its own guard, and every verdict has one reason.
  have found : ∀ {given}, Withheld task all given → Withheld task all reason := by
    intro given withheld
    rw [withheld.verdictFor_eq, Verdict.unknown.injEq] at unknown
    exact unknown ▸ withheld
  by_cases uncosted : task.wcet = none
  · exact found (.noWcet uncosted)
  by_cases aperiodic : task.period = none
  · by_cases unlimited : task.deadline = none
    · exact found (.noContract uncosted unlimited aperiodic)
    · exact found (.noPeriod uncosted unlimited aperiodic)
  cases scanned : interferers task all with
  | error why =>
    obtain ⟨before, other, after, first, declared, because⟩ := interferers_eq_error.mp scanned
    exact found (.uncharged uncosted aperiodic first declared because)
  | ok preempting =>
    obtain ⟨declared, -⟩ := interferers_eq_ok.mp scanned
    obtain ⟨wcet, cost⟩ := Option.ne_none_iff_exists'.mp uncosted
    obtain ⟨deadline, contract⟩ :=
      TaskTiming.exists_effectiveDeadline (Option.isSome_iff_ne_none.mpr aperiodic)
    rw [verdictFor_eq_searched cost aperiodic contract declared, recurrence_eq_unknown,
      ← Bool.not_eq_true, recurrence_decided_iff (positivePeriods_of_declared declared)] at unknown
    obtain ⟨rfl, unsettled⟩ := unknown
    exact .noConvergence uncosted aperiodic declared unsettled

end Malleus
