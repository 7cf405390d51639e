import Malleus.Analyzer.Interference
import Mathlib.Logic.Function.Iterate

/-! When the analyser publishes a number: how its search ends, and what a schedulable set is made of. -/

namespace Malleus

/-- The recurrence's right-hand side cut at the largest 64-bit value. -/
def clippedDemand (base : UInt64) (preempting : List (UInt64 × UInt64)) (window : ℕ) : ℕ :=
  min (exactDemand base preempting window) 18446744073709551615

/-- Within the allowed rounds the iterates stop moving or leave the deadline behind. -/
def Settles (base deadline : UInt64) (preempting : List (UInt64 × UInt64)) (rounds window : ℕ) :
    Prop :=
  ∃ round < rounds,
    (clippedDemand base preempting)^[round + 1] window =
        (clippedDemand base preempting)^[round] window ∨
      deadline.toNat < (clippedDemand base preempting)^[round + 1] window

/-- With no rounds left nothing settles. -/
theorem not_settles_zero (base deadline : UInt64) (preempting : List (UInt64 × UInt64))
    (window : ℕ) : ¬Settles base deadline preempting 0 window := by
  -- There is no round before the first.
  intro settles
  obtain ⟨round, impossible, _⟩ := settles
  omega

/-- The first round settles the search, or hands it on to the remaining ones. -/
theorem settles_succ (base deadline : UInt64) (preempting : List (UInt64 × UInt64))
    (rounds window : ℕ) :
    Settles base deadline preempting (rounds + 1) window ↔
      (clippedDemand base preempting window = window ∨
        deadline.toNat < clippedDemand base preempting window) ∨
      Settles base deadline preempting rounds (clippedDemand base preempting window) := by
  -- Later rounds of the longer search are the rounds of the shorter one, started one step in.
  constructor
  · intro settles
    obtain ⟨round, below, exit⟩ := settles
    cases round with
    | zero => exact Or.inl exit
    | succ round => exact Or.inr ⟨round, by omega, exit⟩
  · intro settles
    cases settles with
    | inl exit => exact ⟨0, by omega, exit⟩
    | inr later =>
      obtain ⟨round, below, exit⟩ := later
      exact ⟨round + 1, by omega, exit⟩

/-- The search publishes a number exactly when its iterates settle in the rounds it has. -/
theorem recurrence_decided_iff {base deadline : UInt64} {preempting : List (UInt64 × UInt64)}
    (positive : PositivePeriods preempting) (rounds : Nat) (response : UInt64) :
    (recurrence base deadline preempting rounds response).isDecided = true ↔
      Settles base deadline preempting rounds response.toNat := by
  induction rounds generalizing response with
  | zero => simp [recurrence, Verdict.isDecided, not_settles_zero]
  | succ rounds ih =>
    -- The value computed in 64 bits is the demand cut at their limit.
    have computed : (nextResponse base preempting response).toNat =
        clippedDemand base preempting response.toNat := toNat_nextResponse positive
    rw [settles_succ, ← computed, UInt64.toNat_inj, ← UInt64.lt_iff_toNat_lt, ← ih]
    simp only [recurrence]
    by_cases settled : nextResponse base preempting response = response
    -- A repeated value ends the search on either side of the deadline.
    · rw [if_pos settled]
      split <;> simp [settled, Verdict.isDecided]
    · rw [if_neg settled]
      -- Otherwise the search stops past the deadline, or goes on.
      by_cases late : nextResponse base preempting response > deadline
      · simp [late, Verdict.isDecided]
      · simp [settled, late]

/-- A failing search publishes its first iterate past the deadline. -/
theorem recurrence_eq_fail {base deadline : UInt64} {preempting : List (UInt64 × UInt64)}
    (positive : PositivePeriods preempting) (rounds : Nat) {start response overrun : UInt64}
    (failed : recurrence base deadline preempting rounds start = .fail response overrun) :
    ∃ round, response.toNat = (clippedDemand base preempting)^[round + 1] start.toNat ∧
      ∀ earlier < round,
        (clippedDemand base preempting)^[earlier + 1] start.toNat ≤ deadline.toNat := by
  induction rounds generalizing start with
  | zero => simp [recurrence] at failed
  | succ rounds ih =>
    have computed : (nextResponse base preempting start).toNat =
        clippedDemand base preempting start.toNat := toNat_nextResponse positive
    simp only [recurrence] at failed
    split at failed
    -- A repeated value is its own first iterate.
    · rename_i settled
      split at failed
      · cases failed
      · cases failed
        rw [settled] at computed
        exact ⟨0, computed, by simp⟩
    · split at failed
      · cases failed
        exact ⟨0, computed, by simp⟩
      -- Otherwise the first iterate is within the deadline, and the search starts over from it.
      · rename_i early
        obtain ⟨round, found, before⟩ := ih failed
        rw [computed] at found before
        refine ⟨round + 1, found, ?_⟩
        intro earlier below
        cases earlier with
        | zero => exact computed.symm.trans_le (UInt64.le_iff_toNat_le.mp (UInt64.not_lt.mp early))
        | succ earlier => exact before earlier (by omega)

/-- Every task of a schedulable set passes. -/
theorem pass_of_isSchedulable {tasks : List TaskTiming}
    (schedulable : (analyse tasks).isSchedulable = true) {task : TaskTiming}
    (member : task ∈ tasks) : ∃ response slack, verdictFor task tasks = .pass response slack := by
  have passed := List.all_eq_true.mp schedulable (task.name, verdictFor task tasks)
    (List.mem_map.mpr ⟨task, member, rfl⟩)
  cases outcome : verdictFor task tasks with
  | pass response slack => exact ⟨response, slack, rfl⟩
  | fail response overrun => simp [outcome, Verdict.isPass] at passed
  | unknown reason => simp [outcome, Verdict.isPass] at passed

/-- A schedulable set consists of numeric verdicts. -/
theorem decided_of_isSchedulable {tasks : List TaskTiming}
    (schedulable : (analyse tasks).isSchedulable = true) {task : TaskTiming}
    (member : task ∈ tasks) : (verdictFor task tasks).isDecided = true := by
  -- Passing is one of the two numeric outcomes.
  obtain ⟨response, slack, passed⟩ := pass_of_isSchedulable schedulable member
  rw [passed]
  rfl

end Malleus
