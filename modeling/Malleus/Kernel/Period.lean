import Malleus.Machine.Word64
import Malleus.Realtime.Grid
import Malleus.Realtime.Rescale

/-! Periodic activation: the arithmetic catch-up, the loop it replaces, and whole runs of it. -/

namespace Malleus

open Realtime

/-- A point on the kernel's monotonic timeline. -/
structure Instant where
  ticks : UInt64
  deriving DecidableEq, Repr

namespace Instant

/-- The raw tick count since boot. -/
def asTicks (instant : Instant) : UInt64 := instant.ticks

/-- The ticks elapsed from an earlier instant, none if it is later. -/
def saturatingSince (instant earlier : Instant) : UInt64 :=
  instant.ticks.saturatingSub earlier.ticks

/-- The instant some ticks later, or the end of the timeline. -/
def saturatingAddTicks (instant : Instant) (ticks : UInt64) : Instant :=
  ⟨instant.ticks.saturatingAdd ticks⟩

end Instant

/-- The activation instants of a periodic task. -/
structure Period where
  next : Instant
  interval : UInt64
  missed : UInt32
  deriving DecidableEq, Repr

namespace Period

/-- A schedule with its first activation one interval after the start. -/
def startingAt (start : Instant) (intervalTicks : UInt64) : Period where
  next := start.saturatingAddTicks intervalTicks
  interval := intervalTicks
  missed := 0

/-- The instant of the next scheduled activation. -/
def nextActivation (period : Period) : Instant := period.next

/-- The number of activations missed since the schedule began. -/
def missedActivations (period : Period) : UInt32 := period.missed

/-- Advance to the next activation after a completion, with the new target. -/
def advance (period : Period) (now : Instant) : Period × Instant :=
  let next := period.next.saturatingAddTicks period.interval
  if now.asTicks > next.asTicks then
    let behind := now.saturatingSince next
    -- A zero interval is rejected elsewhere, but would divide by zero here.
    let skipped := if period.interval = 0 then 1 else behind.divCeil period.interval
    let skippedCount := if skipped > UInt32.MAX.toUInt64 then UInt32.MAX else skipped.toUInt32
    let missed := period.missed.saturatingAdd skippedCount
    let next := next.saturatingAddTicks (skipped.saturatingMul period.interval)
    (⟨next, period.interval, missed⟩, next)
  else
    (⟨next, period.interval, period.missed⟩, next)

/-- Clipping early does not change a sum that is clipped in the end. -/
theorem clip_clip_add (value more limit : ℕ) :
    min (min value limit + more) limit = min (value + more) limit := by
  omega

/--
A schedule has caught up with an instant from its next activation on.

It stands on the first slot from there that is not before the instant, and every slot up to it was
missed; both are clipped to their widths.
-/
structure CaughtUp (interval : UInt64) (now next : Instant) (missed : UInt32) (result : Period) :
    Prop where
  reached : result.next.ticks.toNat
    = min (gridCeil next.ticks.toNat interval.toNat now.ticks.toNat) 18446744073709551615
  counted : result.missed.toNat
    = min (missed.toNat + (now.ticks.toNat - next.ticks.toNat) ⌈/⌉ interval.toNat) 4294967295
  kept : result.interval = interval

/-- Two results of the same catch-up are the same schedule. -/
theorem CaughtUp.unique {interval : UInt64} {now next : Instant} {missed : UInt32}
    {first second : Period} (caught : CaughtUp interval now next missed first)
    (caught' : CaughtUp interval now next missed second) : first = second := by
  -- Each field is fixed as a number, so the words agree.
  obtain ⟨⟨ticks⟩, _, count⟩ := first
  obtain ⟨⟨ticks'⟩, _, count'⟩ := second
  have activation : ticks = ticks' := UInt64.toNat_inj.mp (caught.reached.trans caught'.reached.symm)
  have misses : count = count' := UInt32.toNat_inj.mp (caught.counted.trans caught'.counted.symm)
  have intervals := caught.kept.trans caught'.kept.symm
  simp only at intervals
  rw [activation, misses, intervals]

/-- An activation that is not before the instant is caught up already. -/
theorem caughtUp_of_reached {now next : Instant} (reached : now.ticks.toNat ≤ next.ticks.toNat)
    (interval : UInt64) (missed : UInt32) :
    CaughtUp interval now next missed ⟨next, interval, missed⟩ := by
  -- No slot lies between, so the ceiling is zero and neither minimum clips.
  have nothing := Nat.sub_eq_zero_of_le reached
  refine ⟨?_, ?_, rfl⟩
  · simp only [gridCeil, nothing, zero_ceilDiv, Nat.zero_mul, Nat.add_zero]
    exact (min_eq_left next.ticks.toNat_le_max).symm
  · simp only [nothing, zero_ceilDiv, Nat.add_zero]
    exact (min_eq_left missed.toNat_le_max).symm

/-- A number of skipped activations is counted in 32 bits, clipped. -/
theorem toNat_skippedCount (skipped : UInt64) :
    (if skipped > UInt32.MAX.toUInt64 then UInt32.MAX else skipped.toUInt32).toNat
      = min skipped.toNat 4294967295 := by
  have largest : UInt32.MAX.toUInt64.toNat = 4294967295 := rfl
  have limit : UInt32.MAX.toNat = 4294967295 := rfl
  split
  · rename_i many
    rw [gt_iff_lt, UInt64.lt_iff_toNat_lt, largest] at many
    omega
  · rename_i few
    rw [gt_iff_lt, UInt64.lt_iff_toNat_lt, largest] at few
    rw [UInt64.toNat_toUInt32]
    omega

/-- Advancing is catching up from the next slot. -/
theorem advance_caughtUp (period : Period) (now : Instant) (positive : period.interval ≠ 0) :
    CaughtUp period.interval now (period.next.saturatingAddTicks period.interval) period.missed
      (period.advance now).1 := by
  unfold advance
  simp only [if_neg positive]
  split
  -- The catch-up clips where the product or the sum leaves the timeline.
  · refine ⟨?_, ?_, rfl⟩
    · simp only [Instant.saturatingAddTicks, Instant.saturatingSince, UInt64.toNat_saturatingAdd,
        UInt64.toNat_saturatingMul, UInt64.toNat_divCeil _ positive, UInt64.toNat_saturatingSub,
        gridCeil]
      omega
    · rw [UInt32.toNat_saturatingAdd, toNat_skippedCount, UInt64.toNat_divCeil _ positive,
        Instant.saturatingSince, UInt64.toNat_saturatingSub]
      omega
  -- A completion in time is late for no slot.
  · rename_i inTime
    rw [gt_iff_lt, UInt64.lt_iff_toNat_lt, not_lt] at inTime
    exact caughtUp_of_reached inTime period.interval period.missed

/-- The returned target is the next activation. -/
@[simp] theorem advance_snd (period : Period) (now : Instant) :
    (period.advance now).2 = (period.advance now).1.nextActivation := by
  unfold advance
  simp only
  split <;> rfl

/-- Before the end of the timeline, a step of one interval moves on. -/
theorem lt_saturatingAddTicks {interval : UInt64} (positive : interval ≠ 0) {now next : Instant}
    (late : next.ticks < now.ticks) :
    next.ticks.toNat < (next.saturatingAddTicks interval).ticks.toNat := by
  -- The instant caught up to is on the timeline itself, so even a clipped step moves on.
  have below := now.ticks.toNat_le_max
  have step := UInt64.toNat_pos_iff.mpr positive
  rw [UInt64.lt_iff_toNat_lt] at late
  rw [Instant.saturatingAddTicks, UInt64.toNat_saturatingAdd]
  omega

/-- The plain loop: one interval and one miss at a time, until the activation is not before now. -/
def catchUpLoop {interval : UInt64} (positive : interval ≠ 0) (now next : Instant) (missed : UInt32) :
    Period :=
  if next.ticks < now.ticks then
    catchUpLoop positive now (next.saturatingAddTicks interval) (missed.saturatingAdd 1)
  else
    ⟨next, interval, missed⟩
termination_by now.ticks.toNat - next.ticks.toNat
decreasing_by
  rename_i late
  have forward := lt_saturatingAddTicks positive late
  rw [UInt64.lt_iff_toNat_lt] at late
  omega

/-- The iterative version of advancing. -/
def advanceByLoop (period : Period) (positive : period.interval ≠ 0) (now : Instant) : Period :=
  catchUpLoop positive now (period.next.saturatingAddTicks period.interval) period.missed

/-- The loop catches up. -/
theorem catchUpLoop_caughtUp {interval : UInt64} (positive : interval ≠ 0) (now next : Instant)
    (missed : UInt32) :
    CaughtUp interval now next missed (catchUpLoop positive now next missed) := by
  have step := UInt64.toNat_pos_iff.mpr positive
  induction next, missed using catchUpLoop.induct positive now with
  | case1 next missed late caught =>
    have one : (1 : UInt32).toNat = 1 := rfl
    have behind := UInt64.lt_iff_toNat_lt.mp late
    have below := now.ticks.toNat_le_max
    -- One interval less is left to catch up with.
    have fewer := ceilDiv_eq_succ step (Nat.sub_pos_of_lt behind)
    have rest : now.ticks.toNat - next.ticks.toNat - interval.toNat
        = now.ticks.toNat - (next.saturatingAddTicks interval).ticks.toNat := by
      rw [Instant.saturatingAddTicks, UInt64.toNat_saturatingAdd]
      omega
    rw [rest] at fewer
    rw [catchUpLoop, if_pos late]
    refine ⟨?_, ?_, caught.kept⟩
    · rw [caught.reached, gridCeil, gridCeil, fewer, Instant.saturatingAddTicks,
        UInt64.toNat_saturatingAdd, Nat.add_mul, Nat.one_mul]
      omega
    · rw [caught.counted, fewer, UInt32.toNat_saturatingAdd, one, clip_clip_add, Nat.add_assoc,
        Nat.add_comm 1]
  | case2 next missed reached =>
    rw [catchUpLoop, if_neg reached]
    rw [UInt64.lt_iff_toNat_lt, not_lt] at reached
    exact caughtUp_of_reached reached interval missed

/-- The arithmetic catch-up ends where the plain loop does, also at the end of the timeline. -/
theorem advance_eq_loop (period : Period) (positive : period.interval ≠ 0) (now : Instant) :
    (period.advance now).1 = period.advanceByLoop positive now :=
  (period.advance_caughtUp now positive).unique (catchUpLoop_caughtUp positive now _ _)

/-- Any late state, caught up with the loop, comes to the same schedule. -/
theorem lateTask_caught_up : (Period.advance ⟨⟨5⟩, 10, 4294967290⟩ ⟨18446744073709551615⟩).1
    = Period.advanceByLoop ⟨⟨5⟩, 10, 4294967290⟩ (by decide) ⟨18446744073709551615⟩ :=
  advance_eq_loop _ (by decide) _

/-- The schedule after a sequence of completions. -/
def after (period : Period) (nows : List Instant) : Period :=
  nows.foldl (fun period now => (period.advance now).1) period

/-- The calls of a sequence of completions, each with the target before it and the one returned. -/
def calls (period : Period) : List Instant → List Call
  | [] => []
  | now :: rest =>
    let step := period.advance now
    ⟨period.nextActivation.ticks.toNat, now.ticks.toNat, step.2.ticks.toNat⟩ :: step.1.calls rest

/-- The raw tick counts of a sequence of instants. -/
def tickCounts (nows : List Instant) : List ℕ := nows.map fun now => now.ticks.toNat

/-- The schedule a period would follow on a timeline without end. -/
def unbounded (start : Instant) (interval : UInt64) (nows : List Instant) : Schedule :=
  (Schedule.starting start.ticks.toNat interval.toNat).after interval.toNat (tickCounts nows)

/-- A period follows a schedule up to the end of its timeline and of its miss counter. -/
structure Follows (interval : UInt64) (schedule : Schedule) (period : Period) : Prop where
  clipped : period.next.ticks.toNat = min schedule.target 18446744073709551615
  counted : period.missed.toNat = min schedule.skipped 4294967295
  kept : period.interval = interval

section Run

variable {interval : UInt64}

/-- A new period follows a new schedule. -/
theorem follows_startingAt (start : Instant) (interval : UInt64) :
    Follows interval (Schedule.starting start.ticks.toNat interval.toNat)
      (startingAt start interval) := by
  refine ⟨?_, rfl, rfl⟩
  rw [startingAt, Instant.saturatingAddTicks, UInt64.toNat_saturatingAdd]
  rfl

/-- A completion keeps a period behind its schedule. -/
theorem Follows.advance {schedule : Schedule} {period : Period} (positive : interval ≠ 0)
    (follows : Follows interval schedule period) (now : Instant) :
    Follows interval (schedule.advance interval.toNat now.ticks.toNat) (period.advance now).1 := by
  have kept := follows.kept
  subst kept
  have caught := period.advance_caughtUp now positive
  have below := now.ticks.toNat_le_max
  have next : (period.next.saturatingAddTicks period.interval).ticks.toNat
      = min (schedule.target + period.interval.toNat) 18446744073709551615 := by
    rw [Instant.saturatingAddTicks, UInt64.toNat_saturatingAdd, follows.clipped, clip_clip_add]
  -- Past the end of the timeline no completion is late any more.
  have steps : now.ticks.toNat - min (schedule.target + period.interval.toNat) 18446744073709551615
      = now.ticks.toNat - (schedule.target + period.interval.toNat) := by
    omega
  refine ⟨?_, ?_, caught.kept⟩
  · rw [caught.reached, next, gridCeil, steps, clip_clip_add]
    rfl
  · rw [caught.counted, next, steps, follows.counted, clip_clip_add]
    rfl

/-- A run keeps a period behind its schedule. -/
theorem Follows.after {schedule : Schedule} {period : Period} (positive : interval ≠ 0)
    (follows : Follows interval schedule period) (nows : List Instant) :
    Follows interval (schedule.after interval.toNat (tickCounts nows)) (period.after nows) := by
  induction nows generalizing schedule period with
  | nil => exact follows
  | cons now rest follow => exact follow (Follows.advance positive follows now)

/-- On the timeline, the calls of a period are those of its schedule. -/
theorem Follows.calls {schedule : Schedule} {period : Period} (positive : interval ≠ 0)
    (follows : Follows interval schedule period) (nows : List Instant)
    (within : (schedule.after interval.toNat (tickCounts nows)).target ≤ 18446744073709551615) :
    period.calls nows = Schedule.calls interval.toNat schedule.target (tickCounts nows) := by
  induction nows generalizing schedule period with
  | nil => rfl
  | cons now rest same =>
    have advanced := Follows.advance positive follows now
    -- Neither this target nor the next one is past the end, because no later target is before them.
    have bounded : (schedule.advance interval.toNat now.ticks.toNat).target ≤ 18446744073709551615 :=
      (Schedule.target_le_after _ (tickCounts rest)).trans within
    have next : schedule.target ≤ (schedule.advance interval.toNat now.ticks.toNat).target :=
      Schedule.target_le_after schedule [now.ticks.toNat]
    have here := follows.clipped
    have there := advanced.clipped
    rw [min_eq_left (next.trans bounded)] at here
    rw [min_eq_left bounded] at there
    simp only [Period.calls, advance_snd, nextActivation, here, there, same advanced within]
    rfl

/-- A period started on the timeline is where its schedule is, as far as the timeline reaches. -/
theorem after_follows (start : Instant) (positive : interval ≠ 0) (nows : List Instant) :
    Follows interval (unbounded start interval nows) ((startingAt start interval).after nows) :=
  (follows_startingAt start interval).after positive nows

/-- A next activation before the end of the timeline says that the schedule has not left it. -/
theorem within_of_nextActivation_lt (start : Instant) (positive : interval ≠ 0) {nows : List Instant}
    (inside : ((startingAt start interval).after nows).nextActivation.ticks < UInt64.MAX) :
    (unbounded start interval nows).target ≤ 18446744073709551615 := by
  have clipped := (after_follows start positive nows).clipped
  rw [UInt64.lt_iff_toNat_lt, nextActivation, clipped, UInt64.toNat_MAX] at inside
  omega

/--
Over a whole run a period stays on its grid and loses no slot.

Its schedule must not have left the timeline; how many slots were skipped is counted up to 32 bits.
-/
theorem run_keepsGrid (start : Instant) (positive : interval ≠ 0) (nows : List Instant)
    (within : (unbounded start interval nows).target ≤ 18446744073709551615) :
    KeepsGrid start.ticks.toNat interval.toNat ((startingAt start interval).calls nows)
        ((startingAt start interval).after nows).nextActivation.ticks.toNat
      ∧ ((startingAt start interval).after nows).missedActivations.toNat
        = min (slotsSkipped start.ticks.toNat interval.toNat ((startingAt start interval).calls nows))
          4294967295 := by
  have nonzero := UInt64.toNat_pos_iff.mpr positive
  have last := after_follows start positive nows
  have same := (follows_startingAt start interval).calls positive nows within
  have reached : ((startingAt start interval).after nows).nextActivation.ticks.toNat
      = (unbounded start interval nows).target := by
    rw [nextActivation, last.clipped, min_eq_left within]
  -- The slots the calls pass over are those the schedule skipped.
  have first := Schedule.onGrid_starting start.ticks.toNat interval.toNat
  have skipped := Schedule.skipped_after nonzero first (tickCounts nows)
  refine ⟨?_, ?_⟩
  · rw [reached, same]
    exact Schedule.keepsGrid nonzero start.ticks.toNat (tickCounts nows)
  · rw [missedActivations, last.counted, same, unbounded, skipped]
    exact congrArg (min · 4294967295) (Nat.zero_add _)

/-- Four completions of a period of ten ticks, one of them early and one on a slot, keep the grid. -/
theorem tenTicks_keepsGrid :
    KeepsGrid 0 10 ((startingAt ⟨0⟩ 10).calls [⟨13⟩, ⟨45⟩, ⟨40⟩, ⟨90⟩])
        ((startingAt ⟨0⟩ 10).after [⟨13⟩, ⟨45⟩, ⟨40⟩, ⟨90⟩]).nextActivation.ticks.toNat
      ∧ ((startingAt ⟨0⟩ 10).after [⟨13⟩, ⟨45⟩, ⟨40⟩, ⟨90⟩]).missedActivations.toNat
        = min (slotsSkipped 0 10 ((startingAt ⟨0⟩ 10).calls [⟨13⟩, ⟨45⟩, ⟨40⟩, ⟨90⟩])) 4294967295 := by
  have positive : (10 : UInt64) ≠ 0 := by decide
  have within : (unbounded ⟨0⟩ 10 [⟨13⟩, ⟨45⟩, ⟨40⟩, ⟨90⟩]).target ≤ 18446744073709551615 := by decide
  exact run_keepsGrid ⟨0⟩ positive _ within

/-- The tick counts of earlier instants are smaller. -/
theorem tickCounts_forall₂ {early late : List Instant}
    (sooner : List.Forall₂ (fun now now' => now.ticks ≤ now'.ticks) early late) :
    List.Forall₂ (· ≤ ·) (tickCounts early) (tickCounts late) := by
  rw [tickCounts, tickCounts, List.forall₂_map_left_iff, List.forall₂_map_right_iff]
  exact sooner.imp fun _ _ order => UInt64.le_iff_toNat_le.mp order

/-- Earlier completions lead to no later activation and to no more misses, at any length of run. -/
theorem after_mono (start : Instant) (positive : interval ≠ 0) {early late : List Instant}
    (sooner : List.Forall₂ (fun now now' => now.ticks ≤ now'.ticks) early late) :
    ((startingAt start interval).after early).nextActivation.ticks
        ≤ ((startingAt start interval).after late).nextActivation.ticks
      ∧ ((startingAt start interval).after early).missedActivations
        ≤ ((startingAt start interval).after late).missedActivations := by
  have nonzero := UInt64.toNat_pos_iff.mpr positive
  have first := Schedule.onGrid_starting start.ticks.toNat interval.toNat
  have targets : (unbounded start interval early).target ≤ (unbounded start interval late).target :=
    Schedule.target_after_mono nonzero (tickCounts_forall₂ sooner) first first le_rfl
  -- Both runs used the same number of slots, so the earlier one skipped no more.
  have skips : (unbounded start interval early).skipped ≤ (unbounded start interval late).skipped := by
    have used := sooner.length_eq
    have order := targets
    rw [unbounded, unbounded, Schedule.target_after, Schedule.target_after, tickCounts, tickCounts,
      List.length_map, List.length_map, used] at order
    have steps := Nat.le_of_mul_le_mul_right (Nat.le_of_add_le_add_left order) nonzero
    exact Nat.le_of_add_le_add_left steps
  have follows := after_follows start positive early
  have follows' := after_follows start positive late
  constructor
  · rw [UInt64.le_iff_toNat_le, nextActivation, nextActivation, follows.clipped, follows'.clipped]
    exact min_le_min_right _ targets
  · rw [UInt32.le_iff_toNat_le, missedActivations, missedActivations, follows.counted, follows'.counted]
    exact min_le_min_right _ skips

/-- After any run the next activation is the latest slot demanded, as far as the timeline reaches. -/
theorem nextActivation_eq_demanded (start : Instant) (positive : interval ≠ 0) (nows : List Instant) :
    ∃ latest, IsGreatest (Schedule.demanded start.ticks.toNat interval.toNat (tickCounts nows)) latest
      ∧ ((startingAt start interval).after nows).nextActivation.ticks.toNat
        = min latest 18446744073709551615 :=
  ⟨_, Schedule.isGreatest_demanded (UInt64.toNat_pos_iff.mpr positive) start.ticks.toNat
      (tickCounts nows),
    (after_follows start positive nows).clipped⟩

/--
Finishing earlier never hurts.

Of two runs of one schedule, the one with earlier completions is never behind and never misses more;
every run is next activated at the latest slot its completions demand.
-/
theorem earlier_never_hurts (start : Instant) (positive : interval ≠ 0) {early late : List Instant}
    (sooner : List.Forall₂ (fun now now' => now.ticks ≤ now'.ticks) early late) :
    (∀ k, ((startingAt start interval).after (early.take k)).nextActivation.ticks
          ≤ ((startingAt start interval).after (late.take k)).nextActivation.ticks
        ∧ ((startingAt start interval).after (early.take k)).missedActivations
          ≤ ((startingAt start interval).after (late.take k)).missedActivations)
      ∧ ∀ nows : List Instant, ∃ latest,
        IsGreatest (Schedule.demanded start.ticks.toNat interval.toNat (tickCounts nows)) latest
          ∧ ((startingAt start interval).after nows).nextActivation.ticks.toNat
            = min latest 18446744073709551615 :=
  ⟨fun k => after_mono start positive (List.forall₂_take k sooner),
    nextActivation_eq_demanded start positive⟩

/-- Two runs of a period of ten ticks, the second with later completions. -/
theorem tenTicks_never_hurts :
    (∀ k, ((startingAt ⟨0⟩ 10).after ([⟨13⟩, ⟨25⟩].take k)).nextActivation.ticks
          ≤ ((startingAt ⟨0⟩ 10).after ([⟨13⟩, ⟨77⟩].take k)).nextActivation.ticks
        ∧ ((startingAt ⟨0⟩ 10).after ([⟨13⟩, ⟨25⟩].take k)).missedActivations
          ≤ ((startingAt ⟨0⟩ 10).after ([⟨13⟩, ⟨77⟩].take k)).missedActivations)
      ∧ ∀ nows : List Instant, ∃ latest,
        IsGreatest (Schedule.demanded 0 10 (tickCounts nows)) latest
          ∧ ((startingAt ⟨0⟩ 10).after nows).nextActivation.ticks.toNat
            = min latest 18446744073709551615 :=
  earlier_never_hurts ⟨0⟩ (by decide) (.cons (by decide) (.cons (by decide) .nil))

end Run

end Period

end Malleus
