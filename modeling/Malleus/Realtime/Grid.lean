import Malleus.Realtime.Demand
import Mathlib.Order.Interval.Finset.Nat
import Mathlib.Tactic.Ring

/-! Grids of equally spaced instants: catching up with a late completion, and the slots passed over. -/

namespace Realtime

/-- An instant is a slot: a whole number of intervals after the start. -/
def OnGrid (start interval slot : ℕ) : Prop := ∃ steps, slot = start + steps * interval

/-- The least slot that is not before an instant. -/
def gridCeil (start interval instant : ℕ) : ℕ :=
  start + (instant - start) ⌈/⌉ interval * interval

/-- The slot after a target, moved on by whole intervals until it is not before an instant. -/
def catchUp (interval target instant : ℕ) : ℕ := gridCeil (target + interval) interval instant

section Grid

variable {start interval : ℕ}

/-- Slots are told by a division. -/
theorem onGrid_iff (start interval slot : ℕ) :
    OnGrid start interval slot ↔ start ≤ slot ∧ interval ∣ slot - start := by
  constructor
  -- The steps taken are the quotient of the distance.
  · rintro ⟨steps, rfl⟩
    exact ⟨Nat.le_add_right _ _, ⟨steps, by rw [Nat.add_sub_cancel_left, Nat.mul_comm]⟩⟩
  · rintro ⟨after_, steps, exact_⟩
    exact ⟨steps, by rw [Nat.mul_comm, ← exact_, Nat.add_sub_cancel' after_]⟩

instance (start interval : ℕ) : DecidablePred (OnGrid start interval) :=
  fun slot => decidable_of_iff _ (onGrid_iff start interval slot).symm

/-- No slot is before the start. -/
theorem OnGrid.start_le {slot : ℕ} (on : OnGrid start interval slot) : start ≤ slot := by
  obtain ⟨steps, rfl⟩ := on
  omega

/-- Whole intervals after a slot stand further slots. -/
theorem OnGrid.trans {slot later : ℕ} (on : OnGrid start interval slot)
    (beyond : OnGrid slot interval later) : OnGrid start interval later := by
  obtain ⟨steps, rfl⟩ := on
  obtain ⟨more, rfl⟩ := beyond
  exact ⟨steps + more, by ring⟩

/-- One interval after a slot stands the next one. -/
theorem OnGrid.add {slot : ℕ} (on : OnGrid start interval slot) :
    OnGrid start interval (slot + interval) :=
  on.trans ⟨1, by rw [Nat.one_mul]⟩

/-- A slot later than another is at least one interval later. -/
theorem OnGrid.add_le {slot later : ℕ} (on : OnGrid start interval slot)
    (beyond : OnGrid start interval later) (above : slot < later) : slot + interval ≤ later := by
  obtain ⟨steps, rfl⟩ := on
  obtain ⟨more, rfl⟩ := beyond
  -- The later slot is more steps away, so the steps differ by at least one.
  have further : steps < more := by
    by_contra fewer
    have := Nat.mul_le_mul_right interval (not_lt.mp fewer)
    omega
  have := Nat.mul_le_mul_right interval further
  rw [Nat.succ_mul] at this
  omega

/-- A later slot of one grid is a slot of the grid through an earlier one. -/
theorem OnGrid.between {slot later : ℕ} (on : OnGrid start interval slot)
    (beyond : OnGrid start interval later) (above : slot ≤ later) : OnGrid slot interval later := by
  obtain ⟨steps, rfl⟩ := on
  obtain ⟨more, rfl⟩ := beyond
  -- Both slots count steps from one start, so their distance is a number of steps.
  rcases Nat.le_total steps more with fewer | fewer
  · exact ⟨more - steps, by rw [Nat.add_assoc, ← Nat.add_mul, Nat.add_sub_cancel' fewer]⟩
  · have := Nat.mul_le_mul_right interval fewer
    exact ⟨0, by omega⟩

/-- Rounding an instant up to the grid gives the least slot not before it. -/
theorem isLeast_gridCeil (positive : 0 < interval) (start instant : ℕ) :
    IsLeast {slot | OnGrid start interval slot ∧ instant ≤ slot} (gridCeil start interval instant) := by
  constructor
  -- Rounded up, the steps reach the instant.
  · have enough := (ceilDiv_le_iff_le_mul positive).mp (le_refl ((instant - start) ⌈/⌉ interval))
    rw [Nat.mul_comm] at enough
    exact ⟨⟨_, rfl⟩, by unfold gridCeil; omega⟩
  -- A slot that reaches it has taken at least as many steps.
  · intro slot candidate
    obtain ⟨⟨steps, rfl⟩, late⟩ := candidate
    have fewest : (instant - start) ⌈/⌉ interval ≤ steps := by
      rw [ceilDiv_le_iff_le_mul positive, Nat.mul_comm]
      omega
    exact Nat.add_le_add_left (Nat.mul_le_mul_right interval fewest) start

/-- Catching up gives the least slot after the target that is not before the instant. -/
theorem isLeast_catchUp (positive : 0 < interval) {target : ℕ} (on : OnGrid start interval target)
    (instant : ℕ) :
    IsLeast {slot | OnGrid start interval slot ∧ target < slot ∧ instant ≤ slot}
      (catchUp interval target instant) := by
  -- Catching up rounds the instant up to the grid through the next slot.
  obtain ⟨⟨reached, late⟩, least⟩ := isLeast_gridCeil positive (target + interval) instant
  constructor
  · exact ⟨on.add.trans reached, by have := reached.start_le; unfold catchUp; omega, late⟩
  · intro slot candidate
    obtain ⟨slotted, above, notBefore⟩ := candidate
    exact least ⟨on.add.between slotted (on.add_le slotted above), notBefore⟩

/-- Catching up goes one interval on, or to the first slot not before the instant, whichever is later. -/
theorem catchUp_eq_max (positive : 0 < interval) {target : ℕ} (on : OnGrid start interval target)
    (instant : ℕ) :
    catchUp interval target instant = max (target + interval) (gridCeil start interval instant) := by
  have reached := isLeast_catchUp positive on instant
  have ceiling := isLeast_gridCeil positive start instant
  apply le_antisymm
  -- The later of the two slots is after the target and not before the instant.
  · apply reached.2
    rcases max_choice (target + interval) (gridCeil start interval instant) with next | rounded
    · rw [next]
      have order := max_eq_left_iff.mp next
      exact ⟨on.add, by omega, ceiling.1.2.trans order⟩
    · rw [rounded]
      have order := max_eq_right_iff.mp rounded
      exact ⟨ceiling.1.1, by omega, ceiling.1.2⟩
  · exact max_le (on.add_le reached.1.1 reached.1.2.1) (ceiling.2 ⟨reached.1.1, reached.1.2.2⟩)

/-- A later target and a later instant are caught up with no earlier. -/
theorem catchUp_mono (positive : 0 < interval) {target target' instant instant' : ℕ}
    (on : OnGrid start interval target) (on' : OnGrid start interval target')
    (order : target ≤ target') (later : instant ≤ instant') :
    catchUp interval target instant ≤ catchUp interval target' instant' := by
  -- What the later schedule reaches is a candidate for the earlier one.
  obtain ⟨slotted, above, notBefore⟩ := (isLeast_catchUp positive on' instant').1
  exact (isLeast_catchUp positive on instant).2
    ⟨slotted, order.trans_lt above, later.trans notBefore⟩

end Grid

/-- A schedule on a timeline without end: its next target, and how many slots it passed over. -/
structure Schedule where
  target : ℕ
  skipped : ℕ

namespace Schedule

/-- A schedule whose first target is one interval after the start. -/
def starting (start interval : ℕ) : Schedule := ⟨start + interval, 0⟩

/-- The schedule after a completion: the next slot, and as many more as lie before the instant. -/
def advance (interval : ℕ) (schedule : Schedule) (instant : ℕ) : Schedule :=
  let next := schedule.target + interval
  let steps := (instant - next) ⌈/⌉ interval
  ⟨next + steps * interval, schedule.skipped + steps⟩

/-- The schedule after a sequence of completions. -/
def after (interval : ℕ) (schedule : Schedule) (instants : List ℕ) : Schedule :=
  instants.foldl (advance interval) schedule

variable {start interval : ℕ}

/-- The first target is a slot. -/
theorem onGrid_starting (start interval : ℕ) :
    OnGrid start interval (starting start interval).target := ⟨1, by rw [Nat.one_mul]; rfl⟩

/-- A completion moves the target on by catching up. -/
@[simp] theorem target_advance (schedule : Schedule) (instant : ℕ) :
    (advance interval schedule instant).target = catchUp interval schedule.target instant := rfl

/-- One more completion comes after all the others. -/
@[simp] theorem after_append (schedule : Schedule) (instants : List ℕ) (instant : ℕ) :
    after interval schedule (instants ++ [instant])
      = advance interval (after interval schedule instants) instant := by
  rw [after, List.foldl_append]
  rfl

/-- The target is as many intervals after the start as slots were used or passed over. -/
theorem target_after (start interval : ℕ) (instants : List ℕ) :
    (after interval (starting start interval) instants).target
      = start + (1 + instants.length
        + (after interval (starting start interval) instants).skipped) * interval := by
  induction instants using List.reverseRecOn with
  | nil => simp [after, starting]
  | append_singleton before last counted =>
    -- A completion uses one slot and passes over as many as it skips.
    rw [after_append, advance, List.length_append, List.length_singleton, counted]
    ring

/-- Every target is a slot. -/
theorem onGrid_after (start interval : ℕ) (instants : List ℕ) :
    OnGrid start interval (after interval (starting start interval) instants).target :=
  ⟨_, target_after start interval instants⟩

/-- No completion moves the target back. -/
theorem target_le_after (schedule : Schedule) (instants : List ℕ) :
    schedule.target ≤ (after interval schedule instants).target := by
  -- The induction is on the last completion, which moves the target by an interval or more.
  induction instants using List.reverseRecOn with
  | nil => exact le_rfl
  | append_singleton before last below =>
    rw [after_append, target_advance, catchUp, gridCeil]
    omega

/-- Earlier completions never lead to a later target. -/
theorem target_after_mono (positive : 0 < interval) {early late : List ℕ}
    (order : List.Forall₂ (· ≤ ·) early late) {schedule schedule' : Schedule}
    (on : OnGrid start interval schedule.target) (on' : OnGrid start interval schedule'.target)
    (behind : schedule.target ≤ schedule'.target) :
    (after interval schedule early).target ≤ (after interval schedule' late).target := by
  -- Each pair of completions leaves the earlier schedule behind the later one.
  induction order generalizing schedule schedule' with
  | nil => exact behind
  | cons earlier _ ordered =>
    exact ordered (isLeast_catchUp positive on _).1.1 (isLeast_catchUp positive on' _).1.1
      (catchUp_mono positive on on' behind earlier)

/-- The slots a sequence of completions demands: those due anyway, and those each one rounds up to. -/
def demanded (start interval : ℕ) (instants : List ℕ) : Set ℕ :=
  insert (start + (instants.length + 1) * interval)
    {slot | ∃ k, ∃ listed : k < instants.length,
      slot = gridCeil start interval instants[k] + (instants.length - (k + 1)) * interval}

/-- Without completions the first target is demanded and nothing else. -/
theorem demanded_nil (start interval : ℕ) : demanded start interval [] = {start + interval} := by
  ext slot
  simp [demanded]

/-- One more completion moves every demanded slot one interval on, and demands one itself. -/
theorem demanded_append (start interval : ℕ) (before : List ℕ) (last : ℕ) :
    demanded start interval (before ++ [last])
      = insert (gridCeil start interval last) ((· + interval) '' demanded start interval before) := by
  have length : (before ++ [last]).length = before.length + 1 := by simp
  ext slot
  constructor
  · rintro (due | ⟨k, listed, due⟩)
    · refine .inr ⟨_, .inl rfl, ?_⟩
      rw [due, length]
      ring
    · rcases Nat.lt_or_ge k before.length with old | new
      · have steps : before.length + 1 - (k + 1) = before.length - (k + 1) + 1 := by omega
        refine .inr ⟨_, .inr ⟨k, old, rfl⟩, ?_⟩
        rw [due, length, steps, List.getElem_append_left old]
        ring
      -- Behind the old completions stands the last one, with no interval after it.
      · have final : k = before.length := by omega
        subst final
        exact .inl (by simp [due])
  · rintro (rfl | ⟨_, due | ⟨k, listed, due⟩, rfl⟩)
    · exact .inr ⟨before.length, by simp, by simp⟩
    · left
      rw [due, length]
      ring
    · have steps : before.length + 1 - (k + 1) = before.length - (k + 1) + 1 := by omega
      refine .inr ⟨k, by omega, ?_⟩
      have same : (before ++ [last])[k] = before[k] := List.getElem_append_left listed
      simp only [same, due, length, steps]
      ring

/-- The target is the latest of the slots demanded. -/
theorem isGreatest_demanded (positive : 0 < interval) (start : ℕ) (instants : List ℕ) :
    IsGreatest (demanded start interval instants)
      (after interval (starting start interval) instants).target := by
  induction instants using List.reverseRecOn with
  | nil =>
    rw [demanded_nil]
    exact isGreatest_singleton
  | append_singleton before last greatest =>
    -- The last completion moves every slot demanded on by one interval, and adds its own.
    have later : Monotone (· + interval) := fun _ _ order => Nat.add_le_add_right order interval
    rw [demanded_append, after_append, target_advance,
      catchUp_eq_max positive (onGrid_after start interval before), max_comm]
    exact (later.map_isGreatest greatest).insert _

end Schedule

/-- One completion a schedule is told of: the target before it, the instant, and the target after it. -/
structure Call where
  previous : ℕ
  instant : ℕ
  target : ℕ
  deriving DecidableEq, Repr

/-- The slots a call passes over: those strictly between the target before it and the one after it. -/
def Call.skips (start interval : ℕ) (call : Call) : Finset ℕ :=
  (Finset.Ioo call.previous call.target).filter (OnGrid start interval)

/-- The number of slots a sequence of calls passes over. -/
def slotsSkipped (start interval : ℕ) (calls : List Call) : ℕ :=
  (calls.map fun call => (call.skips start interval).card).sum

@[simp] theorem slotsSkipped_cons (start interval : ℕ) (call : Call) (calls : List Call) :
    slotsSkipped start interval (call :: calls)
      = (call.skips start interval).card + slotsSkipped start interval calls := by
  rw [slotsSkipped, List.map_cons, List.sum_cons, slotsSkipped]

/-- What a schedule owes its grid, told from its calls and its last target. -/
structure KeepsGrid (start interval : ℕ) (calls : List Call) (last : ℕ) : Prop where
  counted : last = start + (1 + calls.length + slotsSkipped start interval calls) * interval
  least : ∀ call ∈ calls,
    IsLeast {slot | OnGrid start interval slot ∧ call.previous < slot ∧ call.instant ≤ slot} call.target
  -- The first target is one interval after the start, and each call returns one more.
  once : ∀ slot, OnGrid start interval slot → start < slot → slot ≤ last →
    ((start + interval) :: calls.map Call.target).count slot
      + calls.countP (fun call => slot ∈ call.skips start interval) = 1

namespace Schedule

variable {start interval : ℕ}

/-- The calls of a schedule, from a target on. -/
def calls (interval : ℕ) : ℕ → List ℕ → List Call
  | _, [] => []
  | target, instant :: rest =>
    let next := catchUp interval target instant
    ⟨target, instant, next⟩ :: calls interval next rest

/-- There is one call for each completion. -/
@[simp] theorem length_calls (interval target : ℕ) (instants : List ℕ) :
    (calls interval target instants).length = instants.length := by
  induction instants generalizing target with
  | nil => rfl
  | cons instant rest counted => rw [calls, List.length_cons, counted, List.length_cons]

/-- Between a slot and one some intervals later stand all but the last of these intervals' slots. -/
theorem card_slots_between (positive : 0 < interval) {low : ℕ} (on : OnGrid start interval low)
    (steps : ℕ) :
    ((Finset.Ioo low (low + interval + steps * interval)).filter (OnGrid start interval)).card
      = steps := by
  -- The slots in between are the first so many after the low end.
  have slots : (Finset.Ioo low (low + interval + steps * interval)).filter (OnGrid start interval)
      = (Finset.range steps).image fun step => low + (step + 1) * interval := by
    ext slot
    simp only [Finset.mem_filter, Finset.mem_Ioo, Finset.mem_image, Finset.mem_range]
    constructor
    · rintro ⟨⟨above, below⟩, slotted⟩
      obtain ⟨more, rfl⟩ := on.between slotted above.le
      have nonzero : 0 < more := Nat.pos_of_ne_zero fun none_ => by simp [none_] at above
      have fewer : more < steps + 1 := by
        apply Nat.lt_of_mul_lt_mul_right (a := interval)
        rw [Nat.add_mul, Nat.one_mul]
        omega
      exact ⟨more - 1, by omega, by rw [Nat.sub_add_cancel nonzero]⟩
    · rintro ⟨step, inside, rfl⟩
      have least := Nat.mul_le_mul_right interval (show 1 ≤ step + 1 by omega)
      have most := Nat.mul_lt_mul_of_pos_right (show step + 1 < steps + 1 by omega) positive
      rw [Nat.add_mul steps, Nat.one_mul] at most
      exact ⟨⟨by omega, by omega⟩, on.trans ⟨step + 1, rfl⟩⟩
  rw [slots, Finset.card_image_of_injective, Finset.card_range]
  -- Different steps end at different slots.
  intro first second same
  have products : (first + 1) * interval = (second + 1) * interval := Nat.add_left_cancel same
  have steps_ := Nat.eq_of_mul_eq_mul_right positive products
  omega

/-- The slots passed over are counted call by call. -/
theorem skipped_after (positive : 0 < interval) {schedule : Schedule}
    (on : OnGrid start interval schedule.target) (instants : List ℕ) :
    (after interval schedule instants).skipped
      = schedule.skipped + slotsSkipped start interval (calls interval schedule.target instants) := by
  -- The induction follows the calls; each counts the slots between its target and the next.
  induction instants generalizing schedule with
  | nil => simp [after, calls, slotsSkipped]
  | cons instant rest counted =>
    have next : OnGrid start interval (advance interval schedule instant).target :=
      (isLeast_catchUp positive on instant).1.1
    have here : ((⟨schedule.target, instant, catchUp interval schedule.target instant⟩ : Call).skips
        start interval).card = (instant - (schedule.target + interval)) ⌈/⌉ interval :=
      card_slots_between positive on _
    rw [after, List.foldl_cons, ← after, counted next, calls, slotsSkipped_cons, here, advance]
    exact Nat.add_assoc _ _ _

/-- Each call returns the least slot after the target before it that is not before the instant. -/
theorem isLeast_calls (positive : 0 < interval) {target : ℕ} (on : OnGrid start interval target)
    (instants : List ℕ) :
    ∀ call ∈ calls interval target instants,
      IsLeast {slot | OnGrid start interval slot ∧ call.previous < slot ∧ call.instant ≤ slot}
        call.target := by
  -- The induction follows the calls, each of which starts on the grid again.
  induction instants generalizing target with
  | nil => simp [calls]
  | cons instant rest least =>
    have first := isLeast_catchUp positive on instant
    intro call listed
    rcases List.mem_cons.mp listed with rfl | later
    · exact first
    · exact least first.1.1 call later

/-- No later call concerns a slot up to the target. -/
theorem count_calls_of_le (positive : 0 < interval) {target slot : ℕ}
    (on : OnGrid start interval target) (instants : List ℕ) (reached : slot ≤ target) :
    ((calls interval target instants).map Call.target).count slot = 0
      ∧ (calls interval target instants).countP (fun call => slot ∈ call.skips start interval) = 0 := by
  -- Every later call starts from a target beyond the slot.
  induction instants generalizing target with
  | nil => simp [calls]
  | cons instant rest unconcerned =>
    obtain ⟨slotted, above, -⟩ := (isLeast_catchUp positive on instant).1
    obtain ⟨targets, skips⟩ := unconcerned slotted (reached.trans above.le)
    constructor
    · rw [calls, List.map_cons, List.count_cons_of_ne (by simp; omega), targets]
    · rw [calls, List.countP_cons_of_neg (by simp [Call.skips]; omega), skips]

/-- Every slot after the target, up to the last one, is returned once or passed over once. -/
theorem count_calls (positive : 0 < interval) {schedule : Schedule} {slot : ℕ}
    (on : OnGrid start interval schedule.target) (slotted : OnGrid start interval slot)
    (instants : List ℕ) (above : schedule.target < slot)
    (below : slot ≤ (after interval schedule instants).target) :
    ((calls interval schedule.target instants).map Call.target).count slot
      + (calls interval schedule.target instants).countP
        (fun call => slot ∈ call.skips start interval) = 1 := by
  induction instants generalizing schedule with
  | nil => exact absurd (above.trans_le below) (lt_irrefl _)
  | cons instant rest once =>
    have next := (isLeast_catchUp positive on instant).1.1
    rcases Nat.lt_trichotomy slot (catchUp interval schedule.target instant) with before | same | beyond
    -- Before the next target the first call passes over the slot, and no other concerns it.
    · obtain ⟨targets, skips⟩ := count_calls_of_le positive next rest before.le
      rw [calls, List.map_cons, List.count_cons_of_ne before.ne', targets,
        List.countP_cons_of_pos, skips]
      simp [Call.skips, above, before, slotted]
    · subst same
      obtain ⟨targets, skips⟩ := count_calls_of_le positive next rest le_rfl
      rw [calls, List.map_cons, List.count_cons_self, targets, List.countP_cons_of_neg, skips]
      simp [Call.skips]
    · rw [calls, List.map_cons, List.count_cons_of_ne beyond.ne, List.countP_cons_of_neg]
      · exact once (show OnGrid start interval (advance interval schedule instant).target from next)
          beyond below
      · simp [Call.skips]
        omega

/-- A schedule started on a grid keeps it. -/
theorem keepsGrid (positive : 0 < interval) (start : ℕ) (instants : List ℕ) :
    KeepsGrid start interval (calls interval (start + interval) instants)
      (after interval (starting start interval) instants).target := by
  have on : OnGrid start interval (starting start interval).target := onGrid_starting start interval
  refine ⟨?_, isLeast_calls positive on instants, ?_⟩
  · rw [target_after, skipped_after positive on instants, length_calls]
    simp [starting]
  · intro slot slotted above below
    rcases Nat.lt_or_ge (start + interval) slot with later | first
    · rw [List.count_cons_of_ne later.ne]
      exact count_calls positive on slotted instants later below
    -- The first slot is the first target, which no call returns or passes over.
    · have same : slot = start + interval := by
        have := (onGrid_iff start interval start).mpr ⟨le_rfl, by simp⟩
        exact le_antisymm first (this.add_le slotted above)
      have slotted : OnGrid start interval (start + interval) := on
      obtain ⟨targets, skips⟩ := count_calls_of_le positive slotted instants le_rfl
      rw [same, List.count_cons_self, targets, skips]

end Schedule

end Realtime
