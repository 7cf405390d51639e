import Malleus.Kernel.Limits
import Mathlib.Data.Nat.Bitwise
import Mathlib.Order.Bounds.Basic

/-! The scheduler's ready set: one bit per priority, a finite set with a maximum. -/

namespace Malleus

namespace Priority

/-- A priority is its level. -/
theorem toNat_injective : Function.Injective fun priority : Priority => priority.level.toNat := by
  -- The bound on a level is a proof, so only the level can differ.
  intro first second same
  have level := UInt8.toNat_inj.mp same
  cases first
  cases second
  simpa using level

/-- Priorities are compared by level. -/
instance : LinearOrder Priority :=
  LinearOrder.lift' (fun priority => priority.level.toNat) toNat_injective

/-- Levels decide whether two priorities are the same. -/
theorem decide_level (first second : Priority) :
    decide (first.level.toNat = second.level.toNat) = decide (first = second) :=
  decide_eq_decide.mpr toNat_injective.eq_iff

/-- A priority's level is accepted back. -/
@[simp] theorem new_level (priority : Priority) : Priority.new priority.level = some priority := by
  rw [Priority.new, dif_pos priority.below]

/-- The bit a priority has in a ready set. -/
def mask (priority : Priority) : UInt32 := 1 <<< priority.level.toUInt32

/-- The mask of a priority is a power of two: no level is shifted out. -/
theorem toNat_mask (priority : Priority) : priority.mask.toNat = 2 ^ priority.level.toNat := by
  have one : (1 : UInt32).toNat = 1 := rfl
  -- A level below 32 keeps the one inside the 32-bit word.
  have below : priority.level.toNat < 32 := priority.below
  have inside : 2 ^ priority.level.toNat < 2 ^ 32 := Nat.pow_lt_pow_right (by omega) below
  rw [mask, UInt32.toNat_shiftLeft, UInt8.toNat_toUInt32, one, Nat.mod_eq_of_lt below,
    Nat.one_shiftLeft, Nat.mod_eq_of_lt inside]

end Priority

/-- The set of priorities that have runnable work: bit n is set when priority n has some. -/
structure ReadySet where
  bits : UInt32
  deriving DecidableEq, Repr

namespace ReadySet

/-- An empty ready set. -/
def new : ReadySet := ⟨0⟩

/-- Mark a priority as having runnable work. -/
def insert (set : ReadySet) (priority : Priority) : ReadySet := ⟨set.bits ||| priority.mask⟩

/-- Mark a priority as having no runnable work. -/
def remove (set : ReadySet) (priority : Priority) : ReadySet := ⟨set.bits &&& ~~~priority.mask⟩

/-- Whether a priority has runnable work. -/
def contains (set : ReadySet) (priority : Priority) : Bool := set.bits &&& priority.mask ≠ 0

/-- Whether nothing at all is runnable. -/
def isEmpty (set : ReadySet) : Bool := set.bits = 0

/-- The most significant bit of a 32-bit word is one of the levels. -/
theorem log2_below (bits : UInt32) : bits.log2.toUInt8.toNat < priorityLevels := by
  have same : bits.log2.toNat = bits.toNat.log2 := rfl
  -- An empty word has logarithm zero, any other stays below its width.
  have bounded : bits.toNat.log2 < 32 := by
    by_cases zero : bits.toNat = 0
    · simp [zero]
    · exact (Nat.log2_lt zero).mpr bits.toNat_lt
  rw [UInt32.toNat_toUInt8, same, Nat.mod_eq_of_lt (by omega)]
  exact bounded

/-- The highest priority with runnable work: the most significant bit that is set. -/
def highest (set : ReadySet) : Option Priority :=
  if set.bits = 0 then none else some ⟨set.bits.log2.toUInt8, log2_below set.bits⟩

/-- A priority is contained exactly when the bit of its level is set. -/
theorem contains_eq (set : ReadySet) (priority : Priority) :
    set.contains priority = set.bits.toNat.testBit priority.level.toNat := by
  have zero : (0 : UInt32).toNat = 0 := rfl
  -- The mask leaves the one bit, moved to its place.
  have masked : (set.bits &&& priority.mask).toNat
      = (set.bits.toNat.testBit priority.level.toNat).toNat * 2 ^ priority.level.toNat := by
    rw [UInt32.toNat_and, priority.toNat_mask, Nat.and_two_pow]
  rw [contains, Bool.eq_iff_iff, decide_eq_true_iff, ne_eq, ← UInt32.toNat_inj, masked, zero]
  cases set.bits.toNat.testBit priority.level.toNat <;> simp

/-- Nothing is contained in a new set. -/
@[simp] theorem contains_new (priority : Priority) : new.contains priority = false := by
  rw [contains_eq]
  exact Nat.zero_testBit _

/-- Inserting a priority adds it and nothing else. -/
@[simp] theorem contains_insert (set : ReadySet) (priority other : Priority) :
    (set.insert priority).contains other = (set.contains other || decide (priority = other)) := by
  rw [contains_eq, contains_eq, insert, UInt32.toNat_or, priority.toNat_mask, Nat.testBit_or,
    Nat.testBit_two_pow, Priority.decide_level]

/-- Removing a priority takes it away and nothing else. -/
@[simp] theorem contains_remove (set : ReadySet) (priority other : Priority) :
    (set.remove priority).contains other = (set.contains other && !decide (priority = other)) := by
  have fits : priority.mask.toNat < 2 ^ 32 := priority.mask.toNat_lt
  have below : other.level.toNat < 32 := other.below
  -- The complement of a mask has every bit but the one of its priority.
  have complement : (~~~priority.mask).toNat = 2 ^ 32 - (priority.mask.toNat + 1) := by
    rw [UInt32.toNat_not, UInt32.size]
    omega
  rw [contains_eq, contains_eq, remove, UInt32.toNat_and, complement, Nat.testBit_and,
    Nat.testBit_two_pow_sub_succ fits, priority.toNat_mask, Nat.testBit_two_pow,
    Priority.decide_level, decide_eq_true below, Bool.true_and]

/-- Sets with the same members are the same word. -/
theorem ext_contains {first second : ReadySet}
    (same : ∀ priority, first.contains priority = second.contains priority) : first = second := by
  have bits : first.bits.toNat = second.bits.toNat := by
    apply Nat.eq_of_testBit_eq
    intro index
    rcases Nat.lt_or_ge index 32 with inside | outside
    -- Each of the 32 bits is the bit of some level.
    · have level : (UInt8.ofNat index).toNat = index := UInt8.toNat_ofNat_of_lt' (by
        have : UInt8.size = 256 := rfl
        omega)
      have agree := same ⟨UInt8.ofNat index, by rw [level]; exact inside⟩
      rw [contains_eq, contains_eq, level] at agree
      exact agree
    · have wide : 2 ^ 32 ≤ 2 ^ index := Nat.pow_le_pow_right (by omega) outside
      rw [Nat.testBit_lt_two_pow (first.bits.toNat_lt.trans_le wide),
        Nat.testBit_lt_two_pow (second.bits.toNat_lt.trans_le wide)]
  have word := UInt32.toNat_inj.mp bits
  cases first
  cases second
  rw [ReadySet.mk.injEq]
  exact word

/-- A set is empty exactly when it contains nothing. -/
theorem isEmpty_iff (set : ReadySet) :
    set.isEmpty = true ↔ ∀ priority, set.contains priority = false := by
  rw [isEmpty, decide_eq_true_iff]
  constructor
  · intro zero priority
    rw [contains_eq, zero]
    exact Nat.zero_testBit _
  -- A set is determined by what it contains, so this one is the new set.
  · intro nothing
    have same : set = new := ext_contains fun priority => by rw [nothing, contains_new]
    rw [same, new]

/-- The most significant bit of a nonzero word, as a level. -/
theorem toNat_log2_level {bits : UInt32} (nonzero : bits.toNat ≠ 0) :
    bits.log2.toUInt8.toNat = bits.toNat.log2 := by
  have small := (Nat.log2_lt nonzero).mpr bits.toNat_lt
  rw [UInt32.toNat_toUInt8]
  exact Nat.mod_eq_of_lt (show bits.toNat.log2 < 2 ^ 8 by omega)

/-- The most significant bit that is set belongs to the greatest priority contained. -/
theorem isGreatest_of_highest {set : ReadySet} {priority : Priority}
    (found : set.highest = some priority) :
    IsGreatest {other | set.contains other = true} priority := by
  rw [highest] at found
  split at found
  · cases found
  · rename_i nonzero
    cases found
    have word : set.bits.toNat ≠ 0 := fun zero => nonzero (UInt32.toNat_inj.mp zero)
    have level := toNat_log2_level word
    constructor
    · rw [Set.mem_ofPred_eq, contains_eq, level]
      exact Nat.testBit_log2 word
    -- Above the most significant bit no bit is set.
    · intro other present
      by_contra above
      have higher : set.bits.toNat.log2 < other.level.toNat := by
        rw [← level]
        exact not_le.mp above
      rw [Set.mem_ofPred_eq, contains_eq,
        Nat.testBit_lt_two_pow ((Nat.log2_lt word).mp higher)] at present
      cases present

/-- There is no highest priority exactly in the empty set. -/
theorem highest_eq_none_iff (set : ReadySet) : set.highest = none ↔ set.isEmpty = true := by
  rw [highest, isEmpty, decide_eq_true_iff]
  split <;> simp [*]

/-- The highest priority is the greatest one contained. -/
theorem highest_eq_some_iff (set : ReadySet) (priority : Priority) :
    set.highest = some priority ↔ IsGreatest {other | set.contains other = true} priority := by
  constructor
  · exact isGreatest_of_highest
  · intro greatest
    cases found : set.highest with
    | some top => rw [(isGreatest_of_highest found).unique greatest]
    | none =>
      -- An empty set does not contain the priority said to be its greatest.
      have nothing := set.isEmpty_iff.mp (set.highest_eq_none_iff.mp found) priority
      have member : set.contains priority = true := greatest.1
      rw [nothing] at member
      cases member

/-- A change to a ready set. -/
inductive Operation where
  | insert (priority : Priority)
  | remove (priority : Priority)
  deriving DecidableEq

/-- The priority an operation is about. -/
def Operation.priority : Operation → Priority
  | insert priority => priority
  | remove priority => priority

/-- The set after an operation. -/
def Operation.apply (set : ReadySet) : Operation → ReadySet
  | insert priority => set.insert priority
  | remove priority => set.remove priority

/-- The set after a sequence of operations on an empty one. -/
def run (operations : List Operation) : ReadySet := operations.foldl Operation.apply new

/-- The last operation on a priority. -/
def lastOn (priority : Priority) (operations : List Operation) : Option Operation :=
  (operations.filter fun operation => operation.priority = priority).getLast?

/-- An operation leaves every other priority alone. -/
theorem contains_apply_of_ne (set : ReadySet) {operation : Operation} {priority : Priority}
    (other : operation.priority ≠ priority) :
    (operation.apply set).contains priority = set.contains priority := by
  -- Either operation changes the bit of its own priority alone.
  cases operation with
  | insert changed =>
    have apart : changed ≠ priority := other
    rw [Operation.apply, contains_insert, decide_eq_false apart, Bool.or_false]
  | remove changed =>
    have apart : changed ≠ priority := other
    rw [Operation.apply, contains_remove, decide_eq_false apart, Bool.not_false, Bool.and_true]

/-- A priority is contained exactly when the last operation on it was an insertion. -/
theorem contains_run (operations : List Operation) (priority : Priority) :
    (run operations).contains priority = true
      ↔ lastOn priority operations = some (.insert priority) := by
  induction operations using List.reverseRecOn with
  | nil => simp [run, lastOn]
  | append_singleton before last contained =>
    rw [run, List.foldl_append, ← run, List.foldl_cons, List.foldl_nil, lastOn, List.filter_append]
    by_cases about : last.priority = priority
    -- The last operation decides about its own priority.
    · rw [List.filter_cons_of_pos (by simpa using about), List.filter_nil, List.getLast?_concat]
      subst about
      cases last <;> simp [Operation.apply, Operation.priority]
    · rw [List.filter_cons_of_neg (by simpa using about), List.filter_nil, List.append_nil, ← lastOn,
        contains_apply_of_ne _ about]
      exact contained

/-- A ready set behaves as a set of priorities with a maximum, after any sequence of operations. -/
structure SetWithMaximum (operations : List Operation) : Prop where
  membership : ∀ priority, (run operations).contains priority = true
    ↔ lastOn priority operations = some (.insert priority)
  emptiness : (run operations).isEmpty = true ↔ ∀ priority, (run operations).contains priority = false
  nothing : (run operations).highest = none ↔ (run operations).isEmpty = true
  maximum : ∀ priority, (run operations).highest = some priority
    ↔ IsGreatest {other | (run operations).contains other = true} priority
  accepted : ∀ priority, (run operations).highest = some priority →
    Priority.new priority.level = some priority
  frame : ∀ (operation : Operation) (priority : Priority), operation.priority ≠ priority →
    (operation.apply (run operations)).contains priority = (run operations).contains priority
  extensional : ∀ others : List Operation,
    (∀ priority, (run operations).contains priority = (run others).contains priority) →
      run operations = run others

/-- The bitmap is a set with a maximum, whatever was inserted and removed in whatever order. -/
theorem run_setWithMaximum (operations : List Operation) : SetWithMaximum operations where
  membership := contains_run operations
  emptiness := (run operations).isEmpty_iff
  nothing := (run operations).highest_eq_none_iff
  maximum := (run operations).highest_eq_some_iff
  accepted := fun priority _ => priority.new_level
  frame := fun _ _ other => contains_apply_of_ne _ other
  extensional := fun _ same => ext_contains same

end ReadySet

end Malleus
