import Mathlib.Algebra.Ring.Nat
import Mathlib.Logic.Function.Basic

/-! Word-addressed memory of a 32-bit machine, and blocks of consecutive words. -/

namespace Machine

/-- Memory as the word at each word-aligned address. -/
abbrev Memory := UInt32 → UInt32

namespace Memory

/-- The address of a word of the block at a base. -/
def wordAddress (base : UInt32) (index : Nat) : UInt32 := base + UInt32.ofNat (4 * index)

@[simp] theorem wordAddress_zero (base : UInt32) : wordAddress base 0 = base := by
  simp [wordAddress]

/-- The next word of a block is the first word of the block one word on. -/
theorem wordAddress_succ (base : UInt32) (index : Nat) :
    wordAddress base (index + 1) = wordAddress (base + 4) index := by
  -- Four bytes on, wrapping at the end of memory as the address itself does.
  rw [wordAddress, wordAddress, ← UInt32.toNat_inj]
  simp only [UInt32.toNat_add, UInt32.toNat_ofNat', UInt32.reduceToNat]
  omega

/-- The word behind a word of a block is four bytes on. -/
theorem wordAddress_add_four (base : UInt32) (index : Nat) :
    wordAddress base index + 4 = wordAddress base (index + 1) := by
  rw [wordAddress_succ, wordAddress, wordAddress, UInt32.add_assoc, UInt32.add_assoc,
    UInt32.add_comm 4]

/-- A block behind some words of another block starts at the next word of it. -/
theorem wordAddress_add (base : UInt32) (skipped index : Nat) :
    wordAddress base (skipped + index) = wordAddress (wordAddress base skipped) index := by
  -- Both sides add the same multiple of four, wrapping at the end of memory.
  rw [wordAddress, wordAddress, wordAddress, ← UInt32.toNat_inj]
  simp only [UInt32.toNat_add, UInt32.toNat_ofNat']
  omega

/-- Different words of a block no longer than memory have different addresses. -/
theorem wordAddress_inj {base : UInt32} {first second : Nat} (below : first < 2 ^ 30)
    (below' : second < 2 ^ 30) (same : wordAddress base first = wordAddress base second) :
    first = second := by
  -- Offsets below the size of memory do not wrap onto each other.
  rw [wordAddress, wordAddress, ← UInt32.toNat_inj] at same
  simp only [UInt32.toNat_add, UInt32.toNat_ofNat'] at same
  have bounded := base.toNat_lt
  omega

/-- Store consecutive words, the first at the base. -/
def storeWords (memory : Memory) (base : UInt32) : List UInt32 → Memory
  | [] => memory
  | word :: rest => storeWords (Function.update memory base word) (base + 4) rest

/-- The words of a block. -/
def loadWords (memory : Memory) (base : UInt32) (count : Nat) : List UInt32 :=
  (List.range count).map fun index => memory (wordAddress base index)

/-- An address that is no word of a block keeps its word when the block is stored. -/
theorem storeWords_of_outside (memory : Memory) {base address : UInt32} {words : List UInt32}
    (outside : ∀ index < words.length, address ≠ wordAddress base index) :
    memory.storeWords base words address = memory address := by
  induction words generalizing memory base with
  | nil => rfl
  | cons word rest others =>
    have first : address ≠ base := by
      have apart := outside 0 (by simp)
      simpa [wordAddress] using apart
    -- The rest of the words form the block one word on.
    have later : ∀ index < rest.length, address ≠ wordAddress (base + 4) index := by
      intro index within
      rw [← wordAddress_succ]
      exact outside (index + 1) (by simpa using within)
    rw [storeWords, others _ later, Function.update_of_ne first]

/-- A stored word is read back. -/
theorem storeWords_wordAddress (memory : Memory) (base : UInt32) {words : List UInt32}
    (fits : words.length ≤ 2 ^ 30) {index : Nat} (within : index < words.length) :
    memory.storeWords base words (wordAddress base index) = words[index] := by
  induction words generalizing memory base index with
  | nil => cases within
  | cons word rest stored =>
    rw [List.length_cons] at fits within
    cases index with
    | zero =>
      -- Later words of the block do not wrap onto the first one.
      have kept : ∀ index < rest.length, wordAddress base 0 ≠ wordAddress (base + 4) index := by
        intro index below same
        rw [← wordAddress_succ] at same
        have zero := wordAddress_inj (by omega) (by omega) same
        omega
      rw [storeWords, storeWords_of_outside _ kept, wordAddress_zero, Function.update_self]
      rfl
    | succ index =>
      rw [storeWords, wordAddress_succ, stored _ _ (by omega) (by omega)]
      rfl

/-- A stored block is read back. -/
theorem loadWords_storeWords (memory : Memory) (base : UInt32) {words : List UInt32}
    (fits : words.length ≤ 2 ^ 30) :
    (memory.storeWords base words).loadWords base words.length = words := by
  -- The block is compared word by word.
  apply List.ext_getElem
  · simp [loadWords]
  · intro index _ within
    simp only [loadWords, List.getElem_map, List.getElem_range]
    exact storeWords_wordAddress memory base fits within

/-- The words behind the first few of a block. -/
theorem drop_loadWords (memory : Memory) (base : UInt32) (skipped count : Nat) :
    (memory.loadWords base (skipped + count)).drop skipped
      = memory.loadWords (wordAddress base skipped) count := by
  -- Dropping words moves the base on by as many.
  apply List.ext_getElem
  · simp [loadWords]
  · intro index _ within
    simp only [loadWords, List.getElem_drop, List.getElem_map, List.getElem_range, wordAddress_add]

/-- The first words of a block. -/
theorem take_loadWords (memory : Memory) (base : UInt32) (count rest : Nat) :
    (memory.loadWords base (count + rest)).take count = memory.loadWords base count := by
  -- Both lists read the same addresses, the first of them only so far.
  apply List.ext_getElem
  · simp [loadWords]
  · intro index _ within
    simp only [loadWords, List.getElem_take, List.getElem_map, List.getElem_range]

/-- A block that ends within memory does not wrap. -/
theorem toNat_wordAddress {base : UInt32} {index : Nat} (fits : base.toNat + 4 * index < 2 ^ 32) :
    (wordAddress base index).toNat = base.toNat + 4 * index := by
  rw [wordAddress, UInt32.toNat_add, UInt32.toNat_ofNat']
  omega

/-- Storing one more word behind a block changes that word alone. -/
theorem storeWords_concat (memory : Memory) (base : UInt32) (words : List UInt32) (word : UInt32) :
    memory.storeWords base (words ++ [word])
      = Function.update (memory.storeWords base words) (wordAddress base words.length) word := by
  -- By induction on the block: the first word is stored either way, and the rest starts behind it.
  induction words generalizing memory base with
  | nil => simp [storeWords, wordAddress]
  | cons first rest stored =>
    rw [List.cons_append, storeWords, storeWords, stored, List.length_cons, wordAddress_succ]

/-- One more word of a block is the word behind it. -/
theorem loadWords_succ (memory : Memory) (base : UInt32) (count : Nat) :
    memory.loadWords base (count + 1)
      = memory.loadWords base count ++ [memory (wordAddress base count)] := by
  simp [loadWords, List.range_succ]

@[simp] theorem getElem_loadWords (memory : Memory) (base : UInt32) {count index : Nat}
    (within : index < (memory.loadWords base count).length) :
    (memory.loadWords base count)[index] = memory (wordAddress base index) := by
  simp [loadWords]

@[simp] theorem length_loadWords (memory : Memory) (base : UInt32) (count : Nat) :
    (memory.loadWords base count).length = count := by
  simp [loadWords]

end Memory

/-- A stretch of memory from its first address up to the one behind its last. -/
structure Region where
  start : UInt32
  stop : UInt32
  deriving DecidableEq, Repr

namespace Region

/-- An address lies in the region. -/
def Contains (region : Region) (address : UInt32) : Prop :=
  region.start ≤ address ∧ address < region.stop

instance (region : Region) (address : UInt32) : Decidable (region.Contains address) :=
  inferInstanceAs (Decidable (_ ∧ _))

/-- The region consists of whole words. -/
structure Whole (region : Region) : Prop where
  ordered : region.start ≤ region.stop
  aligned : region.start.toNat % 4 = 0
  whole : (region.stop.toNat - region.start.toNat) % 4 = 0

/-- No address lies in both regions. -/
def Apart (first second : Region) : Prop :=
  ∀ address, first.Contains address → ¬second.Contains address

/-- How many words fit in the region. -/
def words (region : Region) : Nat := (region.stop.toNat - region.start.toNat) / 4

variable {region : Region}

/-- No region has more words than memory. -/
theorem words_le (region : Region) : region.words ≤ 2 ^ 30 := by
  have bounded := region.stop.toNat_lt
  unfold words
  omega

/-- A region that ends before another starts shares no address with it. -/
theorem apart_of_le {first second : Region} (ends : first.stop ≤ second.start) :
    first.Apart second := by
  intro address inFirst inSecond
  exact UInt32.lt_irrefl _ (UInt32.lt_of_lt_of_le inFirst.2 (UInt32.le_trans ends inSecond.1))

/-- The words of a region follow its start without wrapping. -/
theorem toNat_wordAddress (whole : region.Whole) {index : Nat} (within : index ≤ region.words) :
    (Memory.wordAddress region.start index).toNat = region.start.toNat + 4 * index := by
  -- Every word starts at or below the end, which is an address itself.
  have ordered := UInt32.le_iff_toNat_le.mp whole.ordered
  have bounded := region.stop.toNat_lt
  unfold words at within
  exact Memory.toNat_wordAddress (by omega)

/-- Behind the last word of a region lies its end. -/
theorem wordAddress_words (whole : region.Whole) :
    Memory.wordAddress region.start region.words = region.stop := by
  have ordered := UInt32.le_iff_toNat_le.mp whole.ordered
  have full := whole.whole
  rw [← UInt32.toNat_inj, toNat_wordAddress whole le_rfl, words]
  omega

/-- The words of a region lie in it. -/
theorem contains_wordAddress (whole : region.Whole) {index : Nat} (within : index < region.words) :
    region.Contains (Memory.wordAddress region.start index) := by
  have located := toNat_wordAddress whole (Nat.le_of_lt within)
  unfold words at within
  constructor
  · rw [UInt32.le_iff_toNat_le]
    omega
  · rw [UInt32.lt_iff_toNat_lt]
    omega

/-- A word address in a region is the address of one of its words. -/
theorem exists_wordAddress (whole : region.Whole) {address : UInt32}
    (inside : region.Contains address) (aligned : address.toNat % 4 = 0) :
    ∃ index < region.words, address = Memory.wordAddress region.start index := by
  have lower := UInt32.le_iff_toNat_le.mp inside.1
  have upper := UInt32.lt_iff_toNat_lt.mp inside.2
  have first := whole.aligned
  have full := whole.whole
  -- The distance from the start is a multiple of four short of the size.
  have within : (address.toNat - region.start.toNat) / 4 < region.words := by
    unfold words
    omega
  refine ⟨(address.toNat - region.start.toNat) / 4, within, ?_⟩
  rw [← UInt32.toNat_inj, toNat_wordAddress whole (Nat.le_of_lt within)]
  omega

/-- Of the words of a region, only the one at its end is not below it. -/
theorem stop_le_wordAddress_iff (whole : region.Whole) {index : Nat}
    (within : index ≤ region.words) :
    region.stop ≤ Memory.wordAddress region.start index ↔ index = region.words := by
  -- The end is the address of the word behind the last.
  have located := toNat_wordAddress whole within
  have last := toNat_wordAddress whole le_rfl
  rw [wordAddress_words whole] at last
  rw [UInt32.le_iff_toNat_le]
  omega

end Region

end Machine
