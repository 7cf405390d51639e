import Malleus.Machine.Word64
import Mathlib.Data.List.DropRight
import Mathlib.Data.List.TakeDrop
import Mathlib.Data.List.TakeWhile

/-! Text of the form digits-then-unit: trimming, splitting, and reading the number. -/

namespace Text

/-- The characters Unicode lists as white space. -/
def isWhiteSpace (c : Char) : Bool :=
  let point := c.toNat
  (9 ≤ point && point ≤ 13) || point == 32 || point == 133 || point == 160 || point == 5760
    || (8192 ≤ point && point ≤ 8202) || point == 8232 || point == 8233 || point == 8239
    || point == 8287 || point == 12288

/-- Characters without the white space they open and close with. -/
def trimChars (chars : List Char) : List Char :=
  (chars.dropWhile isWhiteSpace).rdropWhile isWhiteSpace

/-- Text without its leading and trailing white space. -/
def trim (text : String) : String :=
  String.ofList (trimChars text.toList)

/-- The digits a text opens with and the rest from the first other character on, if there is one. -/
def splitDigits (text : String) : Option (String × String) :=
  let rest := text.toList.dropWhile Char.isDigit
  if rest = [] then
    none
  else
    some (String.ofList (text.toList.takeWhile Char.isDigit), String.ofList rest)

/-- One step of reading a decimal number; a digit that makes it too large ends the reading. -/
def pushDigit (value : UInt64) (c : Char) : Option UInt64 :=
  if c.isDigit then do
    let shifted ← value.checkedMul 10
    shifted.checkedAdd (UInt64.ofNat (c.toNat - 48))
  else
    none

/-- A decimal number that fits 64 bits, with an optional plus sign before at least one digit. -/
def parseU64 (text : String) : Option UInt64 :=
  match text.toList with
  | [] => none
  | ['+'] => none
  | '+' :: digits => digits.foldlM pushDigit 0
  | digits => digits.foldlM pushDigit 0

/-- Characters that are all white space. -/
def Blank (chars : List Char) : Prop := ∀ c ∈ chars, isWhiteSpace c

/-- Characters that neither open nor close with white space. -/
def Tight (chars : List Char) : Prop :=
  (∀ c ∈ chars.head?, isWhiteSpace c = false) ∧ ∀ c ∈ chars.getLast?, isWhiteSpace c = false

/-- A text is a run of digits and a unit, with white space before, between, and after. -/
def Spells (text digits unit : String) : Prop :=
  digits ≠ "" ∧ (∀ c ∈ digits.toList, c.isDigit)
    ∧ ∃ before gap after, Blank before ∧ Blank gap ∧ Blank after
      ∧ text.toList = before ++ digits.toList ++ gap ++ unit.toList ++ after

/-- The ten digits are consecutive characters. -/
theorem digit_range {c : Char} (digit : c.isDigit) : 48 ≤ c.toNat ∧ c.toNat ≤ 57 := by
  simpa [Char.isDigit, UInt32.le_iff_toNat_le] using digit

/-- A digit is not white space. -/
theorem isWhiteSpace_of_isDigit {c : Char} (digit : c.isDigit) : isWhiteSpace c = false := by
  -- The ten digits lie between the listed ranges.
  have range := digit_range digit
  simp [isWhiteSpace]
  omega

/-- Blank characters vanish under trimming. -/
theorem trimChars_blank {chars : List Char} (blank : Blank chars) : trimChars chars = [] := by
  rw [trimChars, List.dropWhile_eq_nil_iff.mpr blank, List.rdropWhile_nil]

/-- Trimming removes exactly the white space around a tight core. -/
theorem trimChars_surrounded {before core after : List Char} (opens : Blank before)
    (tight : Tight core) (closes : Blank after) :
    trimChars (before ++ core ++ after) = core := by
  cases core with
  | nil =>
    apply trimChars_blank
    intro c listed
    rw [List.append_nil, List.mem_append] at listed
    exact listed.elim (opens c) (closes c)
  | cons first rest =>
    -- Dropping from the left stops at the first character, from the right at the last one.
    have front : isWhiteSpace first = false := tight.1 first rfl
    have left : (before ++ (first :: rest) ++ after).dropWhile isWhiteSpace
        = first :: rest ++ after := by
      rw [List.append_assoc, List.dropWhile_append_of_pos opens]
      exact List.dropWhile_cons_of_neg (by simp [front])
    have right : (first :: rest).rdropWhile isWhiteSpace = first :: rest := by
      rw [List.rdropWhile_eq_self_iff]
      intro nonempty
      simp [tight.2 _ (List.getLast?_eq_some_getLast nonempty)]
    rw [trimChars, left, List.rdropWhile, List.reverse_append,
      List.dropWhile_append_of_pos (fun c listed => closes c (List.mem_reverse.mp listed))]
    exact right

/-- A text is its trimmed core with white space around it. -/
theorem exists_trimChars (chars : List Char) :
    ∃ before after, Blank before ∧ Blank after ∧ chars = before ++ trimChars chars ++ after := by
  -- What is removed is the longest white run at either end.
  refine ⟨chars.takeWhile isWhiteSpace,
    (chars.dropWhile isWhiteSpace).rtakeWhile isWhiteSpace, ?_, ?_, ?_⟩
  · intro c listed
    exact List.mem_takeWhile_imp listed
  · intro c listed
    exact List.mem_rtakeWhile_imp listed
  · rw [List.append_assoc, trimChars, List.rdropWhile_append_rtakeWhile,
      List.takeWhile_append_dropWhile]

/-- Trimming leaves nothing of a text exactly when all of it is white space. -/
theorem trim_eq_empty_iff {text : String} : trim text = "" ↔ Blank text.toList := by
  rw [trim, ← String.toList_inj, String.toList_ofList, String.toList_empty]
  constructor
  -- What surrounds the empty rest is white space on both sides.
  · intro nothing
    obtain ⟨before, after, opens, closes, whole⟩ := exists_trimChars text.toList
    rw [nothing, List.append_nil] at whole
    intro c listed
    rw [whole, List.mem_append] at listed
    exact listed.elim (opens c) (closes c)
  · exact trimChars_blank

/-- A run of digits in front of anything else is split off whole. -/
theorem takeWhile_digits {digits rest : List Char} (numeric : ∀ c ∈ digits, c.isDigit)
    (stops : ∀ c ∈ rest.head?, c.isDigit = false) :
    (digits ++ rest).takeWhile Char.isDigit = digits
      ∧ (digits ++ rest).dropWhile Char.isDigit = rest := by
  -- The digits are all taken, and the first character behind them stops the run.
  rw [List.takeWhile_append_of_pos numeric, List.dropWhile_append_of_pos numeric]
  cases rest with
  | nil => simp
  | cons first others =>
    have other : ¬first.isDigit := by simp [stops first rfl]
    rw [List.takeWhile_cons_of_neg other, List.dropWhile_cons_of_neg other, List.append_nil]
    exact ⟨rfl, rfl⟩

/-- Splitting cuts a text into digits and a rest that does not start with a digit. -/
theorem splitDigits_eq_some {text digits rest : String} :
    splitDigits text = some (digits, rest)
      ↔ text.toList = digits.toList ++ rest.toList ∧ (∀ c ∈ digits.toList, c.isDigit)
        ∧ ∃ c ∈ rest.toList.head?, c.isDigit = false := by
  simp only [splitDigits]
  constructor
  · intro cut
    split at cut
    · simp at cut
    · rename_i nonempty
      simp only [Option.some.injEq, Prod.mk.injEq] at cut
      obtain ⟨rfl, rfl⟩ := cut
      simp only [String.toList_ofList]
      refine ⟨List.takeWhile_append_dropWhile.symm, fun c listed => List.mem_takeWhile_imp listed, ?_⟩
      -- The rest starts where the digits stopped.
      have stopped := List.head?_dropWhile_not Char.isDigit text.toList
      cases shape : text.toList.dropWhile Char.isDigit with
      | nil => exact absurd shape nonempty
      | cons first others =>
        rw [shape] at stopped
        exact ⟨first, rfl, by simpa using stopped⟩
  · intro cut
    obtain ⟨whole, numeric, first, opens, other⟩ := cut
    have stops : ∀ c ∈ rest.toList.head?, c.isDigit = false := by
      intro c opened
      rw [Option.mem_def] at opens opened
      rw [opens, Option.some.injEq] at opened
      rw [← opened, other]
    have parts := takeWhile_digits numeric stops
    have nonempty : rest.toList ≠ [] := by
      intro empty
      simp [empty] at opens
    rw [whole, parts.1, parts.2, if_neg nonempty, String.ofList_toList, String.ofList_toList]

/-- There is nothing to split off a text of digits only. -/
theorem splitDigits_eq_none {text : String} :
    splitDigits text = none ↔ ∀ c ∈ text.toList, c.isDigit := by
  simp only [splitDigits]
  constructor
  · intro whole
    split at whole
    · rename_i nothing
      exact List.dropWhile_eq_nil_iff.mp nothing
    · cases whole
  · intro numeric
    rw [if_pos (List.dropWhile_eq_nil_iff.mpr numeric)]

/-- A text, apart from white space around it, is a run of digits and a suffix no digit opens. -/
def Carries (text digits suffix : String) : Prop :=
  digits ≠ "" ∧ (∀ c ∈ digits.toList, c.isDigit) ∧ (∃ c ∈ suffix.toList.head?, c.isDigit = false)
    ∧ trim text = digits ++ suffix

/-- Splitting finds the digits and the suffix a text carries. -/
theorem splitDigits_trim_eq_some {text digits suffix : String} :
    splitDigits (trim text) = some (digits, suffix) ∧ digits ≠ "" ↔ Carries text digits suffix := by
  rw [splitDigits_eq_some, ← String.toList_append, String.toList_inj]
  unfold Carries
  tauto

/-- A text is digits only, or opens with another character, or carries digits and a suffix. -/
theorem digits_or_opens_or_carries (text : String) :
    (∀ c ∈ (trim text).toList, c.isDigit) ∨ (∃ c ∈ (trim text).toList.head?, c.isDigit = false)
      ∨ ∃ digits suffix, Carries text digits suffix := by
  cases cut : splitDigits (trim text) with
  | none => exact .inl (splitDigits_eq_none.mp cut)
  | some parts =>
    obtain ⟨digits, suffix⟩ := parts
    by_cases nonempty : digits = ""
    -- Without digits in front, the text opens where the suffix does.
    · obtain ⟨whole, -, opens⟩ := splitDigits_eq_some.mp cut
      rw [nonempty, String.toList_empty, List.nil_append] at whole
      rw [← whole] at opens
      exact .inr (.inl opens)
    · exact .inr (.inr ⟨digits, suffix, splitDigits_trim_eq_some.mp ⟨cut, nonempty⟩⟩)

/-- The unit a text is read with: it is tight and does not start with a digit. -/
structure UnitText (unit : String) : Prop where
  tight : Tight unit.toList
  opens : ∃ c ∈ unit.toList.head?, c.isDigit = false

/-- A unit has at least one character. -/
theorem UnitText.nonempty {unit : String} (shape : UnitText unit) : unit.toList ≠ [] := by
  -- An empty text has no first character.
  intro empty
  obtain ⟨first, opens, -⟩ := shape.opens
  simp [empty] at opens

/-- A run of digits, white space, and a unit neither opens nor closes with white space. -/
theorem UnitText.tight_core {unit : String} {digits gap : List Char} (shape : UnitText unit)
    (nonempty : digits ≠ []) (numeric : ∀ c ∈ digits, c.isDigit) :
    Tight (digits ++ gap ++ unit.toList) := by
  constructor
  -- The core starts with a digit, which is not white space.
  · intro c starts
    cases digits with
    | nil => exact absurd rfl nonempty
    | cons first others =>
      have same : first = c := by simpa using starts
      exact isWhiteSpace_of_isDigit (numeric c (by simp [same]))
  -- It ends with the last character of the unit, which is tight.
  · intro c ends
    apply shape.tight.2 c
    rw [Option.mem_def, List.getLast?_append] at ends
    rw [Option.mem_def, ← ends, List.getLast?_eq_some_getLast shape.nonempty]
    rfl

/-- White space in front of a unit does not start with a digit either. -/
theorem UnitText.gap_opens {unit : String} {gap : List Char} (shape : UnitText unit)
    (blank : Blank gap) : ∃ c ∈ (gap ++ unit.toList).head?, c.isDigit = false := by
  -- Behind the digits stands the gap, or the unit if there is none.
  cases gap with
  | nil => exact shape.opens
  | cons first others =>
    refine ⟨first, rfl, ?_⟩
    by_contra numeral
    have white := blank first (by simp)
    rw [isWhiteSpace_of_isDigit (by simpa using numeral)] at white
    simp at white

/-- Trimming, splitting, and trimming again recovers the number and unit a text spells. -/
theorem splitDigits_trim_iff {text digits unit : String} (shape : UnitText unit) :
    (∃ rest, splitDigits (trim text) = some (digits, rest) ∧ digits ≠ "" ∧ trim rest = unit)
      ↔ Spells text digits unit := by
  constructor
  -- Put the white space each of the two trims removed back where it stood.
  · intro parsed
    obtain ⟨rest, cut, nonempty, same⟩ := parsed
    obtain ⟨whole, numeric, -⟩ := splitDigits_eq_some.mp cut
    obtain ⟨before, after, opens, closes, outer⟩ := exists_trimChars text.toList
    obtain ⟨gap, tail, inner, trailing, middle⟩ := exists_trimChars rest.toList
    have core : trimChars text.toList = digits.toList ++ rest.toList := by
      rw [← whole, trim, String.toList_ofList]
    have unit_ : trimChars rest.toList = unit.toList := by
      rw [← same, trim, String.toList_ofList]
    refine ⟨nonempty, numeric, before, gap, tail ++ after, opens, inner, ?_, ?_⟩
    · intro c listed
      exact (List.mem_append.mp listed).elim (trailing c) (closes c)
    · rw [outer, core, middle, unit_]
      simp only [List.append_assoc]
  -- The core runs from the first digit to the last character of the unit.
  · intro spells
    obtain ⟨nonempty, numeric, before, gap, after, opens, inner, closes, whole⟩ := spells
    have tight : Tight (digits.toList ++ gap ++ unit.toList) :=
      shape.tight_core (by simpa using nonempty) numeric
    have core : (trim text).toList = digits.toList ++ (gap ++ unit.toList) := by
      rw [trim, String.toList_ofList, whole, ← List.append_assoc,
        ← trimChars_surrounded opens tight closes]
      simp only [List.append_assoc]
    have trimmed : trimChars (gap ++ unit.toList ++ []) = unit.toList :=
      trimChars_surrounded inner shape.tight (fun c listed => by simp at listed)
    refine ⟨String.ofList (gap ++ unit.toList), splitDigits_eq_some.mpr ⟨?_, numeric, ?_⟩,
      nonempty, ?_⟩
    · rw [core, String.toList_ofList]
    · rw [String.toList_ofList]
      exact shape.gap_opens inner
    · rw [List.append_nil] at trimmed
      rw [trim, String.toList_ofList, trimmed, String.ofList_toList]

/-- A text spells at most one run of digits and one unit. -/
theorem Spells.unique {text digits digits' unit unit' : String} (spells : Spells text digits unit)
    (spells' : Spells text digits' unit') (shape : UnitText unit) (shape' : UnitText unit') :
    digits = digits' ∧ unit = unit' := by
  -- Both come out of the same split of the trimmed text.
  obtain ⟨rest, cut, -, same⟩ := (splitDigits_trim_iff shape).mpr spells
  obtain ⟨rest', cut', -, same'⟩ := (splitDigits_trim_iff shape').mpr spells'
  rw [cut, Option.some.injEq, Prod.mk.injEq] at cut'
  exact ⟨cut'.1, by rw [← same, ← same', cut'.2]⟩

/-- The number a run of digits spells. -/
def decimal (digits : String) : ℕ := Nat.ofDigitChars 10 digits.toList 0

/-- Reading more digits never makes the number smaller. -/
theorem le_ofDigitChars (digits : List Char) (value : ℕ) :
    value ≤ Nat.ofDigitChars 10 digits value := by
  -- Every further digit multiplies by ten and adds.
  induction digits generalizing value with
  | nil => simp
  | cons first rest below =>
    rw [Nat.ofDigitChars_cons]
    have := below (10 * value + (first.toNat - '0'.toNat))
    omega

/-- One reading step succeeds exactly when the longer number still fits. -/
theorem pushDigit_eq_some {value next : UInt64} {c : Char} (digit : c.isDigit) :
    pushDigit value c = some next ↔ 10 * value.toNat + (c.toNat - 48) = next.toNat := by
  have range : c.toNat - 48 < 2 ^ 64 := by
    have := digit_range digit
    omega
  have converted : (UInt64.ofNat (c.toNat - 48)).toNat = c.toNat - 48 :=
    UInt64.toNat_ofNat_of_lt' range
  -- Both steps are checked, so neither the product nor the sum overflowed.
  rw [pushDigit, if_pos digit, Option.bind_eq_bind, Option.bind_eq_some_iff]
  simp only [UInt64.checkedMul_eq_some, UInt64.checkedAdd_eq_some, converted]
  constructor
  · intro pushed
    obtain ⟨shifted, product, sum⟩ := pushed
    rw [← sum, ← product]
    exact congrArg (· + _) (Nat.mul_comm _ _)
  · intro sum
    have ten : (10 : UInt64).toNat = 10 := rfl
    -- A total that fits has its parts fit.
    have small : value.toNat * 10 < 2 ^ 64 := by
      have := next.toNat_lt
      omega
    refine ⟨UInt64.ofNat (value.toNat * 10), ?_, ?_⟩
    · rw [UInt64.toNat_ofNat_of_lt' small, ten]
    · rw [UInt64.toNat_ofNat_of_lt' small, ← sum, Nat.mul_comm]

/-- Reading a run of digits yields its number exactly when the number fits. -/
theorem foldlM_pushDigit {digits : List Char} (numeric : ∀ c ∈ digits, c.isDigit)
    (start result : UInt64) :
    digits.foldlM pushDigit start = some result
      ↔ Nat.ofDigitChars 10 digits start.toNat = result.toNat := by
  induction digits generalizing start with
  | nil =>
    rw [List.foldlM_nil, Nat.ofDigitChars_nil, UInt64.toNat_inj]
    exact Option.some_inj
  | cons first rest read =>
    have digit := numeric first (by simp)
    have others : ∀ c ∈ rest, c.isDigit := fun c listed => numeric c (by simp [listed])
    rw [List.foldlM_cons, Option.bind_eq_bind, Option.bind_eq_some_iff, Nat.ofDigitChars_cons]
    constructor
    · intro read
      obtain ⟨next, step, remaining⟩ := read
      rw [pushDigit_eq_some digit] at step
      rw [← (read others next).mp remaining, ← step]
      rfl
    · intro total
      -- A number that fits has every prefix of its digits fit.
      have prefix_ : 10 * start.toNat + (first.toNat - 48) < 2 ^ 64 := by
        have := le_ofDigitChars rest (10 * start.toNat + (first.toNat - '0'.toNat))
        have := result.toNat_lt
        have : '0'.toNat = 48 := rfl
        omega
      refine ⟨UInt64.ofNat (10 * start.toNat + (first.toNat - 48)), ?_, ?_⟩
      · rw [pushDigit_eq_some digit, UInt64.toNat_ofNat_of_lt' prefix_]
      · rw [read others, UInt64.toNat_ofNat_of_lt' prefix_, ← total]
        rfl

/-- A digits-only text is read as its number exactly when it is nonempty and the number fits. -/
theorem parseU64_eq_some {digits : String} (numeric : ∀ c ∈ digits.toList, c.isDigit)
    (value : UInt64) :
    parseU64 digits = some value ↔ digits ≠ "" ∧ decimal digits = value.toNat := by
  have nonempty : digits ≠ "" ↔ digits.toList ≠ [] := by simp
  rw [nonempty, decimal, parseU64]
  -- No digit is a plus sign, so only the first and last alternatives are reachable.
  split
  · rename_i empty
    simp [empty]
  · rename_i plus
    have := numeric '+' (by simp [plus])
    simp [Char.isDigit] at this
  · rename_i rest plus
    have := numeric '+' (by simp [plus])
    simp [Char.isDigit] at this
  · rename_i present _ _
    rw [foldlM_pushDigit numeric, and_iff_right present]
    rfl

/-- Digits whose number does not fit are not read. -/
theorem parseU64_eq_none {digits : String} (nonempty : digits ≠ "")
    (numeric : ∀ c ∈ digits.toList, c.isDigit) :
    parseU64 digits = none ↔ 2 ^ 64 ≤ decimal digits := by
  rw [Option.eq_none_iff_forall_ne_some]
  simp only [ne_eq, parseU64_eq_some numeric, nonempty, not_false_eq_true, true_and]
  constructor
  · intro unread
    by_contra small
    -- A number below the limit is the value of a word.
    have value := UInt64.toNat_ofNat_of_lt' (not_le.mp small)
    exact unread _ value.symm
  · intro large word same
    have := word.toNat_lt
    omega

/-- Reading a number in front of a unit succeeds exactly on the texts that spell the two. -/
theorem number_with_unit_iff {text unit : String} (shape : UnitText unit) (value : UInt64) :
    (∃ number rest, splitDigits (trim text) = some (number, rest) ∧ parseU64 number = some value
        ∧ trim rest = unit)
      ↔ ∃ digits, Spells text digits unit ∧ decimal digits = value.toNat := by
  constructor
  · intro parsed
    -- The split leaves digits only, so the number is their value.
    obtain ⟨number, rest, cut, numeral, same⟩ := parsed
    obtain ⟨-, numeric, -⟩ := splitDigits_eq_some.mp cut
    obtain ⟨nonempty, spelled⟩ := (parseU64_eq_some numeric value).mp numeral
    exact ⟨number, (splitDigits_trim_iff shape).mp ⟨rest, cut, nonempty, same⟩, spelled⟩
  · intro parsed
    -- A spelling splits into its own digits and unit.
    obtain ⟨digits, spells, spelled⟩ := parsed
    obtain ⟨rest, cut, nonempty, same⟩ := (splitDigits_trim_iff shape).mpr spells
    obtain ⟨-, numeric, -⟩ := splitDigits_eq_some.mp cut
    exact ⟨digits, rest, cut, (parseU64_eq_some numeric value).mpr ⟨nonempty, spelled⟩, same⟩

/-- A printed natural number consists of digits. -/
theorem isDigit_repr (number : ℕ) : ∀ c ∈ (toString number).toList, c.isDigit := by
  -- A number is printed as its digits to base ten.
  intro c listed
  have digits : (toString number).toList = Nat.toDigits 10 number := Nat.toList_repr
  rw [digits] at listed
  exact Nat.isDigit_of_mem_toDigits (by omega) (by omega) listed

/-- A printed natural number tells the number. -/
theorem repr_inj {first second : ℕ} (same : toString first = toString second) : first = second := by
  -- The digits to base ten determine the number they stand for.
  have digits : Nat.toDigits 10 first = Nat.toDigits 10 second := by
    rw [← Nat.toList_repr, ← Nat.toList_repr]
    exact congrArg String.toList same
  rw [← Nat.ofDigitChars_ten_toDigits (n := first), digits, Nat.ofDigitChars_ten_toDigits]

/-- A 64-bit number is printed as the decimal digits of its value. -/
theorem toList_toString (number : UInt64) :
    (toString number).toList = Nat.toDigits 10 number.toNat := Nat.toList_repr

/-- A printed number consists of digits. -/
theorem isDigit_toString (number : UInt64) : ∀ c ∈ (toString number).toList, c.isDigit :=
  isDigit_repr number.toNat

/-- A printed number has at least one digit. -/
theorem toString_ne_empty (number : UInt64) : toString number ≠ "" := by
  intro empty
  have digits := toList_toString number
  rw [empty] at digits
  exact Nat.toDigits_ne_nil digits.symm

/-- A printed number spells its value. -/
@[simp] theorem decimal_toString (number : UInt64) : decimal (toString number) = number.toNat := by
  rw [decimal, toList_toString, Nat.ofDigitChars_ten_toDigits]

/-- A number printed in front of a unit spells the two, without white space. -/
theorem spells_toString_append (number : UInt64) (unit : String) :
    Spells (toString number ++ unit) (toString number) unit :=
  ⟨toString_ne_empty number, isDigit_toString number, [], [], [], by simp [Blank], by simp [Blank],
    by simp [Blank], by simp⟩

end Text
