import Malleus.Manifest.RoundTrip

/-! The grammar of durations and sizes: each text spells a quantity or has the one error of its class. -/

namespace Malleus

/-- How a text is read: the quantity it spells, or what is wrong with it. -/
inductive Reads (units : List (String × UInt64)) (kind expected text : String) :
    Except ParseUnitError ℕ → Prop where
  | quantity {quantity : ℕ} (spelled : SpellsQuantity units text quantity)
    (fits : quantity < 2 ^ 64) : Reads units kind expected text (.ok quantity)
  | missingUnit (numeric : ∀ c ∈ (Text.trim text).toList, c.isDigit) :
    Reads units kind expected text (.error (.missingUnit (Text.trim text)))
  | missingNumber (opens : ∃ c ∈ (Text.trim text).toList.head?, c.isDigit = false) :
    Reads units kind expected text (.error (.missingNumber (Text.trim text)))
  | unknownUnit {digits suffix : String} (carried : Text.Carries text digits suffix)
    (fits : Text.decimal digits < 2 ^ 64) (unknown : units.lookup (Text.trim suffix) = none) :
    Reads units kind expected text (.error (.unknownUnit (Text.trim suffix) kind expected))
  -- A number too large is an overflow whatever its suffix is.
  | largeNumber {digits suffix : String} (carried : Text.Carries text digits suffix)
    (large : 2 ^ 64 ≤ Text.decimal digits) :
    Reads units kind expected text (.error (.overflow (Text.trim text)))
  | largeProduct {digits suffix : String} {scale : UInt64} (carried : Text.Carries text digits suffix)
    (fits : Text.decimal digits < 2 ^ 64) (found : units.lookup (Text.trim suffix) = some scale)
    (large : 2 ^ 64 ≤ Text.decimal digits * scale.toNat) :
    Reads units kind expected text (.error (.overflow text))

/-- A text of digits only, after trimming, has no unit. -/
theorem splitValueUnit_of_numeric {text : String}
    (numeric : ∀ c ∈ (Text.trim text).toList, c.isDigit) :
    splitValueUnit text = .error (.missingUnit (Text.trim text)) := by
  simp only [splitValueUnit, Text.splitDigits_eq_none.mpr numeric]

/-- A text that opens with another character has no number. -/
theorem splitValueUnit_of_opens {text : String}
    (opens : ∃ c ∈ (Text.trim text).toList.head?, c.isDigit = false) :
    splitValueUnit text = .error (.missingNumber (Text.trim text)) := by
  -- The cut is in front of the first character, so the number is empty.
  have cut : Text.splitDigits (Text.trim text) = some ("", Text.trim text) :=
    Text.splitDigits_eq_some.mpr ⟨by simp, by simp, opens⟩
  simp only [splitValueUnit, cut, if_true]

/-- A text whose number fits splits into the number and the unit it carries. -/
theorem splitValueUnit_of_fits {text digits suffix : String}
    (carried : Text.Carries text digits suffix) (fits : Text.decimal digits < 2 ^ 64) :
    splitValueUnit text = .ok (UInt64.ofNat (Text.decimal digits), Text.trim suffix) := by
  obtain ⟨cut, nonempty⟩ := Text.splitDigits_trim_eq_some.mpr carried
  have value : (UInt64.ofNat (Text.decimal digits)).toNat = Text.decimal digits :=
    UInt64.toNat_ofNat_of_lt' fits
  -- Digits whose value fits are read as that value.
  have read := (Text.parseU64_eq_some carried.2.1 _).mpr ⟨nonempty, value.symm⟩
  simp only [splitValueUnit, cut, if_neg nonempty, read]

/-- A number too large is an overflow of the whole text. -/
theorem splitValueUnit_of_large {text digits suffix : String}
    (carried : Text.Carries text digits suffix) (large : 2 ^ 64 ≤ Text.decimal digits) :
    splitValueUnit text = .error (.overflow (Text.trim text)) := by
  obtain ⟨cut, nonempty⟩ := Text.splitDigits_trim_eq_some.mpr carried
  have unread := (Text.parseU64_eq_none nonempty carried.2.1).mpr large
  simp only [splitValueUnit, cut, if_neg nonempty, unread]

section Reader

variable {units : List (String × UInt64)} {kind expected text : String}

/-- A failed split is the failure of the reader. -/
theorem parseScaled_of_error {failure : ParseUnitError}
    (failed : splitValueUnit text = .error failure) :
    parseScaled kind expected units text = .error failure := by
  rw [parseScaled, failed, Machine.error_bind]

/-- A unit that is not listed is unknown. -/
theorem parseScaled_of_unknown {digits suffix : String} (carried : Text.Carries text digits suffix)
    (fits : Text.decimal digits < 2 ^ 64) (unknown : units.lookup (Text.trim suffix) = none) :
    parseScaled kind expected units text
      = .error (.unknownUnit (Text.trim suffix) kind expected) := by
  rw [parseScaled, splitValueUnit_of_fits carried fits, Machine.ok_bind]
  simp only [unknown]

/-- A product too large is an overflow of the text as it was given. -/
theorem parseScaled_of_largeProduct {digits suffix : String} {scale : UInt64}
    (carried : Text.Carries text digits suffix) (fits : Text.decimal digits < 2 ^ 64)
    (found : units.lookup (Text.trim suffix) = some scale)
    (large : 2 ^ 64 ≤ Text.decimal digits * scale.toNat) :
    parseScaled kind expected units text = .error (.overflow text) := by
  -- The number fits and is read, so the error is the one of the checked product.
  have value : (UInt64.ofNat (Text.decimal digits)).toNat = Text.decimal digits :=
    UInt64.toNat_ofNat_of_lt' fits
  have unfit : (UInt64.ofNat (Text.decimal digits)).checkedMul scale = none := by
    rw [UInt64.checkedMul, value, if_neg (not_lt.mpr large)]
  rw [parseScaled, splitValueUnit_of_fits carried fits, Machine.ok_bind]
  simp only [found, unfit]

/-- A quantity in range is what its text is read as. -/
theorem parseScaled_of_spells (readable : ReadableUnits units) {quantity : ℕ}
    (spelled : SpellsQuantity units text quantity) (fits : quantity < 2 ^ 64) :
    (parseScaled kind expected units text).map UInt64.toNat = .ok quantity := by
  have value : (UInt64.ofNat quantity).toNat = quantity := UInt64.toNat_ofNat_of_lt' fits
  rw [(parseScaled_eq_ok readable kind expected text _).mpr (by rw [value]; exact spelled),
    Except.map, value]

/-- A text that carries digits and a listed unit spells the product. -/
theorem spellsQuantity_of_carries (readable : ReadableUnits units) {digits suffix : String}
    {scale : UInt64} (carried : Text.Carries text digits suffix)
    (found : units.lookup (Text.trim suffix) = some scale) :
    SpellsQuantity units text (Text.decimal digits * scale.toNat) := by
  obtain ⟨cut, nonempty⟩ := Text.splitDigits_trim_eq_some.mpr carried
  have shape := (readable _ scale (mem_of_lookup found)).1
  exact ⟨digits, _, scale, (Text.splitDigits_trim_iff shape).mp ⟨suffix, cut, nonempty, rfl⟩,
    found, rfl⟩

end Reader

/-- The grammar says of every text how the reader reads it. -/
theorem parseScaled_iff_reads {units : List (String × UInt64)} (readable : ReadableUnits units)
    (kind expected text : String) (result : Except ParseUnitError ℕ) :
    (parseScaled kind expected units text).map UInt64.toNat = result
      ↔ Reads units kind expected text result := by
  constructor
  · rintro rfl
    -- The classes are tried in the order in which the reader fails.
    rcases Text.digits_or_opens_or_carries text with numeric | opens | ⟨digits, suffix, carried⟩
    · rw [parseScaled_of_error (splitValueUnit_of_numeric numeric)]
      exact .missingUnit numeric
    · rw [parseScaled_of_error (splitValueUnit_of_opens opens)]
      exact .missingNumber opens
    rcases Nat.lt_or_ge (Text.decimal digits) (2 ^ 64) with fits | large
    · cases found : units.lookup (Text.trim suffix) with
      | none =>
        rw [parseScaled_of_unknown carried fits found]
        exact .unknownUnit carried fits found
      | some scale =>
        rcases Nat.lt_or_ge (Text.decimal digits * scale.toNat) (2 ^ 64) with small | wide
        · have spelled := spellsQuantity_of_carries readable carried found
          rw [parseScaled_of_spells readable spelled small]
          exact .quantity spelled small
        · rw [parseScaled_of_largeProduct carried fits found wide]
          exact .largeProduct carried fits found wide
    · rw [parseScaled_of_error (splitValueUnit_of_large carried large)]
      exact .largeNumber carried large
  -- Each class fixes the cut and the numbers, so the reader can only answer what it owes.
  · intro read
    cases read with
    | quantity spelled fits => exact parseScaled_of_spells readable spelled fits
    | missingUnit numeric => rw [parseScaled_of_error (splitValueUnit_of_numeric numeric)]; rfl
    | missingNumber opens => rw [parseScaled_of_error (splitValueUnit_of_opens opens)]; rfl
    | unknownUnit carried fits unknown => rw [parseScaled_of_unknown carried fits unknown]; rfl
    | largeNumber carried large =>
      rw [parseScaled_of_error (splitValueUnit_of_large carried large)]
      rfl
    | largeProduct carried fits found large =>
      rw [parseScaled_of_largeProduct carried fits found large]
      rfl

/--
The unit parsers accept exactly their grammar.

Every text is read as the quantity it spells, or has the error of its class and no other.
-/
theorem unit_parsers_accept_grammar (text : String) :
    (∀ result, (Duration.fromStr text).map (fun duration => duration.asNanos.toNat) = result
      ↔ Reads [("ns", 1), ("us", 1000), ("µs", 1000), ("ms", 1000000), ("s", 1000000000)]
        "duration" "ns, us, ms, s" text result)
    ∧ ∀ result, (ByteSize.fromStr text).map (fun size => size.asBytes.toNat) = result
      ↔ Reads [("B", 1), ("KiB", 1024), ("MiB", 1048576)] "size" "B, KiB, MiB" text result := by
  -- A duration is its nanoseconds, and a size its bytes.
  have nanos : (Duration.fromStr text).map (fun duration => duration.asNanos.toNat)
      = (parseScaled "duration" "ns, us, ms, s" Duration.units text).map UInt64.toNat := by
    rw [Duration.fromStr]
    cases parseScaled "duration" "ns, us, ms, s" Duration.units text <;> rfl
  have bytes : (ByteSize.fromStr text).map (fun size => size.asBytes.toNat)
      = (parseScaled "size" "B, KiB, MiB" ByteSize.units text).map UInt64.toNat := by
    rw [ByteSize.fromStr]
    cases parseScaled "size" "B, KiB, MiB" ByteSize.units text <;> rfl
  rw [nanos, bytes]
  exact ⟨parseScaled_iff_reads Duration.readableUnits _ _ text,
    parseScaled_iff_reads ByteSize.readableUnits _ _ text⟩

end Malleus
