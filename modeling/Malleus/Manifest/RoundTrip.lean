import Malleus.Manifest.TickRate

/-! Durations and sizes as texts: what the readers accept, and that a printed value reads back. -/

namespace Malleus

/-- Every unit of a list can stand behind a number, and none scales by zero. -/
def ReadableUnits (units : List (String × UInt64)) : Prop :=
  ∀ unit scale, (unit, scale) ∈ units → Text.UnitText unit ∧ scale ≠ 0

/-- A text spells a quantity: digits and a listed unit, apart from white space. -/
def SpellsQuantity (units : List (String × UInt64)) (text : String) (quantity : ℕ) : Prop :=
  ∃ digits unit scale, Text.Spells text digits unit ∧ units.lookup unit = some scale
    ∧ Text.decimal digits * scale.toNat = quantity

/-- A unit that is looked up is listed. -/
theorem mem_of_lookup {units : List (String × UInt64)} {unit : String} {scale : UInt64}
    (found : units.lookup unit = some scale) : (unit, scale) ∈ units := by
  -- The induction is on the table; the first entry of the name is the one found.
  induction units with
  | nil => simp at found
  | cons entry rest listed =>
    rw [List.lookup_cons] at found
    split at found
    · rename_i same
      rw [eq_of_beq same, ← Option.some.inj found]
      exact List.mem_cons_self
    · exact List.mem_cons_of_mem _ (listed found)

/-- Splitting off a unit succeeds exactly on the texts that spell a number and the unit. -/
theorem splitValueUnit_eq_ok {text unit : String} (shape : Text.UnitText unit) (value : UInt64) :
    splitValueUnit text = .ok (value, unit)
      ↔ ∃ digits, Text.Spells text digits unit ∧ Text.decimal digits = value.toNat := by
  rw [← Text.number_with_unit_iff shape value, splitValueUnit]
  constructor
  · intro parsed
    split at parsed
    · cases parsed
    · rename_i number rest cut
      split at parsed
      · cases parsed
      · split at parsed
        · cases parsed
        · rename_i read numeral
          simp only [Except.ok.injEq, Prod.mk.injEq] at parsed
          exact ⟨number, rest, cut, parsed.1 ▸ numeral, parsed.2⟩
  · intro parsed
    obtain ⟨number, rest, cut, numeral, same⟩ := parsed
    -- A number that was read has at least one digit.
    have nonempty : number ≠ "" := by
      rintro rfl
      cases numeral
    simp only [cut, if_neg nonempty, numeral, same]

/-- A reader of scaled units accepts exactly the quantities a text spells that fit 64 bits. -/
theorem parseScaled_eq_ok {units : List (String × UInt64)} (readable : ReadableUnits units)
    (kind expected text : String) (quantity : UInt64) :
    parseScaled kind expected units text = .ok quantity
      ↔ SpellsQuantity units text quantity.toNat := by
  constructor
  · intro parsed
    obtain ⟨⟨value, unit⟩, cut, scaled⟩ := Machine.bind_eq_ok.mp parsed
    simp only at scaled
    split at scaled
    · cases scaled
    · rename_i multiplier found
      split at scaled
      · cases scaled
      · rename_i product fits
        cases scaled
        have shape := (readable unit multiplier (mem_of_lookup found)).1
        obtain ⟨digits, spells, spelled⟩ := (splitValueUnit_eq_ok shape value).mp cut
        rw [UInt64.checkedMul_eq_some, ← spelled] at fits
        exact ⟨digits, unit, multiplier, spells, found, fits⟩
  · intro spelled
    obtain ⟨digits, unit, scale, spells, found, total⟩ := spelled
    obtain ⟨shape, nonzero⟩ := readable unit scale (mem_of_lookup found)
    -- A product that fits has its factor fit.
    have small : Text.decimal digits < 2 ^ 64 := by
      have := Nat.le_mul_of_pos_right (Text.decimal digits) (UInt64.toNat_pos_iff.mpr nonzero)
      have := quantity.toNat_lt
      omega
    have value : (UInt64.ofNat (Text.decimal digits)).toNat = Text.decimal digits :=
      UInt64.toNat_ofNat_of_lt' small
    have cut := (splitValueUnit_eq_ok shape _).mpr ⟨digits, spells, value.symm⟩
    have fits : (UInt64.ofNat (Text.decimal digits)).checkedMul scale = some quantity := by
      rw [UInt64.checkedMul_eq_some, value, total]
    rw [parseScaled, cut, Machine.ok_bind]
    simp only [found, fits]

/-- A number printed in front of a listed unit spells the number scaled by the unit. -/
theorem spellsQuantity_toString {units : List (String × UInt64)} {unit : String} {scale : UInt64}
    (found : units.lookup unit = some scale) (count : UInt64) :
    SpellsQuantity units (toString count ++ unit) (count.toNat * scale.toNat) :=
  ⟨_, unit, scale, Text.spells_toString_append count unit, found, by rw [Text.decimal_toString]⟩

/-- A quantity that is tested to be a multiple of a listed unit is spelled by its number of units. -/
theorem spellsQuantity_of_multiple {units : List (String × UInt64)} {unit : String}
    {quantity scale : UInt64} (found : units.lookup unit = some scale)
    (tested : (decide (quantity ≥ scale) && quantity.isMultipleOf scale) = true) :
    SpellsQuantity units (toString (quantity / scale) ++ unit) quantity.toNat := by
  rw [Bool.and_eq_true] at tested
  -- A multiple loses nothing to the division by its unit.
  have whole : (quantity / scale).toNat * scale.toNat = quantity.toNat := by
    rw [UInt64.toNat_div]
    exact Nat.div_mul_cancel (UInt64.isMultipleOf_iff.mp tested.2)
  rw [← whole]
  exact spellsQuantity_toString found _

/-- A quantity in front of the unit of one is spelled as it is. -/
theorem spellsQuantity_of_one {units : List (String × UInt64)} {unit : String}
    (found : units.lookup unit = some 1) (quantity : UInt64) :
    SpellsQuantity units (toString quantity ++ unit) quantity.toNat := by
  have spelled := spellsQuantity_toString found quantity
  have one : (1 : UInt64).toNat = 1 := rfl
  -- One of a unit of one is one.
  rw [one, Nat.mul_one] at spelled
  exact spelled

/-- What a printed form owes its reader. -/
structure ReadsBack {α : Type} (parse : String → Except ParseUnitError α) (print : α → String) :
    Prop where
  back : ∀ value, parse (print value) = .ok value
  again : ∀ text value, parse text = .ok value → parse (print value) = .ok value
  alike : ∀ text text' value value', parse text = .ok value → parse text' = .ok value' →
    (print value = print value' ↔ value = value')

/-- A form that reads back tells values apart. -/
theorem readsBack_of_back {α : Type} {parse : String → Except ParseUnitError α} {print : α → String}
    (back : ∀ value, parse (print value) = .ok value) : ReadsBack parse print := by
  refine ⟨back, fun _ value _ => back value, fun _ _ value value' _ _ => ⟨?_, congrArg print⟩⟩
  -- Equal texts are read as equal values.
  intro same
  have first := back value
  rw [same, back value', Except.ok.injEq] at first
  exact first.symm

namespace Duration

/-- Every unit of a duration can be read. -/
theorem readableUnits : ReadableUnits units := by
  intro unit scale listed
  simp only [units, List.mem_cons, Prod.mk.injEq, List.not_mem_nil, or_false] at listed
  -- Each unit begins with a letter, and none has a blank at its ends.
  rcases listed with ⟨rfl, rfl⟩ | ⟨rfl, rfl⟩ | ⟨rfl, rfl⟩ | ⟨rfl, rfl⟩ | ⟨rfl, rfl⟩
  · exact ⟨⟨tight_of_ends rfl rfl rfl rfl, 'n', rfl, rfl⟩, by decide⟩
  · exact ⟨⟨tight_of_ends rfl rfl rfl rfl, 'u', rfl, rfl⟩, by decide⟩
  · exact ⟨⟨tight_of_ends rfl rfl rfl rfl, 'µ', rfl, rfl⟩, by decide⟩
  · exact ⟨⟨tight_of_ends rfl rfl rfl rfl, 'm', rfl, rfl⟩, by decide⟩
  · exact ⟨⟨tight_of_ends rfl rfl rfl rfl, 's', rfl, rfl⟩, by decide⟩

/-- A text is a duration exactly when it spells its nanoseconds. -/
theorem fromStr_eq_ok {text : String} {duration : Duration} :
    fromStr text = .ok duration ↔ SpellsQuantity units text duration.nanos.toNat := by
  rw [← parseScaled_eq_ok readableUnits "duration" "ns, us, ms, s", fromStr]
  -- A duration is the scaled number of nanoseconds, in a record.
  cases parseScaled "duration" "ns, us, ms, s" units text with
  | error failure => simp [Except.map]
  | ok quantity =>
    obtain ⟨nanos⟩ := duration
    simp [Except.map]

/-- A printed duration spells its nanoseconds, in the largest unit it is a whole number of. -/
theorem spellsQuantity_display (duration : Duration) :
    SpellsQuantity units duration.display duration.nanos.toNat := by
  -- One case for each unit, from the largest to the smallest.
  unfold display
  simp only
  split
  · rename_i seconds
    exact spellsQuantity_of_multiple rfl seconds
  · split
    · rename_i millis
      exact spellsQuantity_of_multiple rfl millis
    · split
      · rename_i micros
        exact spellsQuantity_of_multiple rfl micros
      · exact spellsQuantity_of_one rfl duration.nanos

end Duration

namespace ByteSize

/-- Every unit of a size can be read. -/
theorem readableUnits : ReadableUnits units := by
  intro unit scale listed
  simp only [units, List.mem_cons, Prod.mk.injEq, List.not_mem_nil, or_false] at listed
  -- Each unit begins with a letter, and none has a blank at its ends.
  rcases listed with ⟨rfl, rfl⟩ | ⟨rfl, rfl⟩ | ⟨rfl, rfl⟩
  · exact ⟨⟨tight_of_ends rfl rfl rfl rfl, 'B', rfl, rfl⟩, by decide⟩
  · exact ⟨⟨tight_of_ends rfl rfl rfl rfl, 'K', rfl, rfl⟩, by decide⟩
  · exact ⟨⟨tight_of_ends rfl rfl rfl rfl, 'M', rfl, rfl⟩, by decide⟩

/-- A text is a size exactly when it spells its bytes. -/
theorem fromStr_eq_ok {text : String} {size : ByteSize} :
    fromStr text = .ok size ↔ SpellsQuantity units text size.bytes.toNat := by
  rw [← parseScaled_eq_ok readableUnits "size" "B, KiB, MiB", fromStr]
  -- A size is the scaled number of bytes, in a record.
  cases parseScaled "size" "B, KiB, MiB" units text with
  | error failure => simp [Except.map]
  | ok quantity =>
    obtain ⟨bytes⟩ := size
    simp [Except.map]

/-- A printed size spells its bytes, in the largest unit it is a whole number of. -/
theorem spellsQuantity_display (size : ByteSize) :
    SpellsQuantity units size.display size.bytes.toNat := by
  -- One case for each unit, from the largest to the smallest.
  unfold display
  simp only
  split
  · rename_i mebibytes
    exact spellsQuantity_of_multiple rfl mebibytes
  · split
    · rename_i kibibytes
      exact spellsQuantity_of_multiple rfl kibibytes
    · exact spellsQuantity_of_one rfl size.bytes

end ByteSize

/-- Printed durations and sizes read back, every one of them. -/
theorem printed_units_read_back :
    ReadsBack Duration.fromStr Duration.display ∧ ReadsBack ByteSize.fromStr ByteSize.display :=
  ⟨readsBack_of_back fun duration => Duration.fromStr_eq_ok.mpr duration.spellsQuantity_display,
    readsBack_of_back fun size => ByteSize.fromStr_eq_ok.mpr size.spellsQuantity_display⟩

example : Duration.display ⟨1500000⟩ = "1500us" := by decide

end Malleus
