import Malleus.Manifest.Schema

/-! The tick rates the validator reads: digits followed by a frequency unit. -/

namespace Malleus

/-- The units a tick rate may carry, in hertz. -/
def tickUnits : List (String × ℕ) := [("Hz", 1), ("kHz", 1000), ("MHz", 1000000)]

/-- A text spells a frequency: digits and a frequency unit, apart from white space. -/
def SpellsHz (text : String) (hz : ℕ) : Prop :=
  ∃ digits unit scale, Text.Spells text digits unit ∧ (unit, scale) ∈ tickUnits
    ∧ Text.decimal digits * scale = hz

/-- A text is tight if its first and last character are not white space. -/
theorem tight_of_ends {chars : List Char} {first last : Char} (opens : chars.head? = some first)
    (closes : chars.getLast? = some last) (solid : Text.isWhiteSpace first = false)
    (solid' : Text.isWhiteSpace last = false) : Text.Tight chars := by
  -- There is only one first character, and one last.
  simp [Text.Tight, opens, closes, solid, solid']

/-- Every frequency unit can stand behind a number. -/
theorem unitText_of_mem_tickUnits {unit : String} {scale : ℕ} (listed : (unit, scale) ∈ tickUnits) :
    Text.UnitText unit := by
  simp only [tickUnits, List.mem_cons, Prod.mk.injEq, List.not_mem_nil, or_false] at listed
  rcases listed with ⟨rfl, -⟩ | ⟨rfl, -⟩ | ⟨rfl, -⟩
  · exact ⟨tight_of_ends rfl rfl (by decide) (by decide), 'H', rfl, rfl⟩
  · exact ⟨tight_of_ends rfl rfl (by decide) (by decide), 'k', rfl, rfl⟩
  · exact ⟨tight_of_ends rfl rfl (by decide) (by decide), 'M', rfl, rfl⟩

/-- A text spells at most one frequency. -/
theorem SpellsHz.unique {text : String} {hz hz' : ℕ} (spells : SpellsHz text hz)
    (spells' : SpellsHz text hz') : hz = hz' := by
  obtain ⟨digits, unit, scale, written, listed, rfl⟩ := spells
  obtain ⟨digits', unit', scale', written', listed', rfl⟩ := spells'
  obtain ⟨rfl, rfl⟩ := written.unique written' (unitText_of_mem_tickUnits listed)
    (unitText_of_mem_tickUnits listed')
  -- The three units are different texts, so each fixes its scale.
  simp only [tickUnits, List.mem_cons, Prod.mk.injEq, List.not_mem_nil, or_false] at listed listed'
  rcases listed with ⟨rfl, rfl⟩ | ⟨rfl, rfl⟩ | ⟨rfl, rfl⟩ <;> simp at listed' <;> rw [listed']

/-- A scaled frequency carries one of the three units, and its product did not overflow. -/
theorem scaleTickHz_cases {value hz : UInt64} {unit : String} (scaled : scaleTickHz value unit = some hz) :
    unit = "Hz" ∧ value = hz ∨ unit = "kHz" ∧ value.checkedMul 1000 = some hz
      ∨ unit = "MHz" ∧ value.checkedMul 1000000 = some hz := by
  -- One case for each unit of the match, and none for any other text.
  unfold scaleTickHz at scaled
  split at scaled
  · exact .inl ⟨rfl, Option.some.inj scaled⟩
  · exact .inr (.inl ⟨rfl, scaled⟩)
  · exact .inr (.inr ⟨rfl, scaled⟩)
  · cases scaled

/-- Scaling by a frequency unit is exact, and fails on overflow and on any other unit. -/
theorem scaleTickHz_eq_some {value hz : UInt64} {unit : String} :
    scaleTickHz value unit = some hz
      ↔ ∃ scale, (unit, scale) ∈ tickUnits ∧ value.toNat * scale = hz.toNat := by
  have thousand : (1000 : UInt64).toNat = 1000 := rfl
  have million : (1000000 : UInt64).toNat = 1000000 := rfl
  unfold scaleTickHz tickUnits
  -- One case per unit, and one for every other text.
  split
  · simp [UInt64.toNat_inj]
  · simp [UInt64.checkedMul_eq_some, thousand]
  · simp [UInt64.checkedMul_eq_some, million]
  · rename_i hertz kilohertz megahertz
    simp only [reduceCtorEq, false_iff, List.mem_cons, Prod.mk.injEq, List.not_mem_nil, or_false]
    intro scaled
    obtain ⟨scale, listed, -⟩ := scaled
    rcases listed with ⟨same, -⟩ | ⟨same, -⟩ | ⟨same, -⟩
    · exact hertz same
    · exact kilohertz same
    · exact megahertz same

/-- The validator reads exactly the frequencies a text spells that fit 64 bits. -/
theorem parseTickHz_eq_some {text : String} {hz : UInt64} :
    parseTickHz text = some hz ↔ SpellsHz text hz.toNat := by
  simp only [parseTickHz, Option.bind_eq_bind, Option.bind_eq_some_iff, Prod.exists,
    scaleTickHz_eq_some]
  constructor
  · intro parsed
    obtain ⟨number, rest, cut, value, numeral, scale, listed, scaled⟩ := parsed
    have shape := unitText_of_mem_tickUnits listed
    obtain ⟨digits, spells, spelled⟩ :=
      (Text.number_with_unit_iff shape value).mp ⟨number, rest, cut, numeral, rfl⟩
    exact ⟨digits, _, scale, spells, listed, by rw [spelled, scaled]⟩
  · intro spelled
    obtain ⟨digits, unit, scale, spells, listed, total⟩ := spelled
    have shape := unitText_of_mem_tickUnits listed
    -- A product that fits has its factor fit, because no unit scales by zero.
    have positive : 0 < scale := by
      simp only [tickUnits, List.mem_cons, Prod.mk.injEq, List.not_mem_nil, or_false] at listed
      omega
    have small : Text.decimal digits < 2 ^ 64 := by
      have := Nat.le_mul_of_pos_right (Text.decimal digits) positive
      have := hz.toNat_lt
      omega
    have value : (UInt64.ofNat (Text.decimal digits)).toNat = Text.decimal digits :=
      UInt64.toNat_ofNat_of_lt' small
    obtain ⟨number, rest, cut, numeral, same⟩ :=
      (Text.number_with_unit_iff shape (UInt64.ofNat (Text.decimal digits))).mpr
        ⟨digits, spells, value.symm⟩
    exact ⟨number, rest, cut, _, numeral, scale, by rw [same]; exact listed, by rw [value, total]⟩

end Malleus
