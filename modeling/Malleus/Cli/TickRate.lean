import Malleus.Cli.Handoff
import Malleus.Manifest.TickRate

/-! The two readers of a tick rate: the validator's guarded products against the command's plain ones. -/

namespace Malleus

open Machine

/-- A text spells a 64-bit number of a frequency unit. -/
def SpellsRate (text : String) (value : UInt64) (scale : ℕ) : Prop :=
  ∃ digits unit, Text.Spells text digits unit ∧ (unit, scale) ∈ tickUnits
    ∧ Text.decimal digits = value.toNat

variable {text : String} {value : UInt64} {scale : ℕ}

/-- The readers cut a text that spells a rate into its number and its unit. -/
theorem spellsRate_iff :
    SpellsRate text value scale ↔
      ∃ number rest, Text.splitDigits (Text.trim text) = some (number, rest)
        ∧ Text.parseU64 number = some value ∧ (Text.trim rest, scale) ∈ tickUnits := by
  -- Both directions read the same cut, a rate through the units and back.
  constructor
  · intro spelled
    obtain ⟨digits, unit, spells, listed, same⟩ := spelled
    obtain ⟨number, rest, cut, numeral, rfl⟩ :=
      (Text.number_with_unit_iff (unitText_of_mem_tickUnits listed) value).mpr ⟨digits, spells, same⟩
    exact ⟨number, rest, cut, numeral, listed⟩
  · intro cut
    obtain ⟨number, rest, cut, numeral, listed⟩ := cut
    obtain ⟨digits, spells, same⟩ :=
      (Text.number_with_unit_iff (unitText_of_mem_tickUnits listed) value).mp
        ⟨number, rest, cut, numeral, rfl⟩
    exact ⟨digits, _, spells, listed, same⟩

/-- A rate within 64 bits is read by the validator. -/
theorem SpellsRate.guarded (spelled : SpellsRate text value scale)
    (fits : value.toNat * scale < 18446744073709551616) :
    parseTickHz text = some (UInt64.ofNat (value.toNat * scale)) := by
  -- Within the range the guarded product is the exact one.
  obtain ⟨digits, unit, spells, listed, same⟩ := spelled
  rw [parseTickHz_eq_some, UInt64.toNat_ofNat_of_lt' fits]
  exact ⟨digits, unit, scale, spells, listed, by rw [same]⟩

/-- A rate beyond 64 bits aborts the command. -/
theorem SpellsRate.aborts (spelled : SpellsRate text value scale)
    (large : 18446744073709551616 ≤ value.toNat * scale) :
    Analyze.parseTickHz text = .error .overflow := by
  obtain ⟨number, rest, cut, numeral, listed⟩ := spellsRate_iff.mp spelled
  have bound := value.toNat_lt
  simp only [tickUnits, List.mem_cons, Prod.mk.injEq, List.not_mem_nil, or_false] at listed
  -- Only a product can leave the range.
  rcases listed with ⟨-, rfl⟩ | ⟨unit, rfl⟩ | ⟨unit, rfl⟩
  · omega
  · have product : value.strictMul 1000 = .error .overflow :=
      if_neg (Nat.not_lt.mpr large)
    simp only [Analyze.parseTickHz, cut, numeral, unit, product]
    rfl
  · have product : value.strictMul 1000000 = .error .overflow :=
      if_neg (Nat.not_lt.mpr large)
    simp only [Analyze.parseTickHz, cut, numeral, unit, product]
    rfl

/-- Every other text is answered with a message. -/
theorem message_of_not_spellsRate (misspelled : ∀ value scale, ¬SpellsRate text value scale) :
    ∃ message, Analyze.parseTickHz text = .ok (.error message) := by
  cases cut : Text.splitDigits (Text.trim text) with
  | none => exact ⟨_, by simp only [Analyze.parseTickHz, cut]; rfl⟩
  | some parts =>
    obtain ⟨number, rest⟩ := parts
    cases numeral : Text.parseU64 number with
    | none => exact ⟨_, by simp only [Analyze.parseTickHz, cut, numeral]; rfl⟩
    | some value =>
      have other : ∀ scale, (Text.trim rest, scale) ∉ tickUnits := fun scale listed =>
        misspelled value scale (spellsRate_iff.mpr ⟨number, rest, cut, numeral, listed⟩)
      simp only [Analyze.parseTickHz, cut, numeral]
      -- Each listed unit would spell a rate.
      split
      · rename_i unit
        exact absurd (by simp [tickUnits, unit]) (other 1)
      · rename_i unit
        exact absurd (by simp [tickUnits, unit]) (other 1000)
      · rename_i unit
        exact absurd (by simp [tickUnits, unit]) (other 1000000)
      · exact ⟨_, rfl⟩

/--
The two readers of a tick rate agree on every text, up to how they treat a rate that does not fit.

The command reads what the validator reads. Where a rate is spelled whose product leaves the range it
aborts, and every other text it answers with a message; the validator finds no rate in either.
-/
theorem tick_rate_readers_agree (text : String) :
    (∀ hz, Analyze.parseTickHz text = .ok (.ok hz) ↔ parseTickHz text = some hz)
      ∧ ((∃ panic, Analyze.parseTickHz text = .error panic)
        ↔ ∃ value scale, SpellsRate text value scale ∧ 18446744073709551616 ≤ value.toNat * scale)
      ∧ ((∃ message, Analyze.parseTickHz text = .ok (.error message))
        ↔ ∀ value scale, ¬SpellsRate text value scale) := by
  -- The three cases are exhaustive, and each fixes how the command ends.
  have outcome : (∃ hz, parseTickHz text = some hz)
      ∨ (∃ value scale, SpellsRate text value scale ∧ 18446744073709551616 ≤ value.toNat * scale)
      ∨ ∀ value scale, ¬SpellsRate text value scale := by
    by_cases spelled : ∃ value scale, SpellsRate text value scale
    · obtain ⟨value, scale, spelled⟩ := spelled
      rcases Nat.lt_or_ge (value.toNat * scale) 18446744073709551616 with fits | large
      · exact .inl ⟨_, spelled.guarded fits⟩
      · exact .inr (.inl ⟨value, scale, spelled, large⟩)
    · exact .inr (.inr fun value scale one => spelled ⟨value, scale, one⟩)
  refine ⟨fun hz => ⟨fun read => ?_, analyze_parseTickHz⟩, ⟨fun aborted => ?_, fun large => ?_⟩,
    ⟨fun answered => ?_, message_of_not_spellsRate⟩⟩
  · rcases outcome with ⟨rate, guarded⟩ | ⟨value, scale, spelled, large⟩ | misspelled
    · rw [analyze_parseTickHz guarded, Except.ok.injEq, Except.ok.injEq] at read
      exact read ▸ guarded
    · rw [spelled.aborts large] at read
      cases read
    · obtain ⟨message, answered⟩ := message_of_not_spellsRate misspelled
      rw [answered] at read
      cases read
  · obtain ⟨panic, aborted⟩ := aborted
    rcases outcome with ⟨rate, guarded⟩ | large | misspelled
    · rw [analyze_parseTickHz guarded] at aborted
      cases aborted
    · exact large
    · obtain ⟨message, answered⟩ := message_of_not_spellsRate misspelled
      rw [answered] at aborted
      cases aborted
  · obtain ⟨value, scale, spelled, large⟩ := large
    exact ⟨_, spelled.aborts large⟩
  · obtain ⟨message, answered⟩ := answered
    rcases outcome with ⟨rate, guarded⟩ | ⟨value, scale, spelled, large⟩ | misspelled
    · rw [analyze_parseTickHz guarded] at answered
      cases answered
    · rw [spelled.aborts large] at answered
      cases answered
    · exact misspelled

end Malleus
