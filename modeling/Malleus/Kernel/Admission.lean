import Malleus.Kernel.Limits
import Malleus.Manifest.Acceptance

/-! Which validated manifests the kernel's bounded types can hold. -/

namespace Malleus

open Machine

/-- A system the kernel's types can hold: every index, priority, capacity, and the tick rate. -/
structure KernelHolds (manifest : Manifest) : Prop where
  task_index : ∀ index < manifest.tasks.length,
    ∃ raw : UInt8, raw.toNat = index ∧ (TaskId.new raw).isSome
  priority : ∀ task ∈ manifest.tasks, (Priority.new task.priority).isSome
  capacity : ∀ channel ∈ manifest.channels, ∃ capacity, Capacity.new channel.capacity = .ok capacity
  tick_rate : ∃ hz, parseTickHz manifest.system.tickRate = some hz
    ∧ ∃ raw : UInt32, raw.toNat = hz.toNat ∧ ∃ rate, TickRate.fromHz raw = .ok rate

/-- Every task index fits exactly when the tables are large enough. -/
theorem task_index_iff (count : ℕ) :
    (∀ index < count, ∃ raw : UInt8, raw.toNat = index ∧ (TaskId.new raw).isSome) ↔ count ≤ 64 := by
  constructor
  · intro fits
    -- The first index past the tables would have to be a task.
    by_contra large
    obtain ⟨raw, same, task⟩ := fits 64 (by omega)
    rw [TaskId.new_isSome, same] at task
    omega
  · intro small index below
    have value : (UInt8.ofNat index).toNat = index := UInt8.toNat_ofNat_of_lt' (show index < 256 by omega)
    exact ⟨UInt8.ofNat index, value, by rw [TaskId.new_isSome, value]; omega⟩

/-- A frequency is representable exactly when it is positive and fits 32 bits. -/
theorem tick_rate_iff (hz : UInt64) :
    (∃ raw : UInt32, raw.toNat = hz.toNat ∧ ∃ rate, TickRate.fromHz raw = .ok rate)
      ↔ hz ≠ 0 ∧ hz.toNat < 2 ^ 32 := by
  simp only [TickRate.fromHz_eq_ok, ← UInt64.toNat_pos_iff]
  constructor
  · intro fits
    obtain ⟨raw, same, nonzero⟩ := fits
    -- A nonzero 32-bit frequency has the same value as the given one.
    have positive : raw.toNat ≠ 0 := fun zero => nonzero (UInt32.toNat_inj.mp zero)
    have := raw.toNat_lt
    omega
  · intro fits
    obtain ⟨positive, small⟩ := fits
    -- The value fits 32 bits, so it is not reduced.
    have value : (UInt32.ofNat hz.toNat).toNat = hz.toNat := UInt32.toNat_ofNat_of_lt' small
    refine ⟨UInt32.ofNat hz.toNat, value, ?_⟩
    intro zero
    rw [zero] at value
    have : (0 : UInt32).toNat = 0 := rfl
    omega

/-- Of the manifests the validator accepts, the kernel holds exactly those with at most as many
tasks as its tables and a tick rate that fits 32 bits; every priority and capacity fits anyway. -/
theorem kernelHolds_iff {manifest : Manifest} {order : HashOrder} {report : ValidationReport}
    (completed : manifest.validate order = .ok report) (accepted : report.isOk = true) :
    KernelHolds manifest
      ↔ manifest.tasks.length ≤ 64 ∧ ∀ hz, SpellsHz manifest.system.tickRate hz → hz < 2 ^ 32 := by
  have formed := (isOk_iff_wellFormed completed).mp accepted
  obtain ⟨hz, parsed, nonzero⟩ := (exists_parseTickHz_iff _).mpr formed.tick_rate
  have spelled := parseTickHz_eq_some.mp parsed
  constructor
  · intro holds
    -- A text spells one frequency only, the one the kernel was given.
    refine ⟨(task_index_iff _).mp holds.task_index, ?_⟩
    intro value spells
    obtain ⟨hz', parsed', fits⟩ := holds.tick_rate
    rw [spells.unique (parseTickHz_eq_some.mp parsed')]
    exact ((tick_rate_iff hz').mp fits).2
  · intro bounds
    refine ⟨(task_index_iff _).mpr bounds.1, ?_, ?_, ?_⟩
    -- The validator's range of priorities lies inside the kernel's.
    · intro task listed
      rw [Priority.new_isSome]
      have below := (formed.priority_range task listed).2
      rw [UInt8.le_iff_toNat_le] at below
      exact Nat.lt_succ_of_le below
    -- The validator refuses a capacity of zero.
    · intro channel declared
      rw [Capacity.new_eq_ok]
      intro zero
      have positive := (formed.channel channel declared).capacity_pos
      rw [zero] at positive
      exact absurd positive (by decide)
    · exact ⟨hz, parsed, (tick_rate_iff hz).mpr ⟨nonzero, bounds.2 _ spelled⟩⟩

/-- A task the validator has nothing to say against. -/
def plainTask (name : String) : Task := ⟨name, 7, "2KiB", none, none, none, []⟩

/-- One task more than the kernel's tables hold. -/
def crowdedManifest : Manifest where
  system := ⟨"1MHz"⟩
  tasks := (List.range 65).map fun index => plainTask (toString index)
  channels := []

/-- A clock faster than 32 bits of hertz can express. -/
def fastManifest : Manifest where
  system := ⟨"5000MHz"⟩
  tasks := [plainTask "control"]
  channels := []

/-- Both manifests validate without any finding, and the kernel can hold neither. -/
theorem accepted_beyond_kernel :
    (crowdedManifest.validate .insertion = .ok ⟨[]⟩ ∧ ¬KernelHolds crowdedManifest)
      ∧ fastManifest.validate .insertion = .ok ⟨[]⟩ ∧ ¬KernelHolds fastManifest := by
  refine ⟨⟨by decide +kernel, ?_⟩, by decide, ?_⟩
  · intro holds
    -- The 65th index is no task.
    have := (task_index_iff 65).mp holds.task_index
    omega
  · intro holds
    obtain ⟨hz, parsed, fits⟩ := holds.tick_rate
    -- Five gigahertz do not fit 32 bits.
    have read : parseTickHz "5000MHz" = some 5000000000 := by decide
    have same : hz = 5000000000 := Option.some.inj (parsed.symm.trans read)
    have small := ((tick_rate_iff hz).mp fits).2
    rw [same] at small
    exact absurd small (by decide)

/-- A single task on a common clock. -/
def modestManifest : Manifest where
  system := ⟨"1MHz"⟩
  tasks := [plainTask "control"]
  channels := []

/-- The kernel holds a modest manifest because its tables and its clock are large enough. -/
theorem modestManifest_held :
    KernelHolds modestManifest
      ↔ modestManifest.tasks.length ≤ 64
        ∧ ∀ hz, SpellsHz modestManifest.system.tickRate hz → hz < 2 ^ 32 :=
  kernelHolds_iff (show modestManifest.validate .insertion = .ok ⟨[]⟩ by decide) rfl

end Malleus
