import Malleus.Manifest.Deadlines
import Malleus.Manifest.RoundTrip
import Mathlib.Order.Bounds.Basic

/-! The padding of stacks: what rounding costs, when it is reported, and that the advice is final. -/

namespace Malleus

open Machine

/-- The powers of two at or above a number. -/
def powersAbove (number : ℕ) : Set ℕ := {power | (∃ exponent, power = 2 ^ exponent) ∧ number ≤ power}

/-- The rounded-up logarithm gives the least power of two at or above a number. -/
theorem isLeast_pow_clog (number : ℕ) : IsLeast (powersAbove number) (2 ^ Nat.clog 2 number) := by
  constructor
  · exact ⟨⟨_, rfl⟩, Nat.le_pow_clog (by omega) number⟩
  -- The rounded-up logarithm is the least exponent whose power reaches the number.
  · intro power candidate
    obtain ⟨⟨exponent, rfl⟩, above⟩ := candidate
    exact Nat.pow_le_pow_right (by omega) (Nat.clog_le_of_le_pow above)

/-- A number is its own least power of two exactly when it is one. -/
theorem pow_clog_eq_self_iff (number : ℕ) :
    2 ^ Nat.clog 2 number = number ↔ ∃ exponent, number = 2 ^ exponent := by
  constructor
  · exact fun same => ⟨_, same.symm⟩
  · rintro ⟨exponent, rfl⟩
    rw [Nat.clog_pow 2 exponent (by omega)]

/-- Rounding up to a power of two less than doubles a number. -/
theorem pow_clog_lt_double {number : ℕ} (positive : 0 < number) :
    2 ^ Nat.clog 2 number < 2 * number := by
  rcases Nat.lt_or_ge 1 number with large | one
  -- Half of the power is still below the number.
  · have below := Nat.pow_pred_clog_lt_self (b := 2) (by omega) large
    have exponent := Nat.clog_pos (b := 2) (by omega) large
    have step : 2 ^ Nat.clog 2 number = 2 * 2 ^ (Nat.clog 2 number).pred := by
      rw [← Nat.pow_succ', Nat.succ_pred_eq_of_pos exponent]
    omega
  · rw [Nat.clog_of_right_le_one one]
    omega

namespace ByteSize

/-- What rounding a size up to a region owes: the least power of two, no drift, less than double. -/
structure RoundsUp (size padded : ByteSize) : Prop where
  rounded : size.toPowerOfTwo = .ok padded
  least : IsLeast (powersAbove size.bytes.toNat) padded.bytes.toNat
  idempotent : padded.toPowerOfTwo = .ok padded
  monotone : ∀ other padded' : ByteSize, other.bytes ≤ size.bytes → other.toPowerOfTwo = .ok padded' →
    padded'.bytes ≤ padded.bytes
  waste : padded.bytes.toNat - size.bytes.toNat < size.bytes.toNat

/-- Up to half the range every size rounds up as it owes. -/
theorem exists_roundsUp {size : ByteSize} (positive : 0 < size.bytes.toNat)
    (most : size.bytes.toNat ≤ 2 ^ 63) : ∃ padded, size.RoundsUp padded := by
  -- The power is at most half the range too, so it is the value of a word.
  have within : 2 ^ Nat.clog 2 size.bytes.toNat ≤ 2 ^ 63 :=
    (isLeast_pow_clog size.bytes.toNat).2 ⟨⟨63, rfl⟩, most⟩
  have value : (UInt64.ofNat (2 ^ Nat.clog 2 size.bytes.toNat)).toNat
      = 2 ^ Nat.clog 2 size.bytes.toNat := UInt64.toNat_ofNat_of_lt' (show _ < 2 ^ 64 by omega)
  refine ⟨⟨UInt64.ofNat (2 ^ Nat.clog 2 size.bytes.toNat)⟩, ?_, ?_, ?_, ?_, ?_⟩
  · exact toPowerOfTwo_eq_ok.mpr ⟨most, value⟩
  · rw [value]
    exact isLeast_pow_clog size.bytes.toNat
  · rw [toPowerOfTwo_eq_ok, value]
    exact ⟨within, by rw [Nat.clog_pow 2 _ (by omega)]⟩
  -- A smaller size has no larger logarithm.
  · intro other padded' below rounded
    rw [UInt64.le_iff_toNat_le] at below ⊢
    rw [(toPowerOfTwo_eq_ok.mp rounded).2, value]
    exact Nat.pow_le_pow_right (by omega) (Nat.clog_mono_right 2 below)
  · rw [value]
    have := pow_clog_lt_double positive
    omega

/-- A size is rounded to itself exactly when it is a power of two. -/
theorem eq_self_iff_of_rounded {size padded : ByteSize} (rounded : size.toPowerOfTwo = .ok padded) :
    padded = size ↔ ∃ exponent, size.bytes.toNat = 2 ^ exponent := by
  rw [← pow_clog_eq_self_iff, ← (toPowerOfTwo_eq_ok.mp rounded).2, UInt64.toNat_inj]
  cases padded
  cases size
  simp

/-- A size that was rounded up is rounded to itself. -/
theorem RoundsUp.again {size padded : ByteSize} (rounds : size.RoundsUp padded) :
    padded.RoundsUp padded := by
  -- The rounded size is a positive power of two, which rounding fixes.
  have positive : 0 < padded.bytes.toNat := by
    rw [(toPowerOfTwo_eq_ok.mp rounds.rounded).2]
    exact Nat.two_pow_pos _
  obtain ⟨same, rounds'⟩ := exists_roundsUp positive (toPowerOfTwo_eq_ok.mp rounds.idempotent).1
  have fixed := rounds'.rounded
  rw [rounds.idempotent, Except.ok.injEq] at fixed
  exact fixed ▸ rounds'

/-- A printed size is read as the size. -/
theorem fromStr_display (size : ByteSize) : fromStr size.display = .ok size :=
  fromStr_eq_ok.mpr size.spellsQuantity_display

end ByteSize

/-- What to do about a padded stack: round it up to a printed size. -/
def paddingAdvice (size : String) : String :=
  s!"round the stack up to `{size}` to make the cost explicit, or move " ++
    "to an ARMv8-M part where regions are 32-byte granular"

/-- Texts that agree around a part agree in the part. -/
theorem part_inj {front back : String} {part other : String}
    (same : front ++ part ++ back = front ++ other ++ back) : part = other := by
  have chars := congrArg String.toList same
  simp only [String.toList_append, List.append_cancel_right_eq, List.append_cancel_left_eq] at chars
  exact String.toList_inj.mp chars

/-- The advice tells the size it prints. -/
theorem paddingAdvice_inj {size other : String} (same : paddingAdvice size = paddingAdvice other) :
    size = other := by
  -- What is printed stands between two fixed texts.
  have shape : ∀ text, paddingAdvice text = "round the stack up to `" ++ text
      ++ ("` to make the cost explicit, or move "
        ++ "to an ARMv8-M part where regions are 32-byte granular") :=
    fun _ => String.append_assoc
  rw [shape, shape] at same
  exact part_inj same

/-- The finding about a stack that takes up more than it reserves. -/
def paddingWarning (task : String) (stack padded : ByteSize) (wasted : UInt64) : Diagnostic :=
  .warning "M0012" task
    (s!"stack {stack.display} will occupy {padded.display} on an ARMv7-M MPU, wasting {wasted} bytes " ++
      "to alignment")
    (paddingAdvice padded.display)

/-- A stack of at least the minimum is reported exactly for what rounding it up wastes. -/
theorem checkStack_of_roundsUp {task : Task} {stack padded : ByteSize}
    (parsed : ByteSize.fromStr task.stack = .ok stack) (least : 256 ≤ stack.bytes)
    (rounds : stack.RoundsUp padded) :
    checkStack task = .ok (if padded = stack then []
      else [paddingWarning task.name stack padded (padded.bytes - stack.bytes)]) := by
  have enough : ¬stack.asBytes < minStack := UInt64.not_lt.mpr least
  have below := ByteSize.le_toPowerOfTwo rounds.rounded
  have subtracted : padded.asBytes.strictSub stack.asBytes = .ok (padded.bytes - stack.bytes) := by
    rw [UInt64.strictSub, ByteSize.asBytes, ByteSize.asBytes, if_pos below]
  -- Above the minimum only the padding is left to report.
  unfold checkStack
  simp only [parsed, rounds.rounded, ok_bind, checkPadding, reportIf, if_neg enough, List.nil_append]
  split
  · rfl
  · rw [subtracted]
    rfl

/-- The codes of the findings about stacks. -/
def stackCodes : List String := ["M0010", "M0011", "M0012"]

/-- Of the findings no deadline enters, only those of the stack check have its codes. -/
theorem raises_deadlineFree_stacks (order : HashOrder) (manifest : Manifest) (memory : List Diagnostic)
    {code : String} (listed : code ∈ stackCodes) (severity : Severity) (location : String) :
    Raises (deadlineFree order manifest memory) (severity, code, location)
      ↔ Raises memory (severity, code, location) := by
  -- Every other check has codes of its own.
  have names : Avoids (checkTaskNames [] manifest.tasks) stackCodes :=
    (checkTaskNames_codes _ _).avoids (by decide)
  have priorities : Avoids (manifest.tasks.flatMap checkPriority) stackCodes :=
    avoids_flatMap.mpr fun task _ => (checkPriority_codes task).avoids (by decide)
  have rate : Avoids (checkTickRate manifest.system.tickRate
      (parseTickHz manifest.system.tickRate)) stackCodes :=
    (checkTickRate_codes _ _).avoids (by decide)
  have channels : Avoids (checkChannels order manifest ((manifest.tasks.map Task.name).dedup) []
      manifest.channels) stackCodes :=
    (checkChannels_codes _ _ _ _ _).avoids (by decide)
  have capabilities : Avoids (checkCapabilities manifest) stackCodes :=
    (checkCapabilities_codes manifest).avoids (by decide)
  have avoided : ∀ {findings : List Diagnostic}, Avoids findings stackCodes →
      ¬Raises findings (severity, code, location) :=
    fun avoids raised => avoids _ raised listed
  simp only [deadlineFree, raises_append, avoided names, avoided priorities, avoided rate,
    avoided channels, avoided capabilities, false_or, or_false]

/-- The findings of a report about stacks are those about its tasks' stacks, one by one. -/
theorem raises_report_stacks {manifest : Manifest} {order : HashOrder} {report : ValidationReport}
    (completed : manifest.validate order = .ok report) {code : String} (listed : code ∈ stackCodes)
    (severity : Severity) (location : String) :
    Raises report.diagnostics (severity, code, location)
      ↔ ∃ task ∈ manifest.tasks,
        Raises (findingsOf checkStack task) (severity, code, location) := by
  obtain ⟨memory, visited, keys⟩ := raises_report completed
  have parts := ((visitAll_eq_ok checkStack manifest.tasks memory).mp visited).2
  -- Neither the timing checks nor the findings that need a deadline are about stacks.
  have timing : ∀ task, ¬Raises (timingRest manifest.system.tickRate
      (parseTickHz manifest.system.tickRate) task) (severity, code, location) := by
    intro task raised
    have avoids : Avoids (timingRest manifest.system.tickRate
        (parseTickHz manifest.system.tickRate) task) stackCodes :=
      (timingRest_codes _ _ task).avoids (by decide)
    exact avoids _ raised listed
  have apart : code ≠ "M0005" ∧ code ≠ "M0007" ∧ code ≠ "M0008" := by
    have each : ∀ code ∈ stackCodes, code ≠ "M0005" ∧ code ≠ "M0007" ∧ code ≠ "M0008" := by decide
    exact each code listed
  rw [keys, raises_deadlineFree_stacks order manifest memory listed, parts]
  simp [timing, raises_flatMap, Prod.mk.injEq, apart]

/-- What the padding report owes a stack size: exact figures, and advice that is final. -/
structure PaddingReported (size : ByteSize) : Prop where
  rounded : ∃ padded, size.RoundsUp padded
  raised : ∀ task : Task, ByteSize.fromStr task.stack = .ok size →
    (Raises (findingsOf checkStack task) (.warning, "M0012", task.name)
      ↔ ¬∃ exponent, size.bytes.toNat = 2 ^ exponent)
  told : ∀ task : Task, ByteSize.fromStr task.stack = .ok size →
    ∀ finding ∈ findingsOf checkStack task, finding.code = "M0012" →
      ∃ padded wasted, size.RoundsUp padded
        ∧ wasted.toNat = padded.bytes.toNat - size.bytes.toNat
        ∧ finding = paddingWarning task.name size padded wasted
  -- The stack is replaced by what the suggestion prints, and the manifest validated again.
  followed : ∀ (manifest : Manifest) (order : HashOrder) (report : ValidationReport)
    (before after : List Task) (task : Task), manifest.validate order = .ok report →
    manifest.tasks = before ++ task :: after → ByteSize.fromStr task.stack = .ok size →
    ∀ finding ∈ findingsOf checkStack task, ∀ text, finding.suggestion = paddingAdvice text →
      checkStack { task with stack := text } = .ok []
        ∧ ∀ order', ∃ report',
          { manifest with tasks := before ++ { task with stack := text } :: after }.validate order'
            = .ok report'
          ∧ ∀ severity, ∀ code ∈ stackCodes,
            (Raises report'.diagnostics (severity, code, task.name)
              ↔ ∃ other ∈ before ++ after,
                Raises (findingsOf checkStack other) (severity, code, task.name))

/-- The findings about a stack of at least the minimum, once its size is rounded up. -/
theorem findingsOf_checkStack {task : Task} {stack padded : ByteSize}
    (parsed : ByteSize.fromStr task.stack = .ok stack) (least : 256 ≤ stack.bytes)
    (rounds : stack.RoundsUp padded) :
    findingsOf checkStack task = if padded = stack then []
      else [paddingWarning task.name stack padded (padded.bytes - stack.bytes)] := by
  rw [findingsOf, checkStack_of_roundsUp parsed least rounds]

/-- A stack of a rounded-up size is not reported. -/
theorem checkStack_of_advice {task : Task} {stack padded : ByteSize} (least : 256 ≤ stack.bytes)
    (rounds : stack.RoundsUp padded) :
    checkStack { task with stack := padded.display } = .ok [] := by
  -- Rounding up keeps a size above the minimum.
  have enough : 256 ≤ padded.bytes :=
    UInt64.le_trans least (ByteSize.le_toPowerOfTwo rounds.rounded)
  have parsed : ByteSize.fromStr ({ task with stack := padded.display } : Task).stack = .ok padded :=
    padded.fromStr_display
  rw [checkStack_of_roundsUp parsed enough rounds.again, if_pos rfl]

/-- The manifest that follows the advice is validated, and only other tasks' stacks are reported. -/
theorem validate_of_advice {manifest : Manifest} {order : HashOrder} {report : ValidationReport}
    (completed : manifest.validate order = .ok report) {before after : List Task} {task : Task}
    (declared : manifest.tasks = before ++ task :: after) {text : String}
    (clean : checkStack { task with stack := text } = .ok []) (order' : HashOrder) :
    ∃ report',
      { manifest with tasks := before ++ { task with stack := text } :: after }.validate order'
        = .ok report'
      ∧ ∀ severity, ∀ code ∈ stackCodes,
        (Raises report'.diagnostics (severity, code, task.name)
          ↔ ∃ other ∈ before ++ after,
            Raises (findingsOf checkStack other) (severity, code, task.name)) := by
  have bounded := manifest.roundable_of_validate completed
  -- The other stacks are as they were, and the new one is checked without finding.
  have each : ∀ other ∈ before ++ { task with stack := text } :: after, RoundableStack other := by
    intro other listed
    simp only [List.mem_append, List.mem_cons] at listed
    rcases listed with earlier | rfl | later
    · exact bounded other (by simp [declared, earlier])
    · exact (checkStack_returns _).mp ⟨[], clean⟩
    · exact bounded other (by simp [declared, later])
  obtain ⟨report', completed'⟩ := Manifest.validate_returns order'
    (show ∀ other ∈ ({ manifest with tasks := before ++ { task with stack := text } :: after } :
      Manifest).tasks, RoundableStack other from each)
  refine ⟨report', completed', fun severity code listed => ?_⟩
  have silent : findingsOf checkStack { task with stack := text } = [] := by rw [findingsOf, clean]
  rw [raises_report_stacks completed' listed]
  simp only [List.mem_append, List.mem_cons, or_and_right, exists_or, exists_eq_left, silent,
    not_raises_nil, false_or]

/-- The padding report is exact and its advice works, from the least stack to half the range. -/
theorem paddingReported {size : ByteSize} (least : 256 ≤ size.bytes)
    (most : size.bytes.toNat ≤ 2 ^ 63) : PaddingReported size := by
  have positive : 0 < size.bytes.toNat := by
    have := UInt64.le_iff_toNat_le.mp least
    have : (256 : UInt64).toNat = 256 := rfl
    omega
  obtain ⟨padded, rounds⟩ := ByteSize.exists_roundsUp positive most
  have below := ByteSize.le_toPowerOfTwo rounds.rounded
  refine ⟨⟨padded, rounds⟩, ?_, ?_, ?_⟩
  -- Rounding changes a size exactly when it is no power of two.
  · intro task parsed
    rw [findingsOf_checkStack parsed least rounds,
      ← ByteSize.eq_self_iff_of_rounded rounds.rounded]
    split
    · rename_i same
      simp [same]
    · rename_i apart
      simp [apart, paddingWarning]
  · intro task parsed finding found _
    rw [findingsOf_checkStack parsed least rounds] at found
    split at found
    · cases found
    · exact ⟨padded, _, rounds, UInt64.toNat_sub_of_le _ _ below, List.mem_singleton.mp found⟩
  · intro manifest order report before after task completed declared parsed finding found text told
    rw [findingsOf_checkStack parsed least rounds] at found
    split at found
    · cases found
    -- The size in the suggestion is the rounded one, and reads back as itself.
    · rw [List.mem_singleton.mp found] at told
      have printed : text = padded.display := paddingAdvice_inj told.symm
      have clean : checkStack { task with stack := text } = .ok [] := by
        rw [printed]
        exact checkStack_of_advice least rounds
      exact ⟨clean, validate_of_advice completed declared clean⟩

/-- A stack of three kibibytes is no power of two, and its report is exact. -/
theorem threeKibibytes_paddingReported : PaddingReported ⟨3072⟩ :=
  paddingReported (by decide) (by decide)

end Malleus
