import EventFramework.Adapters.OnewireGuard

/-!
# The diagnostics of the 1-Wire adapter

How the counters of `ev_esp8266_onewire_get_diag` hang together, whatever was asked of the adapter and
however long it took.
-/

namespace EventFramework
set_option autoImplicit false

open OnewireAdapter OnewireCtx Machine

variable {ε α : Type}

namespace OnewireDiagnostics

def WithinBudgets (c : OnewireCtx) : Prop :=
  c.maxResetCriticalSectionUs.toNat ≤ 1250 ∧ c.maxBitCriticalSectionUs.toNat ≤ 120

/-- The largest section is the largest of both kinds, with a bound on the violations so far. -/
structure Ledger (bound : Nat) (c : OnewireCtx) : Prop where
  largest : c.maxCriticalSectionUs.toNat =
    max c.maxResetCriticalSectionUs.toNat c.maxBitCriticalSectionUs.toNat
  violations : ∃ count ≤ bound, c.criticalSectionBudgetViolations = UInt32.ofNat count ∧
    (count = 0 ↔ WithinBudgets c)

structure Counts (started resets bits : UInt32) (c c' : OnewireCtx) : Prop where
  operations : c'.operationsStarted = c.operationsStarted + started
  resetSections : c'.resetCriticalSections = c.resetCriticalSections + resets
  bitSections : c'.bitCriticalSections = c.bitCriticalSections + bits
  sections : c'.criticalSections = c.criticalSections + (resets + bits)

/-- What an activity counts: nothing, or an operation with the one section of a reset or the eight of
a byte. -/
def CountedAs (activity : OnewireActivity) (c c' : OnewireCtx) : Prop :=
  Counts 0 0 0 c c' ∨
    match activity with
    | .request .reset => Counts 1 1 0 c c'
    | .request (.writeByte _) | .request .readByte => Counts 1 0 8 c c'
    | .getDiag | .prepareForSleep => False

/-- Both, since the state `c`. -/
structure Account (c : OnewireCtx) (started resets bits : UInt32) (bound : Nat) (c' : OnewireCtx) : Prop
    extends Counts started resets bits c c', Ledger bound c'

variable {bound : Nat} {c c' c'' : OnewireCtx} {started resets bits : UInt32}

theorem Ledger.mono {bound' : Nat} (h : Ledger bound c) (hle : bound ≤ bound') : Ledger bound' c := by
  obtain ⟨hlargest, count, hcount, hviolations⟩ := h
  exact ⟨hlargest, count, hcount.trans hle, hviolations⟩

theorem Counts.refl (c : OnewireCtx) : Counts 0 0 0 c c := by
  constructor <;> simp

theorem toNat_larger (elapsed largest : UInt32) :
    (if elapsed > largest then elapsed else largest).toNat = max largest.toNat elapsed.toNat := by
  split
  · rename_i hgt
    have := UInt32.lt_iff_toNat_lt.mp hgt
    omega
  · rename_i hle
    have := UInt32.le_iff_toNat_le.mp (UInt32.not_lt.mp hle)
    omega

/-- One more section in the count of the violations. -/
theorem violations_step {count : Nat} {violations elapsed budget : UInt32} {before after : Prop}
    (hcount : count ≤ bound) (hviolations : violations = UInt32.ofNat count)
    (hbefore : count = 0 ↔ before) (hafter : after ↔ before ∧ elapsed.toNat ≤ budget.toNat) :
    ∃ count ≤ bound + 1,
      (if elapsed > budget then violations + 1 else violations) = UInt32.ofNat count ∧
        (count = 0 ↔ after) := by
  rw [hafter]
  by_cases hover : elapsed > budget
  · have := UInt32.lt_iff_toNat_lt.mp hover
    refine ⟨count + 1, Nat.succ_le_succ hcount, ?_, iff_of_false (Nat.succ_ne_zero _) fun h => ?_⟩
    · rw [if_pos hover, hviolations, UInt32.ofNat_add]
      rfl
    · exact absurd h.2 (Nat.not_le.mpr this)
  · have := UInt32.le_iff_toNat_le.mp (UInt32.not_lt.mp hover)
    refine ⟨count, Nat.le_succ_of_le hcount, ?_, hbefore.trans ⟨fun h => ⟨h, this⟩, And.left⟩⟩
    rw [if_neg hover, hviolations]

theorem Ledger.recorded (h : Ledger bound c) (elapsed : UInt32) (resetSection : Bool) :
    Ledger (bound + 1) (recordTimingSection elapsed resetSection c) := by
  obtain ⟨hlargest, count, hcount, hviolations, hwithin⟩ := h
  rw [OnewireLink.recordTimingSection_eq]
  refine ⟨?_, violations_step hcount hviolations hwithin ?_⟩
  · cases resetSection with
    | false =>
      simp only [Bool.false_eq_true, if_false, toNat_larger]
      omega
    | true =>
      simp only [if_true, toNat_larger]
      omega
  · have hreset : onewireResetTimingSectionBudgetUs.toNat = 1250 := rfl
    have hbit : onewireBitTimingSectionBudgetUs.toNat = 120 := rfl
    unfold WithinBudgets
    cases resetSection with
    | false =>
      simp only [Bool.false_eq_true, if_false, toNat_larger]
      omega
    | true =>
      simp only [if_true, toNat_larger]
      omega

theorem Account.bit (h : Account c started resets bits bound c') (elapsed : UInt32) :
    Account c started resets (bits + 1) (bound + 1) (recordTimingSection elapsed false c') := by
  refine ⟨?_, h.toLedger.recorded elapsed false⟩
  obtain ⟨hstarted, hresets, hbits, hsections⟩ := h.toCounts
  rw [OnewireLink.recordTimingSection_eq]
  refine ⟨hstarted, hresets, ?_, ?_⟩
  · simp only [Bool.false_eq_true, if_false]
    grind
  · simp only
    grind

theorem Account.reset (h : Account c started resets bits bound c') (elapsed : UInt32) :
    Account c started (resets + 1) bits (bound + 1) (recordTimingSection elapsed true c') := by
  refine ⟨?_, h.toLedger.recorded elapsed true⟩
  obtain ⟨hstarted, hresets, hbits, hsections⟩ := h.toCounts
  rw [OnewireLink.recordTimingSection_eq]
  refine ⟨hstarted, ?_, hbits, ?_⟩
  · simp only [if_true]
    grind
  · simp only
    grind

theorem Account.mono {bound' : Nat} (h : Account c started resets bits bound c')
    (hle : bound ≤ bound') : Account c started resets bits bound' c' :=
  ⟨h.toCounts, h.toLedger.mono hle⟩

/-- Two contexts that agree in what an account is about. -/
theorem Account.of_same (h : Account c started resets bits bound c')
    (hsame : { c'' with
      dataPin := c'.dataPin
      configured := c'.configured
      busy := c'.busy
      sleepPrepareAttempts := c'.sleepPrepareAttempts
      sleepPrepareFailures := c'.sleepPrepareFailures
      busErrors := c'.busErrors
      maxResetLowHoldUs := c'.maxResetLowHoldUs } = c') :
    Account c started resets bits bound c'' := by
  rw [← hsame] at h
  exact ⟨⟨h.operations, h.resetSections, h.bitSections, h.sections⟩, h.largest, h.violations⟩

section Operations

variable (hal : OnewireHal ε)

theorem recordSection_bit {s : OnewireState ε} {startUs : Int} (hctx : s.ctx = c')
    (h : Account c started resets bits bound c') :
    Account c started resets (bits + 1) (bound + 1) (recordSection hal startUs false s).ctx := by
  rw [recordSection_ctx, hctx]
  exact h.bit _

theorem writeBit_account (value : UInt8) {s : OnewireState ε}
    (h : Account c started resets bits bound s.ctx) :
    Account c started resets (bits + 1) (bound + 1) (writeBit hal value s).ctx := by
  unfold writeBit
  simp only
  refine recordSection_bit hal ?_ h
  split <;> rfl

theorem bitIo_account (bitValue : UInt8) {s : OnewireState ε}
    (h : Account c started resets bits bound s.ctx) :
    Account c started resets (bits + 1) (bound + 1) (bitIo hal bitValue s).2.ctx := by
  unfold bitIo
  simp only
  refine recordSection_bit hal ?_ h
  split <;> rfl

theorem writeBits_account (left : Nat) : ∀ (bits : UInt32) (bound : Nat) (value : UInt8)
    (s : OnewireState ε), Account c started resets bits bound s.ctx →
      Account c started resets (bits + UInt32.ofNat left) (bound + left)
        (writeBits hal left value s).ctx := by
  induction left with
  | zero =>
    intro bits bound value s h
    rwa [show UInt32.ofNat 0 = 0 from rfl, UInt32.add_zero]
  | succ left ih =>
    intro bits bound value s h
    have hrest := ih (bits + 1) (bound + 1) (value >>> 1) _ (writeBit_account hal value h)
    rw [UInt32.ofNat_add, UInt32.add_comm (UInt32.ofNat left), ← UInt32.add_assoc]
    rwa [Nat.add_right_comm] at hrest

theorem readBits_account (left : Nat) : ∀ (bits : UInt32) (bound : Nat) (value : UInt8)
    (s : OnewireState ε), Account c started resets bits bound s.ctx →
      Account c started resets (bits + UInt32.ofNat left) (bound + left)
        (readBits hal left value s).2.ctx := by
  induction left with
  | zero =>
    intro bits bound value s h
    rwa [show UInt32.ofNat 0 = 0 from rfl, UInt32.add_zero]
  | succ left ih =>
    intro bits bound value s h
    have hrest := ih (bits + 1) (bound + 1)
      (if (bitIo hal 1 s).1 ≠ 0 then value >>> 1 ||| 0x80 else value >>> 1) _ (bitIo_account hal 1 h)
    rw [UInt32.ofNat_add, UInt32.add_comm (UInt32.ofNat left), ← UInt32.add_assoc]
    rwa [Nat.add_right_comm] at hrest

theorem resetPulse_account {s : OnewireState ε} (h : Account c started resets bits bound s.ctx) :
    Account c started (resets + 1) bits (bound + 1) (resetPulse hal s).2.ctx := by
  have hheld (elapsed : UInt32) :
      Account c started resets bits bound (recordResetLowHold elapsed s.ctx) := by
    apply h.of_same
    unfold recordResetLowHold
    split <;> rfl
  have hsection {t : OnewireState ε} {elapsed : UInt32} (startUs : Int)
      (hctx : t.ctx = recordResetLowHold elapsed s.ctx) :
      Account c started (resets + 1) bits (bound + 1) (recordSection hal startUs true t).ctx := by
    rw [recordSection_ctx, hctx]
    exact (hheld elapsed).reset _
  unfold resetPulse
  exact hsection _ rfl

/-- An operation is refused, or counted with the sections of its body. -/
theorem operation_account (refused : α) {body : OnewireState ε → α × OnewireState ε}
    {s : OnewireState ε} (hbody : ∀ t : OnewireState ε, Account s.ctx 1 0 0 bound t.ctx →
      Account s.ctx 1 resets bits (bound + 8) (body t).2.ctx)
    (h : Ledger bound s.ctx) :
    Account s.ctx 0 0 0 (bound + 8) (operation hal refused body s).2.ctx ∨
      Account s.ctx 1 resets bits (bound + 8) (operation hal refused body s).2.ctx := by
  unfold operation
  simp only
  split
  · exact Or.inl ((Account.mk (.refl _) h).mono (Nat.le_add_right _ 8) |>.of_same rfl)
  · have hbegun : Account s.ctx 1 0 0 bound (beginOperation s.ctx) :=
      ⟨⟨rfl, (UInt32.add_zero _).symm, (UInt32.add_zero _).symm, (UInt32.add_zero _).symm⟩,
        h.largest, h.violations⟩
    exact Or.inr ((hbody (updateCtx beginOperation (act hal.suspendAll s)) hbegun).of_same rfl)

theorem perform_account (activity : OnewireActivity) {s : OnewireState ε} (h : Ledger bound s.ctx) :
    Ledger (bound + 8) (perform hal s activity).ctx ∧
      CountedAs activity s.ctx (perform hal s activity).ctx := by
  have hidle {t : OnewireState ε} {activity : OnewireActivity}
      (ht : Account s.ctx 0 0 0 (bound + 8) t.ctx) :
      Ledger (bound + 8) t.ctx ∧ CountedAs activity s.ctx t.ctx :=
    ⟨ht.toLedger, Or.inl ht.toCounts⟩
  have hstill : Account s.ctx 0 0 0 (bound + 8) s.ctx :=
    (Account.mk (.refl _) h).mono (Nat.le_add_right _ 8)
  cases activity with
  | request request =>
    cases request with
    | reset =>
      have hpulse : ∀ t : OnewireState ε, Account s.ctx 1 0 0 bound t.ctx →
          Account s.ctx 1 1 0 (bound + 8) (some (resetPulse hal t).1, (resetPulse hal t).2).2.ctx :=
        fun t ht => (resetPulse_account hal ht).mono (Nat.add_le_add_left (by decide) bound)
      have hpulsed := operation_account hal none hpulse h
      change Ledger (bound + 8) (reset hal s).2.ctx ∧ CountedAs _ _ (reset hal s).2.ctx
      rcases OnewireLink.reset_cases hal s with heq | heq
      · rw [heq]
        exact hpulsed.elim hidle fun hdone => ⟨hdone.toLedger, Or.inr hdone.toCounts⟩
      · rw [heq]
        rcases hpulsed with hrefused | hdone
        · exact hidle (hrefused.of_same rfl)
        · suffices hcounted : Account s.ctx 1 1 0 (bound + 8) (updateCtx countBusError
              (operation hal none (fun s => (some (resetPulse hal s).1, (resetPulse hal s).2)) s).2).ctx from
            ⟨hcounted.toLedger, Or.inr hcounted.toCounts⟩
          exact hdone.of_same rfl
    | writeByte value =>
      have hwritten : ∀ t : OnewireState ε, Account s.ctx 1 0 0 bound t.ctx →
          Account s.ctx 1 0 8 (bound + 8) (OnewireStatus.ok, writeBits hal 8 value t).2.ctx :=
        fun t ht => writeBits_account hal 8 0 bound value t ht
      exact (operation_account hal _ hwritten h).elim hidle
        fun hdone => ⟨hdone.toLedger, Or.inr hdone.toCounts⟩
    | readByte =>
      have hread : ∀ t : OnewireState ε, Account s.ctx 1 0 0 bound t.ctx →
          Account s.ctx 1 0 8 (bound + 8)
            ((OnewireStatus.ok, (readBits hal 8 0 t).1), (readBits hal 8 0 t).2).2.ctx :=
        fun t ht => readBits_account hal 8 0 bound 0 t ht
      exact (operation_account hal _ hread h).elim hidle
        fun hdone => ⟨hdone.toLedger, Or.inr hdone.toCounts⟩
  | getDiag =>
    change Ledger (bound + 8) (getDiag hal s).2.ctx ∧ CountedAs _ _ (getDiag hal s).2.ctx
    have hsame : (getDiag hal s).2.ctx = s.ctx := by
      unfold getDiag
      simp only
      split <;> rfl
    rw [hsame]
    exact hidle hstill
  | prepareForSleep =>
    change Ledger (bound + 8) (prepareForSleep hal s).2.ctx ∧
      CountedAs _ _ (prepareForSleep hal s).2.ctx
    apply hidle
    apply hstill.of_same
    unfold prepareForSleep
    split
    · rfl
    · simp only
      split
      · rfl
      · split <;> rfl

theorem run_ledger (activities : List OnewireActivity) : ∀ (bound : Nat) (s : OnewireState ε),
    Ledger bound s.ctx → Ledger (bound + 8 * activities.length) (run (perform hal) s activities).ctx := by
  induction activities with
  | nil => exact fun bound s h => h
  | cons activity activities ih =>
    intro bound s h
    have hrest := ih (bound + 8) _ (perform_account hal activity h).1
    rw [run_cons, List.length_cons]
    exact hrest.mono (by omega)

/-- The sections of each kind, and what the operations have of them. -/
structure Balanced (c : OnewireCtx) : Prop where
  sections : c.criticalSections = c.resetCriticalSections + c.bitCriticalSections
  operations : 8 * c.operationsStarted = 8 * c.resetCriticalSections + c.bitCriticalSections

theorem Counts.balanced (h : Counts started resets bits c c') (hc : Balanced c)
    (heach : 8 * started = 8 * resets + bits) : Balanced c' := by
  obtain ⟨hstarted, hresets, hbits, hsections⟩ := h
  obtain ⟨hall, hoperations⟩ := hc
  constructor
  · grind
  · grind

theorem CountedAs.balanced {activity : OnewireActivity} (h : CountedAs activity c c')
    (hc : Balanced c) : Balanced c' := by
  rcases h with hidle | hcounted
  · exact hidle.balanced hc rfl
  · cases activity with
    | request request =>
      cases request with
      | reset => exact Counts.balanced hcounted hc rfl
      | writeByte value => exact Counts.balanced hcounted hc rfl
      | readByte => exact Counts.balanced hcounted hc rfl
    | getDiag => exact hcounted.elim
    | prepareForSleep => exact hcounted.elim

end Operations

/-- In every run from an initialized adapter: an activity counts nothing, or an operation with the one
section of a reset or the eight of a byte; so each section is one of a reset or of a bit; the largest
section is the largest of both kinds; and while the count cannot have wrapped, there are no violations
just when both kinds stayed within their budgets. -/
theorem diagnostics_account (hal : OnewireHal ε) (dataPin : Int) (env : ε)
    (activities : List OnewireActivity) :
    let after (earlier : List OnewireActivity) : OnewireCtx :=
      (run (perform hal) ⟨{ dataPin := dataPin, configured := true }, env⟩ earlier).ctx
    let c := after activities
    (∀ earlier activity, earlier ++ [activity] <+: activities →
      CountedAs activity (after earlier) (after (earlier ++ [activity]))) ∧
      c.criticalSections = c.resetCriticalSections + c.bitCriticalSections ∧
      8 * c.operationsStarted = 8 * c.resetCriticalSections + c.bitCriticalSections ∧
      c.maxCriticalSectionUs.toNat =
        max c.maxResetCriticalSectionUs.toNat c.maxBitCriticalSectionUs.toNat ∧
      (8 * activities.length < 2 ^ 32 →
        (c.criticalSectionBudgetViolations = 0 ↔ WithinBudgets c)) := by
  intro after c
  have hfresh : Ledger 0 ({ dataPin := dataPin, configured := true } : OnewireCtx) := by
    refine ⟨rfl, 0, Nat.le_refl 0, rfl, iff_of_true rfl ?_⟩
    exact ⟨Nat.zero_le _, Nat.zero_le _⟩
  have hledger (earlier : List OnewireActivity) : Ledger (0 + 8 * earlier.length) (after earlier) :=
    run_ledger hal earlier 0 ⟨{ dataPin := dataPin, configured := true }, env⟩ hfresh
  have hcounted (earlier : List OnewireActivity) (activity : OnewireActivity) :
      CountedAs activity (after earlier) (after (earlier ++ [activity])) := by
    have hperformed := (perform_account hal activity (hledger earlier)).2
    simp only [after, run_append, run_cons, run_nil]
    exact hperformed
  have hbalanced (earlier : List OnewireActivity) : Balanced (after earlier) := by
    induction earlier using List.reverseRecOn with
    | nil => exact ⟨rfl, rfl⟩
    | append_singleton earlier activity ih => exact (hcounted earlier activity).balanced ih
  obtain ⟨hlargest, count, hcount, hviolations, hwithin⟩ := hledger activities
  refine ⟨fun earlier activity _ => hcounted earlier activity, (hbalanced activities).sections,
    (hbalanced activities).operations, hlargest, fun hshort => ?_⟩
  rw [← hwithin, hviolations, ← UInt32.toNat_inj, UInt32.toNat_ofNat', Nat.mod_eq_of_lt (by omega)]
  rfl

end OnewireDiagnostics

end EventFramework
