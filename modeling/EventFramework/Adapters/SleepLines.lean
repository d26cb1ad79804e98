import EventFramework.Adapters.IrqSleep
import Mathlib.Data.List.TakeWhile

/-!
# The lines that a sleep preparation forgets

A line that was enabled is armed or is recorded for the roll-back, as long as no roll-back fails to
enable it again and it is not disabled while it is recorded.
-/

namespace EventFramework
set_option autoImplicit false

namespace IrqLineConfig

theorem isIn_or {line other : IrqLineConfig} (hline : line.gpioNum ≤ 15) (hother : other.gpioNum ≤ 15)
    (mask : UInt32) :
    other.isIn (mask ||| line.gpioMask) =
      (decide (line.gpioNum = other.gpioNum) || other.isIn mask) := by
  rw [isIn_eq hother, isIn_eq hother, bitOf_or_gpioMask hline]

theorem isIn_clear {line other : IrqLineConfig} (hline : line.gpioNum ≤ 15)
    (hother : other.gpioNum ≤ 15) (mask : UInt32) :
    other.isIn (mask &&& ~~~line.gpioMask) =
      (!decide (line.gpioNum = other.gpioNum) && other.isIn mask) := by
  rw [isIn_eq hother, isIn_eq hother, bitOf_clear_gpioMask hline]

theorem isIn_zero (line : IrqLineConfig) : line.isIn 0 = false := by
  rw [isIn, UInt32.zero_and]
  rfl

theorem isIn_union {line : IrqLineConfig} (hline : line.gpioNum ≤ 15) (mask other : UInt32) :
    line.isIn (mask ||| other) = (line.isIn mask || line.isIn other) := by
  rw [isIn_eq hline, isIn_eq hline, isIn_eq hline, bitOf, UInt32.toBitVec_or, BitVec.getLsbD_or]
  rfl

theorem isIn_without {line : IrqLineConfig} (hline : line.gpioNum ≤ 15) (mask other : UInt32) :
    line.isIn (mask &&& ~~~other) = (line.isIn mask && !line.isIn other) := by
  rw [isIn_eq hline, isIn_eq hline, isIn_eq hline, bitOf, UInt32.toBitVec_and, UInt32.toBitVec_not,
    BitVec.getLsbD_and, BitVec.getLsbD_not, decide_eq_true (gpioNum_lt hline), Bool.true_and]
  rfl

/-- In a valid configuration a line is its GPIO, and its identifier. -/
theorem eq_of_mem {lines : List IrqLineConfig} (h : allValid lines = true) {line other : IrqLineConfig}
    (hline : line ∈ lines) (hother : other ∈ lines)
    (hsame : line.gpioNum = other.gpioNum ∨ line.lineId = other.lineId) : line = other := by
  induction lines with
  | nil => exact absurd hline List.not_mem_nil
  | cons first rest ih =>
    obtain ⟨_, hapart, hrest⟩ := allValid_cons h
    have hfirst (later : IrqLineConfig) (hlater : later ∈ rest)
        (heq : first.gpioNum = later.gpioNum ∨ first.lineId = later.lineId) : False := by
      obtain ⟨hgpio, hid⟩ := hapart later hlater
      rcases heq with heq | heq
      · exact hgpio heq
      · exact hid heq
    rcases List.mem_cons.mp hline with heq | hline
    · rcases List.mem_cons.mp hother with heq' | hother
      · rw [heq, heq']
      · rw [heq] at hsame
        exact (hfirst other hother hsame).elim
    · rcases List.mem_cons.mp hother with heq' | hother
      · rw [heq'] at hsame
        exact (hfirst line hline (hsame.imp Eq.symm Eq.symm)).elim
      · exact ih hrest hline hother

theorem any_gpio {lines : List IrqLineConfig} (h : allValid lines = true) {line : IrqLineConfig}
    (hline : line ∈ lines) (p : IrqLineConfig → Bool) :
    (lines.any fun other => decide (other.gpioNum = line.gpioNum) && p other) = p line := by
  rw [Bool.eq_iff_iff, List.any_eq_true]
  constructor
  · rintro ⟨other, hother, hboth⟩
    rw [Bool.and_eq_true, decide_eq_true_iff] at hboth
    rw [← eq_of_mem h hother hline (Or.inl hboth.1)]
    exact hboth.2
  · intro hp
    exact ⟨line, hline, by rw [hp, decide_eq_true rfl, Bool.and_true]⟩

end IrqLineConfig

namespace IrqAdapter

open IrqLineConfig

theorem gpio_le {adapter : IrqAdapter} {line : IrqLineConfig} (h : line ∈ adapter.lines) :
    line.gpioNum ≤ 15 := allValid_mem adapter.allLinesValid line h

structure SameLines (a b : IrqAdapter) : Prop where
  lines : b.lines = a.lines
  armed : b.armed = a.armed
  enabled : b.enabledGpioMask = a.enabledGpioMask
  prepared : b.sleepPreparedGpioMask = a.sleepPreparedGpioMask
  flag : b.sleepPrepared = a.sleepPrepared

theorem SameLines.refl (a : IrqAdapter) : SameLines a a := ⟨rfl, rfl, rfl, rfl, rfl⟩

theorem SameLines.trans {a b c : IrqAdapter} (hab : SameLines a b) (hbc : SameLines b c) :
    SameLines a c :=
  ⟨hbc.lines.trans hab.lines, hbc.armed.trans hab.armed, hbc.enabled.trans hab.enabled,
    hbc.prepared.trans hab.prepared, hbc.flag.trans hab.flag⟩

theorem isr_same (adapter : IrqAdapter) (status : UInt32) : SameLines adapter (adapter.isr status) := by
  unfold isr pushIsr
  simp only
  split
  · exact .refl adapter
  · split
    · exact ⟨rfl, rfl, rfl, rfl, rfl⟩
    · exact ⟨rfl, rfl, rfl, rfl, rfl⟩

theorem arrive_same (words : List UInt32) : ∀ adapter : IrqAdapter,
    SameLines adapter (adapter.arrive words) := by
  induction words with
  | nil => exact fun adapter => .refl adapter
  | cons word words ih => exact fun adapter => (isr_same adapter word).trans (ih _)

theorem pop_same (adapter : IrqAdapter) (level : UInt8 → Bool) (timestampUs : UInt32) :
    SameLines adapter (adapter.pop level timestampUs).2 := by
  unfold pop decodeLine
  split
  · split
    · exact .refl adapter
    · split <;> exact ⟨rfl, rfl, rfl, rfl, rfl⟩
  · split
    · exact .refl adapter
    · exact ⟨rfl, rfl, rfl, rfl, rfl⟩

theorem confirm_same (adapter : IrqAdapter) (answers : IrqAnswers) (look : Nat) :
    SameLines adapter (adapter.confirmSleepReady answers look).2 := by
  unfold confirmSleepReady
  simp only
  split
  · exact arrive_same _ adapter
  · exact (arrive_same _ adapter).trans ⟨rfl, rfl, rfl, rfl, rfl⟩

theorem commit_same (adapter : IrqAdapter) (answers : IrqAnswers) :
    SameLines adapter (adapter.commitSleepPrepare answers).2 := by
  unfold commitSleepPrepare
  simp only
  split
  · split
    · exact confirm_same adapter answers 0
    · exact confirm_same adapter answers 0
  · exact .refl adapter

def takes (answers : IrqAnswers) (line : IrqLineConfig) : Bool :=
  answers.setIntrType line.gpioNum line.intrType

theorem restoreLine_keeps (answers : IrqAnswers) (mask : UInt32) (rest : List IrqLineConfig) :
    ∀ out : Result × IrqAdapter,
      (rest.foldl (restoreLine answers mask) out).2.lines = out.2.lines ∧
        (rest.foldl (restoreLine answers mask) out).2.sleepPreparedGpioMask =
          out.2.sleepPreparedGpioMask := by
  induction rest with
  | nil => exact fun out => ⟨rfl, rfl⟩
  | cons first rest ih =>
    intro out
    obtain ⟨hlines, hprepared⟩ := ih (restoreLine answers mask out first)
    rw [List.foldl_cons, hlines, hprepared]
    unfold restoreLine
    split
    · split
      · exact ⟨rfl, rfl⟩
      · exact ⟨rfl, rfl⟩
    · exact ⟨rfl, rfl⟩

theorem restoreLine_fold (answers : IrqAnswers) (mask : UInt32) {rest : List IrqLineConfig}
    (hrest : allValid rest = true) {line : IrqLineConfig} (hline : line.gpioNum ≤ 15) :
    ∀ out : Result × IrqAdapter,
      let res := rest.foldl (restoreLine answers mask) out
      let restored := rest.any fun other =>
        decide (other.gpioNum = line.gpioNum) && (other.isIn mask && takes answers other)
      line.isIn res.2.enabledGpioMask = (line.isIn out.2.enabledGpioMask || restored) ∧
        res.2.armed line.gpioNum = (out.2.armed line.gpioNum || restored) := by
  induction rest with
  | nil => exact fun out => ⟨(Bool.or_false _).symm, (Bool.or_false _).symm⟩
  | cons first rest ih =>
    intro out
    obtain ⟨hfirst, _, hvalid⟩ := allValid_cons hrest
    obtain ⟨henabled, harmed⟩ := ih hvalid (restoreLine answers mask out first)
    simp only [List.foldl_cons, List.any_cons] at henabled harmed ⊢
    rw [henabled, harmed]
    unfold restoreLine
    by_cases hin : first.isIn mask = true
    · by_cases htakes : answers.setIntrType first.gpioNum first.intrType = true
      · have htaken : takes answers first = true := htakes
        simp only [hin, htakes, htaken, ↓reduceIte, Bool.and_true]
        rw [isIn_or hfirst hline, Bool.or_comm (decide _), Bool.or_assoc]
        refine ⟨rfl, ?_⟩
        by_cases hsame : first.gpioNum = line.gpioNum
        · rw [hsame, Function.update_self, decide_eq_true rfl]
          simp
        · rw [Function.update_of_ne (Ne.symm hsame), decide_eq_false hsame, Bool.false_or]
      · have hrefused : takes answers first = false := Bool.eq_false_iff.mpr htakes
        simp only [hin, htakes, hrefused, ↓reduceIte, Bool.and_false, Bool.false_or,
          Bool.false_eq_true]
        exact ⟨trivial, trivial⟩
    · simp only [hin, ↓reduceIte, Bool.false_eq_true, Bool.false_and, Bool.and_false, Bool.false_or]
      exact ⟨trivial, trivial⟩

theorem restoreMask_lines (adapter : IrqAdapter) (answers : IrqAnswers) (mask : UInt32) :
    (adapter.restoreMask answers mask).2.lines = adapter.lines :=
  (restoreLine_keeps answers mask adapter.lines (.ok, adapter)).1

/-- The roll-back of a mask arms the lines that the SDK takes, and forgets all. -/
theorem restoreMask_spec (adapter : IrqAdapter) (answers : IrqAnswers) (mask : UInt32)
    {line : IrqLineConfig} (hline : line ∈ adapter.lines) :
    line.isIn (adapter.restoreMask answers mask).2.enabledGpioMask =
        (line.isIn adapter.enabledGpioMask || (line.isIn mask && takes answers line)) ∧
      (adapter.restoreMask answers mask).2.armed line.gpioNum =
        (adapter.armed line.gpioNum || (line.isIn mask && takes answers line)) ∧
      line.isIn (adapter.restoreMask answers mask).2.sleepPreparedGpioMask =
        (line.isIn adapter.sleepPreparedGpioMask && !line.isIn mask) := by
  obtain ⟨henabled, harmed⟩ :=
    restoreLine_fold answers mask adapter.allLinesValid (gpio_le hline) (.ok, adapter)
  rw [any_gpio adapter.allLinesValid hline fun other => other.isIn mask && takes answers other]
    at henabled harmed
  refine ⟨henabled, harmed, ?_⟩
  have hprepared := (restoreLine_keeps answers mask adapter.lines (.ok, adapter)).2
  unfold restoreMask
  simp only
  rw [isIn_without (gpio_le hline), hprepared]

theorem restoreMask_flag (adapter : IrqAdapter) (answers : IrqAnswers) (mask : UInt32) :
    (adapter.restoreMask answers mask).2.sleepPrepared = true ↔
      (adapter.restoreMask answers mask).2.sleepPreparedGpioMask ≠ 0 := by
  unfold restoreMask
  exact decide_eq_true_iff

def releases (answers : IrqAnswers) (line : IrqLineConfig) : Bool :=
  answers.setIntrType line.gpioNum .disable

def disarmed (answers : IrqAnswers) (armed : UInt8 → Bool) (lines : List IrqLineConfig) :
    List IrqLineConfig :=
  (lines.filter fun line => armed line.gpioNum).takeWhile fun line => releases answers line

def allRelease (answers : IrqAnswers) (armed : UInt8 → Bool) (lines : List IrqLineConfig) : Bool :=
  (lines.filter fun line => armed line.gpioNum).all fun line => releases answers line

structure SameRing (a b : IrqAdapter) : Prop where
  lines : b.lines = a.lines
  writeSeq : b.writeSeq = a.writeSeq
  readSeq : b.readSeq = a.readSeq
  decode : b.decodeStatus = a.decodeStatus
  active : b.activeGpioMask = a.activeGpioMask

theorem disarmLines_spec (answers : IrqAnswers) (armed : UInt8 → Bool) {rest : List IrqLineConfig}
    (hrest : allValid rest = true) :
    ∀ (mask : UInt32) (adapter : IrqAdapter),
      (∀ line ∈ rest, adapter.armed line.gpioNum = armed line.gpioNum) →
      let out := disarmLines answers rest mask adapter
      let isDisarmed := fun line : IrqLineConfig =>
        (disarmed answers armed rest).any fun other => decide (other.gpioNum = line.gpioNum)
      out.1 = allRelease answers armed rest ∧ SameRing adapter out.2.2 ∧
        out.2.2.sleepPreparedGpioMask = adapter.sleepPreparedGpioMask ∧
        out.2.2.sleepPrepared = adapter.sleepPrepared ∧
        ∀ line : IrqLineConfig, line.gpioNum ≤ 15 →
          line.isIn out.2.1 = (line.isIn mask || isDisarmed line) ∧
          line.isIn out.2.2.enabledGpioMask =
            (line.isIn adapter.enabledGpioMask && !isDisarmed line) ∧
          out.2.2.armed line.gpioNum = (adapter.armed line.gpioNum && !isDisarmed line) := by
  induction rest with
  | nil =>
    intro mask adapter _
    refine ⟨rfl, ⟨rfl, rfl, rfl, rfl, rfl⟩, rfl, rfl, fun line _ => ?_⟩
    exact ⟨(Bool.or_false _).symm, (Bool.and_true _).symm, (Bool.and_true _).symm⟩
  | cons first rest ih =>
    intro mask adapter hsame
    obtain ⟨hfirst, hapart, hvalid⟩ := allValid_cons hrest
    have harmed := hsame first List.mem_cons_self
    unfold disarmLines disarmed allRelease
    by_cases hon : armed first.gpioNum = true
    · rw [hon] at harmed
      simp only [harmed, hon, ↓reduceIte, List.filter_cons]
      by_cases hreleases : answers.setIntrType first.gpioNum .disable = true
      · have hreleased : releases answers first = true := hreleases
        simp only [hreleases, hreleased, ↓reduceIte, List.takeWhile_cons, List.all_cons, Bool.true_and,
          List.any_cons]
        obtain ⟨hall, hring, hprepared, hflag, hlines⟩ := ih hvalid (mask ||| first.gpioMask)
          { adapter with
            armed := Function.update adapter.armed first.gpioNum false
            enabledGpioMask := adapter.enabledGpioMask &&& ~~~first.gpioMask } (by
              intro line hmem
              simp only
              rw [Function.update_of_ne (Ne.symm (hapart line hmem).1)]
              exact hsame line (List.mem_cons_of_mem _ hmem))
        refine ⟨hall, ⟨hring.lines, hring.writeSeq, hring.readSeq, hring.decode, hring.active⟩,
          hprepared, hflag, fun line hline => ?_⟩
        obtain ⟨hmask, henabled, harmed'⟩ := hlines line hline
        rw [hmask, henabled, harmed', isIn_or hfirst hline, isIn_clear hfirst hline]
        simp only [disarmed]
        refine ⟨?_, ?_, ?_⟩
        · rw [Bool.or_comm (decide _), Bool.or_assoc]
        · rw [Bool.and_comm (!decide _), Bool.and_assoc, Bool.not_or]
        · by_cases hgpio : first.gpioNum = line.gpioNum
          · rw [hgpio, Function.update_self, decide_eq_true rfl, Bool.true_or, Bool.not_true,
              Bool.and_false, Bool.false_and]
          · rw [Function.update_of_ne (Ne.symm hgpio), decide_eq_false hgpio, Bool.false_or]
      · have hrefused : releases answers first = false := Bool.eq_false_iff.mpr hreleases
        simp only [hreleases, hrefused, ↓reduceIte, Bool.false_eq_true, List.takeWhile_cons,
          List.all_cons, Bool.false_and, List.any_nil, Bool.or_false, Bool.not_false, Bool.and_true]
        exact ⟨trivial, ⟨rfl, rfl, rfl, rfl, rfl⟩, trivial, trivial, fun _ _ => ⟨trivial, trivial, trivial⟩⟩
    · have hoff : adapter.armed first.gpioNum = false := by
        rw [harmed]
        exact Bool.eq_false_iff.mpr hon
      simp only [hoff, hon, Bool.false_eq_true, ↓reduceIte, List.filter_cons]
      exact ih hvalid mask adapter fun line hmem => hsame line (List.mem_cons_of_mem _ hmem)

theorem SameRing.refl (a : IrqAdapter) : SameRing a a := ⟨rfl, rfl, rfl, rfl, rfl⟩

theorem SameRing.trans {a b c : IrqAdapter} (hab : SameRing a b) (hbc : SameRing b c) :
    SameRing a c :=
  ⟨hbc.lines.trans hab.lines, hbc.writeSeq.trans hab.writeSeq, hbc.readSeq.trans hab.readSeq,
    hbc.decode.trans hab.decode, hbc.active.trans hab.active⟩

theorem SameRing.isr {a b : IrqAdapter} (h : SameRing a b) (status : UInt32) :
    SameRing (a.isr status) (b.isr status) := by
  obtain ⟨hlines, hwrite, hread, hdecode, hactive⟩ := h
  unfold IrqAdapter.isr pushIsr
  simp only [hactive, hwrite, hread]
  by_cases hnone : status &&& a.activeGpioMask = 0
  · simp only [hnone, ↓reduceIte]
    exact ⟨hlines, hwrite, hread, hdecode, hactive⟩
  · simp only [hnone, ↓reduceIte]
    by_cases hroom : a.writeSeq - a.readSeq < irqRingCapacity
    · simp only [hroom, ↓reduceIte]
      exact ⟨hlines, rfl, rfl, hdecode, rfl⟩
    · simp only [hroom, ↓reduceIte]
      exact ⟨hlines, rfl, rfl, hdecode, rfl⟩

theorem SameRing.arrive (words : List UInt32) : ∀ {a b : IrqAdapter}, SameRing a b →
    SameRing (a.arrive words) (b.arrive words) := by
  induction words with
  | nil => exact fun h => h
  | cons word words ih => exact fun h => ih (h.isr word)

theorem SameRing.isQuiet {a b : IrqAdapter} (h : SameRing a b) (status : UInt32) :
    b.isQuiet status = a.isQuiet status := by
  unfold IrqAdapter.isQuiet pendingCount
  rw [h.writeSeq, h.readSeq, h.decode, h.active]

/-- The interrupt routine and the hardware are quiet at a look, after the arrivals before it. -/
def quietAt (adapter : IrqAdapter) (answers : IrqAnswers) (looks : List Nat) (last : Nat) : Bool :=
  (looks.foldl (fun adapter look => adapter.arrive (answers.arrivals look)) adapter).isQuiet
    (answers.status last)

/-- A preparation of an adapter that is not prepared gets past its first look. -/
def Starts (adapter : IrqAdapter) (answers : IrqAnswers) : Prop :=
  adapter.sleepPrepared = false ∧ adapter.quietAt answers [0] 0 = true

/-- It gets to its end. -/
def Finishes (adapter : IrqAdapter) (answers : IrqAnswers) : Prop :=
  allRelease answers adapter.armed adapter.lines = true ∧ adapter.quietAt answers [0, 1] 1 = true

/-- The effect of a preparation on the lines. -/
structure Prepared (adapter : IrqAdapter) (answers : IrqAnswers) (out : Result × IrqAdapter) : Prop where
  ok : out.1 = .ok
  ring : SameRing ([0, 1].foldl (fun adapter look => adapter.arrive (answers.arrivals look)) adapter) out.2
  flag : out.2.sleepPrepared = true ↔ out.2.sleepPreparedGpioMask ≠ 0
  lines : ∀ line ∈ adapter.lines,
    line.isIn out.2.sleepPreparedGpioMask = adapter.armed line.gpioNum ∧
    line.isIn out.2.enabledGpioMask =
      (line.isIn adapter.enabledGpioMask && !adapter.armed line.gpioNum) ∧
    out.2.armed line.gpioNum = false

/-- The effect of a preparation that is rolled back. -/
structure RolledBack (adapter : IrqAdapter) (answers : IrqAnswers) (out : Result × IrqAdapter) : Prop where
  failed : out.1 = .errState
  same : out.2.lines = adapter.lines
  flag : out.2.sleepPrepared = true ↔ out.2.sleepPreparedGpioMask ≠ 0
  lines : ∀ line ∈ adapter.lines,
    let gone := decide (line ∈ disarmed answers adapter.armed adapter.lines)
    line.isIn out.2.enabledGpioMask =
        ((line.isIn adapter.enabledGpioMask && !gone) || (gone && takes answers line)) ∧
      out.2.armed line.gpioNum =
        ((adapter.armed line.gpioNum && !gone) || (gone && takes answers line)) ∧
      line.isIn out.2.sleepPreparedGpioMask = (line.isIn adapter.sleepPreparedGpioMask && !gone)

theorem disarmed_sublist (answers : IrqAnswers) (armed : UInt8 → Bool) (lines : List IrqLineConfig) :
    List.Sublist (disarmed answers armed lines) lines :=
  (List.takeWhile_sublist _).trans List.filter_sublist

theorem armed_of_disarmed {answers : IrqAnswers} {armed : UInt8 → Bool} {lines : List IrqLineConfig}
    {line : IrqLineConfig} (h : line ∈ disarmed answers armed lines) : armed line.gpioNum = true :=
  (List.mem_filter.mp ((List.takeWhile_sublist _).subset h)).2

/-- When all armed lines can be disabled, they are. -/
theorem disarmed_all {answers : IrqAnswers} {armed : UInt8 → Bool} {lines : List IrqLineConfig}
    (h : allRelease answers armed lines = true) {line : IrqLineConfig} (hline : line ∈ lines) :
    decide (line ∈ disarmed answers armed lines) = armed line.gpioNum := by
  have hall : disarmed answers armed lines = lines.filter fun line => armed line.gpioNum :=
    List.takeWhile_eq_self_iff.mpr (List.all_eq_true.mp h)
  rw [hall, Bool.eq_iff_iff, decide_eq_true_iff, List.mem_filter]
  exact ⟨And.right, fun harmed => ⟨hline, harmed⟩⟩

theorem any_disarmed {answers : IrqAnswers} {armed : UInt8 → Bool} {lines : List IrqLineConfig}
    (hvalid : allValid lines = true) {line : IrqLineConfig} (hline : line ∈ lines) :
    ((disarmed answers armed lines).any fun other => decide (other.gpioNum = line.gpioNum)) =
      decide (line ∈ disarmed answers armed lines) := by
  rw [Bool.eq_iff_iff, List.any_eq_true, decide_eq_true_iff]
  constructor
  · rintro ⟨other, hother, hsame⟩
    have heq := eq_of_mem hvalid ((disarmed_sublist _ _ _).subset hother) hline
      (Or.inl (decide_eq_true_iff.mp hsame))
    rwa [← heq]
  · exact fun hmem => ⟨line, hmem, decide_eq_true rfl⟩

theorem disarm_looked (adapter looked : IrqAdapter) (answers : IrqAnswers)
    (hlooked : SameLines adapter looked) :
    let out := disarmLines answers looked.lines 0 looked
    out.1 = allRelease answers adapter.armed adapter.lines ∧ SameRing looked out.2.2 ∧
      out.2.2.sleepPreparedGpioMask = adapter.sleepPreparedGpioMask ∧
      out.2.2.sleepPrepared = adapter.sleepPrepared ∧
      ∀ line ∈ adapter.lines,
        let gone := decide (line ∈ disarmed answers adapter.armed adapter.lines)
        line.isIn out.2.1 = gone ∧
        line.isIn out.2.2.enabledGpioMask = (line.isIn adapter.enabledGpioMask && !gone) ∧
        out.2.2.armed line.gpioNum = (adapter.armed line.gpioNum && !gone) := by
  obtain ⟨hall, hring, hprepared, hflag, hlines⟩ :=
    disarmLines_spec answers adapter.armed looked.allLinesValid 0 looked
      fun line _ => congrFun hlooked.armed line.gpioNum
  simp only at hlines
  rw [hlooked.prepared] at hprepared
  rw [hlooked.flag] at hflag
  rw [hlooked.enabled, hlooked.armed] at hlines
  refine ⟨hall.trans (by rw [hlooked.lines]), hring, hprepared, hflag, fun line hline => ?_⟩
  obtain ⟨hmask, henabled, harmed⟩ := hlines line (gpio_le hline)
  have hany : ((disarmed answers adapter.armed looked.lines).any fun other =>
      decide (other.gpioNum = line.gpioNum)) =
        decide (line ∈ disarmed answers adapter.armed adapter.lines) := by
    rw [hlooked.lines]
    exact any_disarmed adapter.allLinesValid hline
  rw [hany] at hmask henabled harmed
  rw [isIn_zero, Bool.false_or] at hmask
  exact ⟨hmask, henabled, harmed⟩

theorem rollBack_spec (adapter before : IrqAdapter) (answers : IrqAnswers) (mask : UInt32)
    (hlines : before.lines = adapter.lines)
    (hprepared : before.sleepPreparedGpioMask = adapter.sleepPreparedGpioMask)
    (hstate : ∀ line ∈ adapter.lines,
      let gone := decide (line ∈ disarmed answers adapter.armed adapter.lines)
      line.isIn mask = gone ∧
      line.isIn before.enabledGpioMask = (line.isIn adapter.enabledGpioMask && !gone) ∧
      before.armed line.gpioNum = (adapter.armed line.gpioNum && !gone)) :
    RolledBack adapter answers (.errState, (before.recordFailure.restoreMask answers mask).2) := by
  refine ⟨rfl, ?_, restoreMask_flag _ answers mask, fun line hline => ?_⟩
  · rw [restoreMask_lines]
    exact hlines
  · have hbefore : line ∈ before.recordFailure.lines := by
      rw [← hlines] at hline
      exact hline
    obtain ⟨henabled, harmed, hrest⟩ := restoreMask_spec before.recordFailure answers mask hbefore
    obtain ⟨hmask, hon, hflag⟩ := hstate line hline
    simp only
    rw [henabled, harmed, hrest, hmask]
    refine ⟨congrArg (· || _) hon, congrArg (· || _) hflag, ?_⟩
    exact congrArg (fun prepared => line.isIn prepared && _) hprepared

theorem prepareForSleep_cases (adapter : IrqAdapter) (answers : IrqAnswers) :
    (adapter.sleepPrepared = true ∧ (adapter.prepareForSleep answers).1 = .ok ∧
        SameLines adapter (adapter.prepareForSleep answers).2 ∧
        SameRing adapter (adapter.prepareForSleep answers).2) ∨
      (adapter.sleepPrepared = false ∧ ¬adapter.Starts answers ∧
        (adapter.prepareForSleep answers).1 = .errState ∧
        SameLines adapter (adapter.prepareForSleep answers).2) ∨
      (adapter.Starts answers ∧ ¬adapter.Finishes answers ∧
        RolledBack adapter answers (adapter.prepareForSleep answers)) ∨
      (adapter.Starts answers ∧ adapter.Finishes answers ∧
        Prepared adapter answers (adapter.prepareForSleep answers)) := by
  have hcounted : SameLines adapter
      { adapter with sleepPrepareAttempts := adapter.sleepPrepareAttempts + 1 } :=
    ⟨rfl, rfl, rfl, rfl, rfl⟩
  have hsame : SameRing adapter
      { adapter with sleepPrepareAttempts := adapter.sleepPrepareAttempts + 1 } :=
    ⟨rfl, rfl, rfl, rfl, rfl⟩
  by_cases hprepared : adapter.sleepPrepared = true
  · left
    have hout : adapter.prepareForSleep answers =
        (.ok, { adapter with sleepPrepareAttempts := adapter.sleepPrepareAttempts + 1 }) :=
      if_pos hprepared
    rw [hout]
    exact ⟨hprepared, rfl, hcounted, hsame⟩
  · right
    unfold prepareForSleep
    simp only
    rw [if_neg hprepared]
    generalize { adapter with sleepPrepareAttempts := adapter.sleepPrepareAttempts + 1 } = counted
      at hcounted hsame
    have hlooked := hcounted.trans (arrive_same (answers.arrivals 0) counted)
    have hring := hsame.arrive (answers.arrivals 0)
    have hfirst : (counted.arrive (answers.arrivals 0)).isQuiet (answers.status 0) =
        adapter.quietAt answers [0] 0 := hring.isQuiet (answers.status 0)
    rw [hfirst]
    have hdown : adapter.sleepPrepared = false := Bool.eq_false_iff.mpr hprepared
    by_cases hstarts : adapter.quietAt answers [0] 0 = true
    · right
      rw [if_pos hstarts]
      generalize counted.arrive (answers.arrivals 0) = looked at hlooked hring
      obtain ⟨hall, hdisarmed, hmask, hflag, hlines⟩ := disarm_looked adapter looked answers hlooked
      generalize disarmLines answers looked.lines 0 looked = out
        at hall hdisarmed hmask hflag hlines
      obtain ⟨through, mask, after⟩ := out
      simp only at hall hdisarmed hmask hflag hlines ⊢
      by_cases hthrough : through = true
      · rw [if_pos hthrough]
        have hlast := (hring.trans hdisarmed).arrive (answers.arrivals 1)
        have hkept := arrive_same (answers.arrivals 1) after
        have hsecond : (after.arrive (answers.arrivals 1)).isQuiet (answers.status 1) =
            adapter.quietAt answers [0, 1] 1 := hlast.isQuiet (answers.status 1)
        rw [hsecond]
        generalize after.arrive (answers.arrivals 1) = last at hlast hkept
        by_cases hquiet : adapter.quietAt answers [0, 1] 1 = true
        · right
          rw [if_pos hquiet]
          have hrelease := hall.symm.trans hthrough
          refine ⟨⟨hdown, hstarts⟩, ⟨hrelease, hquiet⟩, rfl, ?_, decide_eq_true_iff, ?_⟩
          · exact ⟨hlast.lines, hlast.writeSeq, hlast.readSeq, hlast.decode, hlast.active⟩
          · intro line hline
            obtain ⟨hgone, henabled, harmed⟩ := hlines line hline
            rw [disarmed_all hrelease hline] at hgone henabled harmed
            refine ⟨hgone, ?_, ?_⟩
            · simp only
              rw [hkept.enabled]
              exact henabled
            · simp only
              rw [hkept.armed, harmed, Bool.and_not_self]
        · left
          rw [if_neg hquiet]
          refine ⟨⟨hdown, hstarts⟩, fun hfinishes => hquiet hfinishes.2, ?_⟩
          apply rollBack_spec adapter last answers mask
          · exact hkept.lines.trans (hdisarmed.lines.trans hlooked.lines)
          · exact hkept.prepared.trans hmask
          · rw [hkept.enabled, hkept.armed]
            exact hlines
      · rw [if_neg hthrough]
        refine Or.inl ⟨⟨hdown, hstarts⟩, fun hfinishes => hthrough (hall.trans hfinishes.1), ?_⟩
        exact rollBack_spec adapter after answers mask (hdisarmed.lines.trans hlooked.lines) hmask hlines
    · left
      rw [if_neg hstarts]
      exact ⟨hdown, fun h => hstarts h.2, rfl, hlooked.trans ⟨rfl, rfl, rfl, rfl, rfl⟩⟩

/-- The lines are where the last calls of `enable` want them, `wanted` by line. -/
structure Sound (wanted : UInt8 → Bool) (adapter : IrqAdapter) : Prop where
  known : ∀ line ∈ adapter.lines,
    line.isIn (adapter.enabledGpioMask ||| adapter.sleepPreparedGpioMask) = wanted line.lineId
  armed : ∀ line ∈ adapter.lines,
    adapter.armed line.gpioNum = line.isIn adapter.enabledGpioMask
  flag : adapter.sleepPrepared = true ↔ adapter.sleepPreparedGpioMask ≠ 0

variable {wanted : UInt8 → Bool} {adapter : IrqAdapter}

theorem Sound.union (h : Sound wanted adapter) {line : IrqLineConfig} (hline : line ∈ adapter.lines) :
    (line.isIn adapter.enabledGpioMask || line.isIn adapter.sleepPreparedGpioMask) =
      wanted line.lineId := by
  rw [← isIn_union (gpio_le hline)]
  exact h.known line hline

theorem Sound.prepared_none (h : Sound wanted adapter) (hdown : adapter.sleepPrepared = false)
    (line : IrqLineConfig) : line.isIn adapter.sleepPreparedGpioMask = false := by
  have hzero : adapter.sleepPreparedGpioMask = 0 := by
    by_contra hne
    rw [h.flag.mpr hne] at hdown
    cases hdown
  rw [hzero, isIn_zero]

theorem Sound.same {other : IrqAdapter} (h : Sound wanted adapter) (hsame : SameLines adapter other) :
    Sound wanted other := by
  refine ⟨?_, ?_, ?_⟩
  · rw [hsame.lines, hsame.enabled, hsame.prepared]
    exact h.known
  · rw [hsame.lines, hsame.armed, hsame.enabled]
    exact h.armed
  · rw [hsame.flag, hsame.prepared]
    exact h.flag

/-- The lines of the preparation can be enabled again, or are enabled already. -/
def AbortKeeps (answers : IrqAnswers) (adapter : IrqAdapter) : Prop :=
  ∀ line ∈ adapter.lines, line.isIn adapter.sleepPreparedGpioMask = true →
    line.isIn adapter.enabledGpioMask = true ∨ takes answers line = true

theorem abort_sound (h : Sound wanted adapter) (answers : IrqAnswers) :
    Sound wanted (adapter.abortSleepPrepare answers).2 ↔ AbortKeeps answers adapter := by
  unfold abortSleepPrepare
  by_cases hprepared : adapter.sleepPrepared = true
  · rw [if_pos hprepared]
    have hspec {line : IrqLineConfig} (hline : line ∈ adapter.lines) :=
      restoreMask_spec adapter answers adapter.sleepPreparedGpioMask hline
    have hlines := restoreMask_lines adapter answers adapter.sleepPreparedGpioMask
    have hflag := restoreMask_flag adapter answers adapter.sleepPreparedGpioMask
    generalize (adapter.restoreMask answers adapter.sleepPreparedGpioMask).2 = after
      at hspec hlines hflag
    constructor
    · intro hafter line hline hin
      obtain ⟨henabled, _, hrest⟩ := hspec hline
      have hwanted := hafter.union (show line ∈ after.lines by rw [hlines]; exact hline)
      rw [henabled, hrest, hin, ← h.union hline, hin] at hwanted
      simpa using hwanted
    · intro hkeeps
      refine ⟨?_, ?_, hflag⟩
      · intro line hline
        rw [hlines] at hline
        obtain ⟨henabled, _, hrest⟩ := hspec hline
        rw [isIn_union (gpio_le hline), henabled, hrest, ← h.union hline]
        by_cases hin : line.isIn adapter.sleepPreparedGpioMask = true
        · rcases hkeeps line hline hin with hon | htakes
          · simp [hin, hon]
          · simp [hin, htakes]
        · simp [hin]
      · intro line hline
        rw [hlines] at hline
        obtain ⟨henabled, harmed, _⟩ := hspec hline
        rw [henabled, harmed, h.armed line hline]
  · rw [if_neg hprepared]
    have hdown := Bool.eq_false_iff.mpr hprepared
    refine ⟨fun _ line _ hin => ?_, fun _ => h⟩
    rw [h.prepared_none hdown] at hin
    cases hin

/-- The lines that a failing preparation disabled can be enabled again. -/
def PrepareKeeps (answers : IrqAnswers) (adapter : IrqAdapter) : Prop :=
  adapter.Starts answers → ¬adapter.Finishes answers →
    ∀ line ∈ disarmed answers adapter.armed adapter.lines, takes answers line = true

theorem rolledBack_sound (h : Sound wanted adapter) (hdown : adapter.sleepPrepared = false)
    {answers : IrqAnswers} {out : Result × IrqAdapter} (hback : RolledBack adapter answers out) :
    Sound wanted out.2 ↔
      ∀ line ∈ disarmed answers adapter.armed adapter.lines, takes answers line = true := by
  have hgone {line : IrqLineConfig} (hmem : line ∈ disarmed answers adapter.armed adapter.lines) :
      line.isIn adapter.enabledGpioMask = true := by
    rw [← h.armed line ((disarmed_sublist _ _ _).subset hmem)]
    exact armed_of_disarmed hmem
  constructor
  · intro hafter line hmem
    have hline := (disarmed_sublist _ _ _).subset hmem
    obtain ⟨henabled, _, hprepared⟩ := hback.lines line hline
    have hwanted := hafter.union (show line ∈ out.2.lines by rw [hback.same]; exact hline)
    rw [henabled, hprepared, h.prepared_none hdown, decide_eq_true hmem, ← h.union hline,
      hgone hmem] at hwanted
    simpa using hwanted
  · intro htakes
    refine ⟨?_, ?_, hback.flag⟩
    · intro line hline
      rw [hback.same] at hline
      obtain ⟨henabled, _, hprepared⟩ := hback.lines line hline
      rw [isIn_union (gpio_le hline), henabled, hprepared, h.prepared_none hdown, ← h.union hline,
        h.prepared_none hdown]
      by_cases hmem : line ∈ disarmed answers adapter.armed adapter.lines
      · simp [hmem, htakes line hmem, hgone hmem]
      · simp [hmem]
    · intro line hline
      rw [hback.same] at hline
      obtain ⟨henabled, harmed, _⟩ := hback.lines line hline
      rw [henabled, harmed, h.armed line hline]

theorem prepared_sound (h : Sound wanted adapter) (hdown : adapter.sleepPrepared = false)
    {answers : IrqAnswers} {out : Result × IrqAdapter} (hout : Prepared adapter answers out)
    (hlines : out.2.lines = adapter.lines) : Sound wanted out.2 := by
  refine ⟨?_, ?_, hout.flag⟩
  · intro line hline
    rw [hlines] at hline
    obtain ⟨hprepared, henabled, _⟩ := hout.lines line hline
    rw [isIn_union (gpio_le hline), henabled, hprepared, h.armed line hline, ← h.union hline,
      h.prepared_none hdown]
    simp
  · intro line hline
    rw [hlines] at hline
    obtain ⟨_, henabled, harmed⟩ := hout.lines line hline
    rw [henabled, harmed, h.armed line hline, Bool.and_not_self]

theorem prepareForSleep_lines (adapter : IrqAdapter) (answers : IrqAnswers) :
    (adapter.prepareForSleep answers).2.lines = adapter.lines := by
  rcases prepareForSleep_cases adapter answers with
    ⟨_, _, hsame, _⟩ | ⟨_, _, _, hsame⟩ | ⟨_, _, hback⟩ | ⟨_, _, hout⟩
  · exact hsame.lines
  · exact hsame.lines
  · exact hback.same
  · have hlines := hout.ring.lines
    simp only [List.foldl_cons, List.foldl_nil] at hlines
    rw [hlines, (arrive_same _ _).lines, (arrive_same _ _).lines]

theorem prepare_sound (h : Sound wanted adapter) (answers : IrqAnswers) :
    Sound wanted (adapter.prepareForSleep answers).2 ↔ PrepareKeeps answers adapter := by
  have hlines := prepareForSleep_lines adapter answers
  unfold PrepareKeeps
  rcases prepareForSleep_cases adapter answers with
    ⟨hup, _, hsame, _⟩ | ⟨_, hnot, _, hsame⟩ | ⟨hstarts, hnot, hback⟩ | ⟨hstarts, hfinishes, hout⟩
  · refine ⟨fun _ hstarts => ?_, fun _ => h.same hsame⟩
    rw [hstarts.1] at hup
    cases hup
  · exact ⟨fun _ hstarts => absurd hstarts hnot, fun _ => h.same hsame⟩
  · rw [rolledBack_sound h hstarts.1 hback]
    exact ⟨fun htakes _ _ => htakes, fun htakes => htakes hstarts hnot⟩
  · exact ⟨fun _ _ hnot => absurd hfinishes hnot, fun _ => prepared_sound h hstarts.1 hout hlines⟩

/-- A line that is disabled is not recorded for the roll-back. -/
def EnableKeeps (answers : IrqAnswers) (lineId : UInt8) (enabled : Bool) (adapter : IrqAdapter) : Prop :=
  enabled = false → ∀ line ∈ adapter.lines, line.lineId = lineId → releases answers line = true →
    line.isIn adapter.sleepPreparedGpioMask = false

/-- A call of `enable` that succeeds changes what is wanted. -/
def wants (wanted : UInt8 → Bool) (lineId : UInt8) (enabled : Bool) (rc : Result) : UInt8 → Bool :=
  if rc = .ok then Function.update wanted lineId enabled else wanted

theorem gpioNum_eq_iff {line other : IrqLineConfig} (hline : line ∈ adapter.lines)
    (hother : other ∈ adapter.lines) :
    line.gpioNum = other.gpioNum ↔ other.lineId = line.lineId := by
  constructor
  · intro hsame
    rw [eq_of_mem adapter.allLinesValid hline hother (Or.inl hsame)]
  · intro hsame
    rw [eq_of_mem adapter.allLinesValid hother hline (Or.inr hsame)]

/-- What the call of `enable` for a line leaves when the SDK takes it. -/
structure Switched (line : IrqLineConfig) (on : Bool) (before after : IrqAdapter) : Prop where
  lines : after.lines = before.lines
  enabled : ∀ other ∈ before.lines, other.isIn after.enabledGpioMask =
    if other.lineId = line.lineId then on else other.isIn before.enabledGpioMask
  armed : ∀ other ∈ before.lines, after.armed other.gpioNum =
    if other.lineId = line.lineId then on else before.armed other.gpioNum
  prepared : after.sleepPreparedGpioMask = before.sleepPreparedGpioMask
  flag : after.sleepPrepared = before.sleepPrepared

theorem isIn_switched {line other : IrqLineConfig} (hline : line ∈ adapter.lines)
    (hother : other ∈ adapter.lines) (enabled : Bool) :
    other.isIn (if enabled = true then adapter.enabledGpioMask ||| line.gpioMask
        else adapter.enabledGpioMask &&& ~~~line.gpioMask) =
      if other.lineId = line.lineId then enabled else other.isIn adapter.enabledGpioMask := by
  have honly := gpioNum_eq_iff hline hother
  cases enabled with
  | true =>
    rw [if_pos rfl, isIn_or (gpio_le hline) (gpio_le hother)]
    by_cases hsame : other.lineId = line.lineId
    · rw [if_pos hsame, decide_eq_true (honly.mpr hsame), Bool.true_or]
    · rw [if_neg hsame, decide_eq_false fun heq => hsame (honly.mp heq), Bool.false_or]
  | false =>
    rw [if_neg Bool.false_ne_true, isIn_clear (gpio_le hline) (gpio_le hother)]
    by_cases hsame : other.lineId = line.lineId
    · rw [if_pos hsame, decide_eq_true (honly.mpr hsame), Bool.not_true, Bool.false_and]
    · rw [if_neg hsame, decide_eq_false fun heq => hsame (honly.mp heq), Bool.not_false, Bool.true_and]

theorem armed_switched {line other : IrqLineConfig} (hline : line ∈ adapter.lines)
    (hother : other ∈ adapter.lines) (enabled : Bool) :
    Function.update adapter.armed line.gpioNum enabled other.gpioNum =
      if other.lineId = line.lineId then enabled else adapter.armed other.gpioNum := by
  have honly := gpioNum_eq_iff hline hother
  by_cases hsame : other.lineId = line.lineId
  · rw [if_pos hsame, honly.mpr hsame, Function.update_self]
  · rw [if_neg hsame, Function.update_of_ne fun heq => hsame (honly.mp heq.symm)]

theorem enable_cases (adapter : IrqAdapter) (answers : IrqAnswers) (lineId : UInt8) (enabled : Bool) :
    (∀ line ∈ adapter.lines, line.lineId ≠ lineId) ∧
        adapter.enable answers lineId enabled = (.errNotFound, adapter) ∨
    ∃ line ∈ adapter.lines, line.lineId = lineId ∧
      ((answers.setIntrType line.gpioNum (if enabled then line.intrType else .disable) = false ∧
          (adapter.enable answers lineId enabled).1 = .errState ∧
          SameLines adapter (adapter.enable answers lineId enabled).2) ∨
        answers.setIntrType line.gpioNum (if enabled then line.intrType else .disable) = true ∧
          (adapter.enable answers lineId enabled).1 = .ok ∧
          Switched line enabled adapter (adapter.enable answers lineId enabled).2) := by
  unfold enable
  cases hfind : adapter.lines.find? fun line => line.lineId == lineId with
  | none =>
    have hnone := List.find?_eq_none.mp hfind
    exact Or.inl ⟨fun line hline hid => hnone line hline (beq_iff_eq.mpr hid), rfl⟩
  | some line =>
    have hline := List.mem_of_find?_eq_some hfind
    have hfound := List.find?_some hfind
    refine Or.inr ⟨line, hline, beq_iff_eq.mp hfound, ?_⟩
    cases hset : answers.setIntrType line.gpioNum (if enabled then line.intrType else .disable) with
    | false =>
      simp only [hset, Bool.false_eq_true, if_false]
      exact Or.inl ⟨trivial, trivial, rfl, rfl, rfl, rfl, rfl⟩
    | true =>
      simp only [hset, if_true]
      exact Or.inr ⟨trivial, trivial, rfl, fun other hother => isIn_switched hline hother enabled,
        fun other hother => armed_switched hline hother enabled, rfl, rfl⟩

/-- A line that is switched off is forgotten by the preparation just when it is not recorded. -/
theorem switched_sound (h : Sound wanted adapter) {line : IrqLineConfig} {enabled : Bool}
    {after : IrqAdapter} (hline : line ∈ adapter.lines)
    (hswitched : Switched line enabled adapter after) :
    Sound (Function.update wanted line.lineId enabled) after ↔
      (enabled = false → line.isIn adapter.sleepPreparedGpioMask = false) := by
  constructor
  · intro hafter hoff
    have hmem : line ∈ after.lines := by
      rw [hswitched.lines]
      exact hline
    have hknown := hafter.union hmem
    rw [hswitched.enabled line hline, if_pos rfl, hswitched.prepared, Function.update_self, hoff,
      Bool.false_or] at hknown
    exact hknown
  · intro hkeeps
    refine ⟨?_, ?_, ?_⟩
    · intro other hother
      rw [hswitched.lines] at hother
      rw [isIn_union (gpio_le hother), hswitched.enabled other hother, hswitched.prepared]
      by_cases hsame : other.lineId = line.lineId
      · rw [if_pos hsame, hsame, Function.update_self]
        cases enabled with
        | true => exact Bool.true_or _
        | false =>
          rw [Bool.false_or, eq_of_mem adapter.allLinesValid hother hline (Or.inr hsame)]
          exact hkeeps rfl
      · rw [if_neg hsame, Function.update_of_ne hsame]
        exact h.union hother
    · intro other hother
      rw [hswitched.lines] at hother
      rw [hswitched.armed other hother, hswitched.enabled other hother, h.armed other hother]
    · rw [hswitched.flag, hswitched.prepared]
      exact h.flag

theorem enable_sound (h : Sound wanted adapter) (answers : IrqAnswers) (lineId : UInt8)
    (enabled : Bool) :
    Sound (wants wanted lineId enabled (adapter.enable answers lineId enabled).1)
        (adapter.enable answers lineId enabled).2 ↔
      EnableKeeps answers lineId enabled adapter := by
  rcases enable_cases adapter answers lineId enabled with
    ⟨hnone, heq⟩ | ⟨line, hline, rfl, ⟨hset, hrc, hsame⟩ | ⟨hset, hrc, hswitched⟩⟩
  · rw [heq]
    exact ⟨fun _ _ line hline hid => absurd hid (hnone line hline), fun _ => h⟩
  · rw [hrc]
    refine ⟨fun _ hoff other hother hid hreleases => ?_, fun _ => h.same hsame⟩
    rw [eq_of_mem adapter.allLinesValid hother hline (Or.inr hid), releases] at hreleases
    rw [hoff, if_neg Bool.false_ne_true, hreleases] at hset
    cases hset
  · rw [hrc, wants, if_pos rfl, switched_sound h hline hswitched]
    constructor
    · intro hkeeps hoff other hother hid _
      rw [eq_of_mem adapter.allLinesValid hother hline (Or.inr hid)]
      exact hkeeps hoff
    · intro hkeeps hoff
      rw [hoff, if_neg Bool.false_ne_true] at hset
      exact hkeeps hoff line hline rfl hset

end IrqAdapter

end EventFramework
