import EventFramework.Adapters.I2cWire
import Mathlib.Data.List.Infix

/-!
# The recovery of the I2C bus

What a transaction that ends with a recovery leaves on the lines, for a slave that lets go of SDA
within the recovery pulses and leaves the clock alone.
-/

namespace EventFramework
set_option autoImplicit false

open I2cAdapter I2cState I2cBus

def sclFalls : List BusLevel → Nat
  | new :: old :: rest => sclFalls (old :: rest) + if old.scl && !new.scl then 1 else 0
  | _ => 0

/-- From `start` on the slave leaves SCL alone, and while SCL is high after `n` falls it holds SDA just
if `hold n`. -/
def SlaveYields (hold : Nat → Bool) (start trace : List BusLevel) : Prop :=
  ∀ older ∈ trace.tails, start.length ≤ older.length → ∀ l ∈ older.head?,
    l.slaveScl = true ∧ (l.scl = true → l.slaveSda = !hold (sclFalls older - sclFalls start))

instance (hold : Nat → Bool) (start trace : List BusLevel) : Decidable (SlaveYields hold start trace) :=
  inferInstanceAs (Decidable (∀ older ∈ trace.tails, _ → ∀ l ∈ older.head?, _))

theorem SlaveYields.suffix {hold : Nat → Bool} {start newer older : List BusLevel}
    (h : SlaveYields hold start newer) (hsuffix : older <:+ newer) : SlaveYields hold start older :=
  fun oldest holdest => h oldest
    ((List.mem_tails _ _).mpr (((List.mem_tails _ _).mp holdest).trans hsuffix))

namespace I2cBus

structure Freed (b : I2cBus) : Prop where
  sda : b.now.sda = true
  scl : b.now.scl = true
  slaveSda : b.now.slaveSda = true

instance (b : I2cBus) : Decidable (Freed b) :=
  decidable_of_iff (b.now.sda = true ∧ b.now.scl = true ∧ b.now.slaveSda = true)
    ⟨fun h => ⟨h.1, h.2.1, h.2.2⟩, fun h => ⟨h.sda, h.scl, h.slaveSda⟩⟩

/-- After `n` falls of SCL since `start`, with the master's sides of SDA and SCL. -/
structure Pulsed (start : List BusLevel) (n : Nat) (m c : Bool) (b : I2cBus) : Prop where
  later : start.length ≤ b.trace.length
  falls : sclFalls b.trace = sclFalls start + n
  sda : b.now.masterSda = m
  scl : b.now.masterScl = c

variable {start : List BusLevel} {hold : Nat → Bool} {n : Nat} {m c : Bool} {b : I2cBus}
  {w : I2cWorld}

theorem Pulsed.slave (h : Pulsed start n m c b) (hyields : SlaveYields hold start b.trace) :
    b.now.slaveScl = true ∧ (c = true → b.now.slaveSda = !hold n) := by
  obtain ⟨hscl, hsda⟩ :=
    hyields b.trace ((List.mem_tails _ _).mpr (List.suffix_refl _)) h.later b.now rfl
  refine ⟨hscl, fun hc => ?_⟩
  have hhigh : b.now.scl = true := by
    rw [BusLevel.scl, h.scl, hc, hscl]
    rfl
  rw [hsda hhigh, h.falls, Nat.add_sub_cancel_left]

theorem Pulsed.push (h : Pulsed start n m c b) (l : BusLevel)
    (hyields : SlaveYields hold start (b.push l).trace) :
    Pulsed start (n + if c && !l.masterScl then 1 else 0) l.masterSda l.masterScl (b.push l) := by
  have hslave := (h.slave (hyields.suffix (List.suffix_cons _ _))).1
  have hlater : start.length ≤ (b.push l).trace.length := Nat.le_succ_of_le h.later
  have hscl := (hyields _ ((List.mem_tails _ _).mpr (List.suffix_refl _)) hlater l rfl).1
  refine ⟨hlater, ?_, rfl, rfl⟩
  change sclFalls b.trace + (if b.now.scl && !l.scl then 1 else 0) = _
  rw [h.falls, BusLevel.scl, BusLevel.scl, h.scl, hslave, hscl, Bool.and_true, Bool.and_true,
    Nat.add_assoc]

theorem Pulsed.move (h : Pulsed start n m c b) {l : BusLevel}
    (hyields : SlaveYields hold start (w.move l b).trace) :
    Pulsed start (n + if c && !l.masterScl then 1 else 0) l.masterSda l.masterScl (w.move l b) := by
  have hpushed := h.push l (hyields.suffix (w.settle_grows (b.push l)))
  refine w.settle_keeps_of (SlaveYields hold start) (fun _ _ h hsuffix => h.suffix hsuffix) _
    (fun b out hb hanswer => ?_) hpushed hyields
  have hsame := hb.push _ hanswer
  rw [hb.sda, hb.scl, Bool.and_not_self] at hsame
  exact hsame

theorem Pulsed.stay (h : Pulsed start n m c b)
    (hyields : SlaveYields hold start (w.move b.now b).trace) :
    Pulsed start n m c (w.move b.now b) := by
  have hsame := h.move hyields
  rw [h.sda, h.scl, Bool.and_not_self] at hsame
  exact hsame

theorem Pulsed.setSda (h : Pulsed start n m c b) (level : Bool)
    (hyields : SlaveYields hold start (w.hal.setSda level b).trace) :
    Pulsed start n level c (w.hal.setSda level b) := by
  have hmoved := h.move (l := { b.now with masterSda := level }) hyields
  refine ⟨hmoved.later, hmoved.falls.trans ?_, hmoved.sda, hmoved.scl.trans h.scl⟩
  rw [h.scl, Bool.and_not_self]
  rfl

theorem Pulsed.releaseScl (h : Pulsed start n m c b)
    (hyields : SlaveYields hold start (w.hal.setScl true b).trace) :
    Pulsed start n m true (w.hal.setScl true b) := by
  have hmoved := h.move (l := { b.now with masterScl := true }) hyields
  refine ⟨hmoved.later, hmoved.falls.trans ?_, hmoved.sda.trans h.sda, hmoved.scl⟩
  rw [Bool.not_true, Bool.and_false]
  rfl

theorem Pulsed.lowerScl (h : Pulsed start n m true b)
    (hyields : SlaveYields hold start (w.hal.setScl false b).trace) :
    Pulsed start (n + 1) m false (w.hal.setScl false b) := by
  have hmoved := h.move (l := { b.now with masterScl := false }) hyields
  exact ⟨hmoved.later, hmoved.falls, hmoved.sda.trans h.sda, hmoved.scl⟩

theorem Pulsed.scl_high (h : Pulsed start n m true b) (hyields : SlaveYields hold start b.trace) :
    b.now.scl = true := by
  rw [BusLevel.scl, h.scl, (h.slave hyields).1]
  rfl

theorem Pulsed.sda_eq (h : Pulsed start n true true b) (hyields : SlaveYields hold start b.trace) :
    b.now.sda = !hold n := by
  rw [BusLevel.sda, h.sda, (h.slave hyields).2 rfl, Bool.true_and]

/-- With both lines released the slave decides. -/
theorem Pulsed.freed_iff (h : Pulsed start n true true b)
    (hyields : SlaveYields hold start b.trace) : Freed b ↔ hold n = false := by
  have hsda := h.sda_eq hyields
  refine ⟨fun hfreed => ?_, fun hhold => ?_⟩
  · rw [hfreed.sda] at hsda
    exact Bool.not_eq_true' _ ▸ hsda.symm
  · rw [hhold] at hsda
    exact ⟨hsda, h.scl_high hyields, ((h.slave hyields).2 rfl).trans (by rw [hhold]; rfl)⟩

end I2cBus

namespace I2cAdapter

variable {start : List BusLevel} {hold : Nat → Bool} {n : Nat} {m c : Bool} {w : I2cWorld}
  {startedUs : Int} {s : I2cState I2cBus}

/-- A recovery pulse that finds SCL high and SDA low. -/
def lowPulse {ε : Type} (hal : I2cHal ε) (s : I2cState ε) : I2cState ε :=
  let raised := delayUs hal i2cHalfPeriodUs (sampleScl hal (releaseScl hal (readTime hal s).2)).2
  lowerScl hal (sampleSda hal raised).2

/-- Where pulse `n` of a recovery from `s` begins, if the pulses before it found SCL high and SDA low. -/
def pulseStart {ε : Type} (hal : I2cHal ε) (s : I2cState ε) : Nat → I2cState ε
  | 0 => releaseScl hal (releaseSda hal (updateCtx (fun c => { c with
      busRecoveries := c.busRecoveries + 1 }) s))
  | n + 1 => lowPulse hal (pulseStart hal s n)

theorem Steps.yields {k : Nat} {t : I2cState I2cBus} (h : Steps w.hal k s t)
    (hyields : SlaveYields hold start t.env.trace) : SlaveYields hold start s.env.trace :=
  hyields.suffix h.grows

theorem deadlineExpired_eq (s : I2cState I2cBus) :
    (deadlineExpired w.hal startedUs s).1 =
      decide (i2cTransactionTimeoutUs ≤ w.time s.env.trace - startedUs) := rfl

/-- SCL is high as soon as the adapter lets go of it, so only the deadline can stop a pulse. -/
theorem raiseScl_pulsed (h : Pulsed start n m c s.env)
    (hyields : SlaveYields hold start (raiseScl w.hal startedUs s).2.env.trace) :
    ((deadlineExpired w.hal startedUs s).1 = true ∧
      raiseScl w.hal startedUs s = (.errTimeout, (readTime w.hal s).2) ∧
      Pulsed start n m c (raiseScl w.hal startedUs s).2.env) ∨
    ((deadlineExpired w.hal startedUs s).1 = false ∧
      raiseScl w.hal startedUs s = (.ok, delayUs w.hal i2cHalfPeriodUs
        (sampleScl w.hal (releaseScl w.hal (readTime w.hal s).2)).2) ∧
      Pulsed start n m true (raiseScl w.hal startedUs s).2.env) := by
  cases hexpired : (deadlineExpired w.hal startedUs s).1 with
  | true =>
    have heq : raiseScl w.hal startedUs s = (.errTimeout, (readTime w.hal s).2) := if_pos hexpired
    rw [heq] at hyields ⊢
    exact Or.inl ⟨rfl, rfl, h.stay hyields⟩
  | false =>
    have heq : raiseScl w.hal startedUs s =
        let waited := waitSclHigh w.hal startedUs (releaseScl w.hal (readTime w.hal s).2)
        if waited.1 ≠ .ok then waited else (.ok, delayUs w.hal i2cHalfPeriodUs waited.2) :=
      if_neg (ne_true_of_eq_false hexpired)
    have hwaited : SlaveYields hold start
        (waitSclHigh w.hal startedUs (releaseScl w.hal (readTime w.hal s).2)).2.env.trace := by
      rw [heq] at hyields
      simp only at hyields
      split at hyields
      · exact hyields
      · exact (Steps.delayUs _ _).yields hyields
    have hreleased := (waitSclHigh_steps w.hal startedUs _).yields hwaited
    have hread := (Steps.setScl true _).yields hreleased
    have hhigh := (h.stay hread).releaseScl hreleased
    have hscl : (sampleScl w.hal (releaseScl w.hal (readTime w.hal s).2)).1 = true :=
      hhigh.scl_high hreleased
    have hwait : waitSclHigh w.hal startedUs (releaseScl w.hal (readTime w.hal s).2) =
        (.ok, (sampleScl w.hal (releaseScl w.hal (readTime w.hal s).2)).2) := by
      rw [waitSclHigh, i2cClockStretchTimeoutUs, waitSclHighFor]
      exact if_pos hscl
    rw [hwait] at hwaited
    have hok := heq.trans (by rw [hwait])
    rw [hok] at hyields ⊢
    exact Or.inr ⟨rfl, rfl, (hhigh.stay hwaited).stay hyields⟩

theorem releaseBusLines_pulsed (h : Pulsed start n m c s.env)
    (hyields : SlaveYields hold start (releaseBusLines w.hal s).env.trace) :
    Pulsed start n true true (releaseBusLines w.hal s).env :=
  (h.setSda true ((Steps.setScl true _).yields hyields)).releaseScl hyields

theorem pulseStart_zero (h : Pulsed start n m c s.env)
    (hyields : SlaveYields hold start (pulseStart w.hal s 0).env.trace) :
    Pulsed start n true true (pulseStart w.hal s 0).env :=
  releaseBusLines_pulsed (s := updateCtx (fun c => { c with
    busRecoveries := c.busRecoveries + 1 }) s) h hyields

theorem recoveryPulses_raised {ε : Type} (hal : I2cHal ε) (startedUs : Int) (left : Nat)
    (s : I2cState ε) : Steps hal 0 (raiseScl hal startedUs s).2
      (recoveryPulses hal startedUs (left + 1) s).2 := by
  rw [recoveryPulses]
  simp only
  split
  · exact .refl _
  · split
    · exact .sampleSda _
    · exact ((Steps.sampleSda _).next (lowerScl_steps hal _)).next
        (recoveryPulses_steps hal startedUs left _)

/-- The pulses stop after the first that finds SDA high, or at the first that starts too late. -/
theorem recoveryPulses_pulsed (u : I2cState I2cBus) (left : Nat) : ∀ (n : Nat) (c : Bool),
    Pulsed start n true c (pulseStart w.hal u n).env →
    SlaveYields hold start (recoveryPulses w.hal startedUs left (pulseStart w.hal u n)).2.env.trace →
    ∃ f c', Pulsed start f true c'
        (recoveryPulses w.hal startedUs left (pulseStart w.hal u n)).2.env ∧
      (∀ i, n ≤ i → i < f → hold i = true ∧
        (deadlineExpired w.hal startedUs (pulseStart w.hal u i)).1 = false) ∧
      ((recoveryPulses w.hal startedUs left (pulseStart w.hal u n)).1 = .ok ∧
          (hold f = false ∨ f = n + left) ∨
        (recoveryPulses w.hal startedUs left (pulseStart w.hal u n)).1 ≠ .ok ∧
          (deadlineExpired w.hal startedUs (pulseStart w.hal u f)).1 = true) := by
  induction left with
  | zero =>
    intro n c h _
    exact ⟨n, c, h, fun i hle hlt => absurd hlt (Nat.not_lt.mpr hle), Or.inl ⟨rfl, Or.inr rfl⟩⟩
  | succ left ih =>
    intro n c h hyields
    have hraised := (recoveryPulses_raised w.hal startedUs left _).yields hyields
    have hnone : ∀ i, n ≤ i → i < n → hold i = true ∧
        (deadlineExpired w.hal startedUs (pulseStart w.hal u i)).1 = false :=
      fun i hle hlt => absurd hlt (Nat.not_lt.mpr hle)
    rw [recoveryPulses] at hyields ⊢
    simp only at hyields ⊢
    rcases raiseScl_pulsed h hraised with ⟨hexpired, heq, hpulsed⟩ | ⟨hstarted, heq, hpulsed⟩
    · have hfailed : (raiseScl w.hal startedUs (pulseStart w.hal u n)).1 ≠ .ok := by
        rw [heq]
        exact nofun
      rw [if_pos hfailed]
      exact ⟨n, c, hpulsed, hnone, Or.inr ⟨hfailed, hexpired⟩⟩
    · have hok : ¬(raiseScl w.hal startedUs (pulseStart w.hal u n)).1 ≠ .ok := by
        rw [heq]
        exact not_not.mpr rfl
      rw [if_neg hok] at hyields ⊢
      have hlevel : (sampleSda w.hal (raiseScl w.hal startedUs (pulseStart w.hal u n)).2).1 =
          !hold n := hpulsed.sda_eq hraised
      cases hhold : hold n with
      | false =>
        have hhigh : (sampleSda w.hal (raiseScl w.hal startedUs (pulseStart w.hal u n)).2).1 =
            true := by rw [hlevel, hhold]; rfl
        rw [if_pos hhigh] at hyields ⊢
        exact ⟨n, true, hpulsed.stay hyields, hnone, Or.inl ⟨rfl, Or.inl hhold⟩⟩
      | true =>
        have hlow : ¬(sampleSda w.hal (raiseScl w.hal startedUs (pulseStart w.hal u n)).2).1 =
            true := by rw [hlevel, hhold]; decide
        rw [if_neg hlow] at hyields ⊢
        have hnext : lowerScl w.hal
            (sampleSda w.hal (raiseScl w.hal startedUs (pulseStart w.hal u n)).2).2 =
              pulseStart w.hal u (n + 1) := by
          rw [heq]
          rfl
        have hlowered := (recoveryPulses_steps w.hal startedUs left _).yields hyields
        have hfallen := (Steps.delayUs _ _).yields hlowered
        have hsampled := (Steps.setScl false _).yields hfallen
        have hpulse := ((hpulsed.stay hsampled).lowerScl hfallen).stay hlowered
        change Pulsed start (n + 1) true false (lowerScl w.hal
          (sampleSda w.hal (raiseScl w.hal startedUs (pulseStart w.hal u n)).2).2).env at hpulse
        rw [hnext] at hyields hpulse ⊢
        obtain ⟨f, c', hend, hall, hresult⟩ := ih (n + 1) false hpulse hyields
        refine ⟨f, c', hend, fun i hle hlt => ?_, ?_⟩
        · rcases Nat.eq_or_lt_of_le hle with rfl | hless
          · exact ⟨hhold, hstarted⟩
          · exact hall i hless hlt
        · rwa [Nat.add_right_comm] at hresult

theorem recoveryStop_pulsed (h : Pulsed start n m c s.env)
    (hyields : SlaveYields hold start (recoveryStop w.hal startedUs s).2.env.trace) :
    ∃ m' c', Pulsed start n m' c' (recoveryStop w.hal startedUs s).2.env := by
  have hraise (hraised : SlaveYields hold start (raiseScl w.hal startedUs
      (delayUs w.hal i2cHalfPeriodUs (driveSdaLow w.hal s))).2.env.trace) :
      ∃ c', Pulsed start n false c' (raiseScl w.hal startedUs
        (delayUs w.hal i2cHalfPeriodUs (driveSdaLow w.hal s))).2.env := by
    have hdelayed := (raiseScl_steps w.hal startedUs _).yields hraised
    have hdriven := (Steps.delayUs i2cHalfPeriodUs _).yields hdelayed
    rcases raiseScl_pulsed ((h.setSda false hdriven).stay hdelayed) hraised with
      ⟨_, _, hpulsed⟩ | ⟨_, _, hpulsed⟩
    · exact ⟨c, hpulsed⟩
    · exact ⟨true, hpulsed⟩
  unfold recoveryStop at hyields ⊢
  simp only at hyields ⊢
  split
  · rename_i hfailed
    rw [if_pos hfailed] at hyields
    have hreleased := (countRecoveryFailure_steps w.hal _).yields hyields
    obtain ⟨c', hpulsed⟩ := hraise ((releaseBusLines_steps w.hal _).yields hreleased)
    exact ⟨true, true, releaseBusLines_pulsed hpulsed hreleased⟩
  · rename_i hok
    rw [if_neg hok] at hyields
    have hlevels (hsampled : SlaveYields hold start (sampleSda w.hal (delayUs w.hal i2cHalfPeriodUs
        (releaseSda w.hal (raiseScl w.hal startedUs
          (delayUs w.hal i2cHalfPeriodUs (driveSdaLow w.hal s))).2))).2.env.trace) :
        ∃ c', Pulsed start n true c' (sampleSda w.hal (delayUs w.hal i2cHalfPeriodUs
          (releaseSda w.hal (raiseScl w.hal startedUs
            (delayUs w.hal i2cHalfPeriodUs (driveSdaLow w.hal s))).2))).2.env := by
      have hdelayed := (Steps.sampleSda _).yields hsampled
      have hreleased := (Steps.delayUs i2cHalfPeriodUs _).yields hdelayed
      obtain ⟨c', hpulsed⟩ := hraise ((Steps.setSda true _).yields hreleased)
      exact ⟨c', ((hpulsed.setSda true hreleased).stay hdelayed).stay hsampled⟩
    split
    · rename_i hlow
      rw [if_pos hlow] at hyields
      exact ⟨true, hlevels hyields⟩
    · rename_i hhigh
      rw [if_neg hhigh] at hyields
      split
      · rename_i hlow
        rw [if_pos hlow] at hyields
        obtain ⟨c', hpulsed⟩ := hlevels ((Steps.sampleScl _).yields hyields)
        exact ⟨true, c', hpulsed.stay hyields⟩
      · rename_i hscl
        rw [if_neg hscl] at hyields
        obtain ⟨c', hpulsed⟩ := hlevels ((Steps.sampleScl _).yields hyields)
        exact ⟨true, c', hpulsed.stay hyields⟩

theorem recoverBus_pulsed (h : Pulsed start 0 m c s.env)
    (hyields : SlaveYields hold start (recoverBus w.hal startedUs s).2.env.trace) :
    ∃ f m' c', Pulsed start f m' c' (recoverBus w.hal startedUs s).2.env ∧
      (∀ i, i < f → hold i = true ∧
        (deadlineExpired w.hal startedUs (pulseStart w.hal s i)).1 = false) ∧
      (hold f = false ∨ f = i2cRecoveryPulses ∨
        (deadlineExpired w.hal startedUs (pulseStart w.hal s f)).1 = true) := by
  have hpulses (hpulsed : SlaveYields hold start (recoveryPulses w.hal startedUs i2cRecoveryPulses
      (pulseStart w.hal s 0)).2.env.trace) := by
    have hreleased := (recoveryPulses_steps w.hal startedUs i2cRecoveryPulses _).yields hpulsed
    exact recoveryPulses_pulsed s i2cRecoveryPulses 0 true (pulseStart_zero h hreleased) hpulsed
  have heq : recoverBus w.hal startedUs s =
      let pulsed := recoveryPulses w.hal startedUs i2cRecoveryPulses (pulseStart w.hal s 0)
      if pulsed.1 ≠ .ok then (pulsed.1, countRecoveryFailure pulsed.2)
      else recoveryStop w.hal startedUs pulsed.2 := rfl
  rw [heq] at hyields ⊢
  simp only at hyields ⊢
  split
  · rename_i hfailed
    rw [if_pos hfailed] at hyields
    obtain ⟨f, c', hend, hall, hresult⟩ := hpulses hyields
    refine ⟨f, true, c', hend, fun i hlt => hall i (Nat.zero_le i) hlt, ?_⟩
    rcases hresult with ⟨hok, _⟩ | ⟨_, hexpired⟩
    · exact absurd hok hfailed
    · exact Or.inr (Or.inr hexpired)
  · rename_i hok
    rw [if_neg hok] at hyields
    obtain ⟨f, c', hend, hall, hresult⟩ :=
      hpulses ((recoveryStop_steps w.hal startedUs _).yields hyields)
    obtain ⟨m', c'', hstopped⟩ := recoveryStop_pulsed hend hyields
    refine ⟨f, m', c'', hstopped, fun i hlt => hall i (Nat.zero_le i) hlt, ?_⟩
    rcases hresult with ⟨_, hfree | hlast⟩ | ⟨hfailed, _⟩
    · exact Or.inl hfree
    · exact Or.inr (Or.inl (hlast.trans (Nat.zero_add _)))
    · exact absurd hfailed hok

/-- The start time of a transfer and the state after its STOP, when `finishLocked` goes on to recover the
bus. -/
def recoveryPoint {ε α : Type} (hal : I2cHal ε) (t : Transfer ε α) : Option (Int × I2cState ε) :=
  let stopped := finishStop hal t.started t.startedUs t.status t.state
  if statusNeedsRecovery stopped.1.1 stopped.1.2 then some (t.startedUs, stopped.2) else none

theorem closeTransaction_recovered {ε α : Type} {hal : I2cHal ε} {t : Transfer ε α}
    {u : I2cState ε} (hpoint : recoveryPoint hal t = some (startedUs, u)) :
    ∃ v, (closeTransaction hal t).2 = giveBus hal v ∧
      v.env = (releaseBusLines hal (recoverBus hal startedUs u).2).env := by
  unfold recoveryPoint at hpoint
  simp only at hpoint
  split at hpoint
  · rename_i hneeds
    obtain ⟨rfl, rfl⟩ := Prod.mk.inj (Option.some.inj hpoint)
    unfold closeTransaction finishLocked finishRecovery
    simp only [if_pos hneeds]
    exact ⟨_, rfl, rfl⟩
  · cases hpoint

theorem giveBus_pulsed (h : SlaveYields hold start s.env.trace → Pulsed start n m c s.env)
    (hyields : SlaveYields hold start (giveBus w.hal s).env.trace) :
    Pulsed start n m c (giveBus w.hal s).env := by
  unfold giveBus at *
  split
  · rename_i hcreated
    rw [if_pos hcreated] at hyields
    exact (h (hyields.suffix (w.move_grows _ _))).stay hyields
  · rename_i hcreated
    rw [if_neg hcreated] at hyields
    exact h hyields

/-- A transaction that recovers the bus leaves it free just if every pulse that the slave still needs
starts before the deadline. -/
theorem closeTransaction_freed_iff {α : Type} {t : Transfer I2cBus α} {u : I2cState I2cBus}
    (hpoint : recoveryPoint w.hal t = some (startedUs, u))
    (hfree : ∃ k, k ≤ i2cRecoveryPulses ∧ hold k = false)
    (hyields : SlaveYields hold u.env.trace (closeTransaction w.hal t).2.env.trace) :
    Freed (closeTransaction w.hal t).2.env ↔
      ∀ j, (∀ i, i ≤ j → hold i = true) →
        (deadlineExpired w.hal startedUs (pulseStart w.hal u j)).1 = false := by
  obtain ⟨v, heq, henv⟩ := closeTransaction_recovered hpoint
  rw [heq] at hyields ⊢
  have hstart : Pulsed u.env.trace 0 u.env.now.masterSda u.env.now.masterScl u.env :=
    ⟨Nat.le_refl _, rfl, rfl, rfl⟩
  have hend : SlaveYields hold u.env.trace v.env.trace := by
    unfold giveBus at hyields
    split at hyields
    · exact hyields.suffix (w.move_grows _ _)
    · exact hyields
  have hreleased := hend
  rw [henv] at hreleased
  obtain ⟨f, m', c', hpulsed, hall, hresult⟩ :=
    recoverBus_pulsed hstart ((releaseBusLines_steps w.hal _).yields hreleased)
  have hlast : Pulsed u.env.trace f true true v.env := by
    rw [henv]
    exact releaseBusLines_pulsed hpulsed hreleased
  rw [(giveBus_pulsed (fun _ => hlast) hyields).freed_iff hyields]
  refine ⟨fun hfreed j hheld => ?_, fun hearly => ?_⟩
  · refine (hall j (Nat.lt_of_not_le fun hle => ?_)).2
    have hheld := hheld f hle
    rw [hfreed] at hheld
    cases hheld
  · cases hhold : hold f with
    | false => rfl
    | true =>
      have hheld : ∀ i, i ≤ f → hold i = true := fun i hle => by
        rcases Nat.lt_or_eq_of_le hle with hlt | rfl
        · exact (hall i hlt).1
        · exact hhold
      rcases hresult with hfalse | hnine | hexpired
      · exact hhold.symm.trans hfalse
      · obtain ⟨k, hle, hk⟩ := hfree
        rw [hheld k (hnine ▸ hle)] at hk
        cases hk
      · rw [hearly f hheld] at hexpired
        cases hexpired

end I2cAdapter

namespace I2cCall

variable {ε : Type}

def address7bit : I2cCall → UInt8
  | .writeStream address7bit _ => address7bit
  | .writeRegs address7bit _ _ => address7bit
  | .readStream address7bit _ => address7bit
  | .readRegs address7bit _ _ => address7bit

def argsOk : I2cCall → Bool
  | .writeStream _ data => payloadLenIsValid data.length
  | .writeRegs _ _ data => payloadLenIsValid data.length
  | .readStream _ dataLen => payloadLenIsValid dataLen
  | .readRegs _ _ dataLen => decide (dataLen ≠ 0) && payloadLenIsValid dataLen

def bytes (hal : I2cHal ε) : I2cCall → Int → I2cState ε → (I2cStatus × List UInt8) × I2cState ε
  | .writeStream address7bit data => writing (writeStreamBytes hal address7bit data)
  | .writeRegs address7bit firstReg data => writing (writeRegsBytes hal address7bit firstReg data)
  | .readStream address7bit dataLen => readStreamBytes hal address7bit dataLen
  | .readRegs address7bit firstReg dataLen => readRegsBytes hal address7bit firstReg dataLen

theorem run_eq (hal : I2cHal ε) (portNum : UInt8) (call : I2cCall) (s : I2cState ε) :
    call.run hal portNum s =
      transaction hal portNum call.address7bit call.argsOk [] (call.bytes hal) s := by
  cases call <;> rfl

/-- The start time of a call and the state in which it starts to recover the bus, if it does. -/
def recoveryPoint (hal : I2cHal ε) (portNum : UInt8) (call : I2cCall) (s : I2cState ε) :
    Option (Int × I2cState ε) :=
  let taken := takeBus hal (beginDiag call.address7bit s)
  if txnIsValid portNum call.address7bit s && call.argsOk && taken.1 == .ok then
    I2cAdapter.recoveryPoint hal (transfer hal [] (call.bytes hal) (setActive true taken.2))
  else none

/-- Whenever a call recovers the bus from a slave that lets go of SDA within the recovery pulses,
nobody holds a line when it returns. -/
def RecoversBus (w : I2cWorld) (portNum : UInt8) (call : I2cCall) (s : I2cState I2cBus) : Prop :=
  ∀ p ∈ call.recoveryPoint w.hal portNum s, ∀ hold : Nat → Bool,
    (∃ k, k ≤ i2cRecoveryPulses ∧ hold k = false) →
    SlaveYields hold p.2.env.trace (call.run w.hal portNum s).2.env.trace →
    Freed (call.run w.hal portNum s).2.env

theorem recoveryPoint_run {hal : I2cHal ε} {portNum : UInt8} {call : I2cCall} {s : I2cState ε}
    {p : Int × I2cState ε} (h : call.recoveryPoint hal portNum s = some p) :
    ∃ t : Transfer ε (List UInt8), I2cAdapter.recoveryPoint hal t = some p ∧
      call.run hal portNum s = closeTransaction hal t := by
  unfold recoveryPoint at h
  simp only at h
  split at h
  · rename_i hvalid
    simp only [Bool.and_eq_true, beq_iff_eq] at hvalid
    obtain ⟨⟨htxn, hargs⟩, htaken⟩ := hvalid
    refine ⟨_, h, ?_⟩
    rw [run_eq, transaction, htxn, hargs, if_neg (by decide)]
    exact if_neg (not_not.mpr htaken)
  · cases h

/-- A call that recovers the bus from a slave that lets go of SDA within the recovery pulses leaves the
bus free just if every pulse that the slave still needs starts before the deadline. -/
theorem recovers_iff (w : I2cWorld) (portNum : UInt8) (call : I2cCall) (s u : I2cState I2cBus)
    (startedUs : Int) (hold : Nat → Bool)
    (hpoint : call.recoveryPoint w.hal portNum s = some (startedUs, u))
    (hfree : ∃ k, k ≤ i2cRecoveryPulses ∧ hold k = false)
    (hyields : SlaveYields hold u.env.trace (call.run w.hal portNum s).2.env.trace) :
    Freed (call.run w.hal portNum s).2.env ↔
      ∀ j, (∀ i, i ≤ j → hold i = true) →
        w.time (pulseStart w.hal u j).env.trace - startedUs < i2cTransactionTimeoutUs := by
  obtain ⟨t, ht, hrun⟩ := recoveryPoint_run hpoint
  rw [hrun] at hyields ⊢
  rw [closeTransaction_freed_iff ht hfree hyields]
  refine forall_congr' fun j => imp_congr_right fun _ => ?_
  rw [deadlineExpired_eq, decide_eq_false_iff_not, Int.not_le]

/-- A slave that acknowledges an address byte and does not let go of SDA before the second fall of SCL
after it, and a master that stands still for 150 ms once SCL has fallen `late` times. -/
def clingingWorld (late : Nat) : I2cWorld where
  react trace :=
    if trace.head?.any BusLevel.scl then []
    else [(decide (sclFalls trace < 9) || decide (10 < sclFalls trace), true)]
  time trace := if sclFalls trace < late then 0 else i2cTransactionTimeoutUs
  grants _ := true

theorem clingingWorld_recovers :
    ((writeStream 0x3C []).recoveryPoint (clingingWorld 11).hal 0 idleAdapter).isSome = true := by
  decide +kernel

/-- Where an empty write to `clingingWorld` starts to recover the bus. -/
def clingingPoint : Int × I2cState I2cBus := Option.get _ clingingWorld_recovers

theorem recovers_iff_clinging :
    Freed ((writeStream 0x3C []).run (clingingWorld 11).hal 0 idleAdapter).2.env ↔
      ∀ j, (∀ i, i ≤ j → decide (i < 1) = true) →
        (clingingWorld 11).time (pulseStart (clingingWorld 11).hal clingingPoint.2 j).env.trace -
          clingingPoint.1 < i2cTransactionTimeoutUs :=
  recovers_iff (clingingWorld 11) 0 (.writeStream 0x3C []) idleAdapter clingingPoint.2 clingingPoint.1
    (fun n => decide (n < 1)) (Option.some_get clingingWorld_recovers).symm ⟨1, by decide, rfl⟩ (by decide +kernel)

/-- A deadline that expires before the recovery leaves SDA with the slave. -/
theorem not_recoversBus : ¬(writeStream 0x3C []).RecoversBus (clingingWorld 10) 0 idleAdapter := by
  intro h
  have hfreed : ∀ p ∈ (writeStream 0x3C []).recoveryPoint (clingingWorld 10).hal 0 idleAdapter,
      Freed ((writeStream 0x3C []).run (clingingWorld 10).hal 0 idleAdapter).2.env := by
    intro p hp
    refine h p hp (fun n => decide (n < 1)) ⟨1, by decide, rfl⟩ ?_
    revert p
    decide +kernel
  revert hfreed
  decide +kernel

end I2cCall

end EventFramework
