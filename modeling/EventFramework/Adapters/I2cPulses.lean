import EventFramework.Adapters.I2cLevels

/-!
# The pulses of a transaction

What the clock pulses, the START and the STOP of the adapter put on the bus when they succeed, for a
slave that keeps the rules.
-/

namespace EventFramework
set_option autoImplicit false

open I2cAdapter I2cState

namespace I2cBus

variable {cells : List BusCell} {m v : Bool} {pending : Option (Bool × Bool)} {b : I2cBus}
  {w : I2cWorld} {st : FrameState}

/-- In a bit that is not its own the slave has let go of SDA. -/
theorem High.turn (h : High cells m v pending b)
    (hst : FrameState.ofSymbols (lineSymbols cells) = some st)
    (hlegal : slaveLegal b.trace = true) (hturn : st.slaveTurn = false) : v = true := by
  obtain ⟨now, past⟩ := b
  have hdecoded := h.decoded
  cases past with
  | nil =>
    have hcells : cells = [] := (congrArg BusDecoder.symbols hdecoded).symm
    rw [hcells] at hst
    cases hst
  | cons old rest =>
    have hline : (busDecode BusLevel.sda (now :: old :: rest)).symbols = lineSymbols cells := by
      have hmap := busDecode_map (fun p : Bool × Bool => p.1 && p.2) BusLevel.sides (now :: old :: rest)
      rw [show busDecode BusLevel.sides (now :: old :: rest) = ⟨cells, pending⟩ from hdecoded] at hmap
      exact congrArg BusDecoder.symbols hmap
    change slaveLegal (now :: old :: rest) = true at hlegal
    simp only [slaveLegal, hline, hst, Option.any_some, hturn, Bool.and_eq_true, Bool.or_false,
      Bool.or_eq_true, Bool.not_eq_true'] at hlegal
    rcases hlegal.2 with hlow | hhigh
    · rw [show now.scl = true from h.scl_high] at hlow
      cases hlow
    · exact h.slave.symm.trans hhigh

/-- SCL is high and the slave keeps its side of SDA. -/
structure Kept (v : Bool) (b : I2cBus) : Prop where
  scl : b.now.masterScl = true
  slaveScl : b.now.slaveScl = true
  slave : b.now.slaveSda = v

theorem High.kept (h : High cells m v pending b) : Kept v b := ⟨h.scl, h.slaveScl, h.slave⟩

theorem Kept.move {l : BusLevel} (hscl : l.masterScl = true)
    (hslave : l.slaveScl = true) (hsda : l.slaveSda = v)
    (hlegal : slaveLegal (w.move l b).trace = true) : Kept v (w.move l b) := by
  refine w.settle_keeps (Kept v) (fun b out hb hanswer => ?_) ⟨hscl, hslave, hsda⟩ hlegal
  have hhigh : b.now.scl = true := by
    rw [BusLevel.scl, hb.scl, hb.slaveScl]
    rfl
  obtain ⟨hout, hout'⟩ := (legal_push hanswer).2 hhigh
  exact ⟨hb.scl, hout', hout.trans hb.slave⟩

theorem Kept.setSda (h : Kept v b) (level : Bool)
    (hlegal : slaveLegal (w.hal.setSda level b).trace = true) : Kept v (w.hal.setSda level b) :=
  .move (l := { b.now with masterSda := level }) h.scl h.slaveScl h.slave hlegal

theorem Kept.stay (h : Kept v b) (hlegal : slaveLegal (w.move b.now b).trace = true) :
    Kept v (w.move b.now b) :=
  .move h.scl h.slaveScl h.slave hlegal

theorem Kept.sda_low (h : Kept false b) : b.now.sda = false := by
  rw [BusLevel.sda, h.slave, Bool.and_false]

end I2cBus

namespace I2cAdapter

open I2cBus

variable {cells : List BusCell} {m v : Bool} {pending : Option (Bool × Bool)} {w : I2cWorld}
  {st : FrameState} {startedUs : Int} {s : I2cState I2cBus}

theorem Steps.legal {n : Nat} {t : I2cState I2cBus} (h : Steps w.hal n s t)
    (hlegal : slaveLegal t.env.trace = true) : slaveLegal s.env.trace = true :=
  slaveLegal_suffix hlegal h.grows

theorem waitSclHighFor_high (h : High cells m v pending s.env) (left : Nat)
    (hlegal : slaveLegal (waitSclHighFor w.hal startedUs left s).2.env.trace = true) :
    (waitSclHighFor w.hal startedUs left s).1 = .ok ∧
      High cells m v pending (waitSclHighFor w.hal startedUs left s).2.env := by
  have hscl : (sampleScl w.hal s).1 = true := h.scl_high
  have heq : waitSclHighFor w.hal startedUs left s = (.ok, (sampleScl w.hal s).2) := by
    cases left <;> rw [waitSclHighFor] <;> exact if_pos hscl
  rw [heq] at hlegal ⊢
  exact ⟨rfl, h.stay hlegal⟩

/-- A clock that rises while the adapter waits samples what both sides say. -/
theorem waitSclHighFor_rising (left : Nat) : ∀ s : I2cState I2cBus, Rising cells m s.env →
    slaveLegal (waitSclHighFor w.hal startedUs left s).2.env.trace = true →
    (waitSclHighFor w.hal startedUs left s).1 = .ok →
    ∃ v, High cells m v (some (m, v)) (waitSclHighFor w.hal startedUs left s).2.env := by
  induction left with
  | zero =>
    intro s h hlegal hok
    unfold waitSclHighFor at hlegal hok ⊢
    simp only at hlegal hok ⊢
    split at hok
    · rename_i hscl
      rw [if_pos hscl] at hlegal ⊢
      exact ⟨_, (h.high hscl).stay hlegal⟩
    · cases hok
  | succ left ih =>
    intro s h hlegal hok
    unfold waitSclHighFor at hlegal hok ⊢
    simp only at hlegal hok ⊢
    split at hok
    · rename_i hscl
      rw [if_pos hscl] at hlegal ⊢
      exact ⟨_, (h.high hscl).stay hlegal⟩
    · rename_i hscl
      split at hok
      · cases hok
      · rename_i hexpired
        rw [if_neg hscl, if_neg hexpired] at hlegal ⊢
        have hdelayed := (waitSclHighFor_steps w.hal startedUs left _).legal hlegal
        have hread := (Steps.delayUs 1 _).legal hdelayed
        have hsampled := (deadlineExpired_steps w.hal startedUs _).legal hread
        exact ih _ (((h.stay hsampled).stay hread).stay hdelayed) hlegal hok

theorem raiseScl_ok (h : Low cells m s.env)
    (hlegal : slaveLegal (raiseScl w.hal startedUs s).2.env.trace = true)
    (hok : (raiseScl w.hal startedUs s).1 = .ok) :
    ∃ v, High cells m v (some (m, v)) (raiseScl w.hal startedUs s).2.env := by
  unfold raiseScl at *
  simp only at *
  split at hok
  · cases hok
  · rename_i hexpired
    rw [if_neg hexpired] at hlegal ⊢
    split at hok
    · rename_i hfailed
      exact absurd hok hfailed
    · rename_i hwaited
      rw [if_neg hwaited] at hlegal ⊢
      have hwait := (Steps.delayUs _ _).legal hlegal
      have hreleased := (waitSclHigh_steps w.hal startedUs _).legal hwait
      have hread := (Steps.setScl true _).legal hreleased
      obtain ⟨v, hhigh⟩ := waitSclHighFor_rising _ _ ((h.stay hread).release hreleased) hwait
        (not_not.mp hwaited)
      exact ⟨v, hhigh.stay hlegal⟩

theorem lowerScl_high (h : High cells m v pending s.env)
    (hlegal : slaveLegal (lowerScl w.hal s).env.trace = true) :
    Low (cells ++ pending.toList.map .bit) m (lowerScl w.hal s).env :=
  (h.lower ((Steps.delayUs _ _).legal hlegal)).stay hlegal

theorem freeSda_high (h : High cells true true pending s.env)
    (hlegal : slaveLegal (freeSda w.hal startedUs s).2.env.trace = true) :
    (freeSda w.hal startedUs s).1 = .ok ∧
      High cells true true pending (freeSda w.hal startedUs s).2.env := by
  have heq : freeSda w.hal startedUs s = (.ok, (sampleSda w.hal s).2) := if_pos h.sda_eq
  rw [heq] at hlegal ⊢
  exact ⟨rfl, h.stay hlegal⟩

theorem startEdges_high (h : High cells true true pending s.env)
    (hlegal : slaveLegal (startEdges w.hal s).env.trace = true) :
    Low (cells ++ [.start]) false (startEdges w.hal s).env := by
  unfold startEdges at *
  have hlowered := (Steps.delayUs i2cHalfPeriodUs _).legal hlegal
  have hheld := (Steps.setScl false _).legal hlowered
  have hfallen := (Steps.delayUs i2cHalfPeriodUs _).legal hheld
  have hwaited := (Steps.setSda false _).legal hfallen
  have hlow := ((((h.stay hwaited).start hfallen).stay hheld).lower hlowered).stay hlegal
  rwa [Option.toList_none, List.map_nil, List.append_nil] at hlow

/-- A START that succeeds, where the wait before it ends with both lines high. -/
theorem startCondition_ok (pending : Option (Bool × Bool))
    (hwaited : (waitSclHigh w.hal startedUs (releaseBusLines w.hal s)).1 = .ok →
      slaveLegal (waitSclHigh w.hal startedUs (releaseBusLines w.hal s)).2.env.trace = true →
      High cells true true pending (waitSclHigh w.hal startedUs (releaseBusLines w.hal s)).2.env)
    (hlegal : slaveLegal (startCondition w.hal startedUs s).2.env.trace = true)
    (hok : (startCondition w.hal startedUs s).1 = .ok) :
    Low (cells ++ [.start]) false (startCondition w.hal startedUs s).2.env := by
  unfold releaseBusLines at hwaited
  unfold startCondition at hlegal hok ⊢
  simp only at hlegal hok ⊢
  split at hok
  · rename_i hfailed
    exact absurd hok hfailed
  · rename_i hready
    rw [if_neg hready] at hlegal ⊢
    split at hok
    · rename_i hfailed
      exact absurd hok hfailed
    · rename_i hfree
      rw [if_neg hfree] at hlegal ⊢
      have hedges := (startEdges_steps w.hal _).legal hlegal
      have hhigh := hwaited (not_not.mp hready) ((freeSda_steps w.hal startedUs _).legal hedges)
      exact startEdges_high (freeSda_high hhigh hedges).2 hlegal

theorem startCondition_idle (h : High cells true true pending s.env)
    (hlegal : slaveLegal (startCondition w.hal startedUs s).2.env.trace = true)
    (hok : (startCondition w.hal startedUs s).1 = .ok) :
    Low (cells ++ [.start]) false (startCondition w.hal startedUs s).2.env := by
  refine startCondition_ok pending (fun _ hwaited => ?_) hlegal hok
  have hreleased := (waitSclHigh_steps w.hal startedUs _).legal hwaited
  have hsda := (Steps.setScl true _).legal hreleased
  exact (waitSclHighFor_high ((h.setSda_same hsda).setScl_same hreleased) _ hwaited).2

theorem startCondition_low (h : Low cells m s.env)
    (hst : FrameState.ofSymbols (lineSymbols cells) = some st) (hturn : st.slaveTurn = false)
    (hlegal : slaveLegal (startCondition w.hal startedUs s).2.env.trace = true)
    (hok : (startCondition w.hal startedUs s).1 = .ok) :
    Low (cells ++ [.start]) false (startCondition w.hal startedUs s).2.env := by
  refine startCondition_ok (some (true, true)) (fun hready hwaited => ?_) hlegal hok
  have hreleased := (waitSclHigh_steps w.hal startedUs _).legal hwaited
  have hsda := (Steps.setScl true _).legal hreleased
  obtain ⟨v, hhigh⟩ :=
    waitSclHighFor_rising _ _ ((h.setSda true hsda).release hreleased) hwaited hready
  rwa [hhigh.turn hst hwaited hturn] at hhigh

/-- A STOP that finds both lines high after it. -/
theorem stopCondition_ok (h : Low cells m s.env)
    (hlegal : slaveLegal (stopCondition w.hal startedUs s).2.env.trace = true)
    (hok : (stopCondition w.hal startedUs s).1 = .ok) :
    High (cells ++ [.stop]) true true none (stopCondition w.hal startedUs s).2.env := by
  unfold stopCondition at hlegal hok ⊢
  simp only at hlegal hok ⊢
  split at hok
  · rename_i hfailed
    exact absurd hok hfailed
  · rename_i hraised
    rw [if_neg hraised] at hlegal ⊢
    split at hok
    · cases hok
    · rename_i hlevels
      rw [if_neg hlevels] at hlegal ⊢
      have hdelayed := (recordLevelsAfterStop_steps w.hal _).legal hlegal
      have hreleased := (Steps.delayUs i2cHalfPeriodUs _).legal hdelayed
      have hhigh := (Steps.setSda true _).legal hreleased
      have hheld := (raiseScl_steps w.hal startedUs _).legal hhigh
      have hfallen := (Steps.delayUs i2cHalfPeriodUs _).legal hheld
      have hlow := (h.setSda false hfallen).stay hheld
      obtain ⟨v, hpulse⟩ := raiseScl_ok hlow hhigh (not_not.mp hraised)
      have hsda := (Steps.sampleScl _).legal hlegal
      cases v with
      | true => exact (((hpulse.stop hreleased).stay hdelayed).stay hsda).stay hlegal
      | false =>
        have hkept := (hpulse.kept.setSda true hreleased).stay hdelayed
        refine absurd ?_ hlevels
        exact Bool.not_eq_true' _ ▸ Bool.and_eq_false_imp.mpr fun hsampled =>
          absurd hkept.sda_low (ne_false_of_eq_true hsampled)

end I2cAdapter

end EventFramework
