import EventFramework.Adapters.OnewireTransfers

/-!
# What the scheduler sees of the 1-Wire bus

The calls that the adapter makes, whatever the SDK answers: the line is pulled only while the scheduler
is suspended, and the scheduler is suspended for one waveform at a time.
-/

namespace EventFramework
set_option autoImplicit false

open OnewireAdapter OnewireCtx

variable {ε : Type}

/-- A call of the port, of the diagnostics or of the sleep preparation. -/
inductive OnewireActivity where
  | request (request : OnewireRequest)
  | getDiag
  | prepareForSleep
  deriving DecidableEq, Repr

def OnewireAdapter.perform (hal : OnewireHal ε) (s : OnewireState ε) : OnewireActivity → OnewireState ε
  | .request request => ((port hal).serve request s).2
  | .getDiag => (getDiag hal s).2
  | .prepareForSleep => (prepareForSleep hal s).2

inductive OnewireCall where
  | gpioConfig (config : OnewirePinConfig)
  | setDirection (pin : Int) (mode : GpioMode)
  | setLevel (pin : Int) (level : Bool)
  | getLevel (pin : Int)
  | delayUs (us : Nat)
  | getTime
  | suspendAll
  | resumeAll
  deriving DecidableEq, Repr

/-- What the SDK answers, from the calls so far. -/
structure OnewireAnswers where
  accepts : List OnewireCall → Bool
  level : List OnewireCall → Bool
  time : List OnewireCall → Int

def OnewireAnswers.hal (answers : OnewireAnswers) : OnewireHal (List OnewireCall) where
  gpioConfig config calls := (answers.accepts calls, calls ++ [.gpioConfig config])
  setDirection pin mode calls := calls ++ [.setDirection pin mode]
  setLevel pin level calls := calls ++ [.setLevel pin level]
  getLevel pin calls := (answers.level calls, calls ++ [.getLevel pin])
  delayUs us calls := calls ++ [.delayUs us]
  getTime calls := (answers.time calls, calls ++ [.getTime])
  suspendAll calls := calls ++ [.suspendAll]
  resumeAll calls := calls ++ [.resumeAll]

/-- The pin and the scheduler: how often it is suspended, and the time waited since. -/
structure OnewireWatch where
  suspended : Nat
  mode : GpioMode
  latch : Bool
  delayedUs : Nat
  deriving DecidableEq, Repr

namespace OnewireWatch

def step (w : OnewireWatch) : OnewireCall → OnewireWatch
  | .gpioConfig config => { w with mode := config.mode }
  | .setDirection _ mode => { w with mode := mode }
  | .setLevel _ level => { w with latch := level }
  | .delayUs us => { w with delayedUs := w.delayedUs + us }
  | .suspendAll => { w with suspended := w.suspended + 1, delayedUs := 0 }
  | .resumeAll => { w with suspended := w.suspended - 1 }
  | .getLevel _ => w
  | .getTime => w

def Pulls (w : OnewireWatch) : Prop := w.mode = .outputOd ∧ w.latch = false

/-- Suspended at most once and for at most the time of a reset, and no low line besides. -/
structure Safe (w : OnewireWatch) : Prop where
  once : w.suspended ≤ 1
  released : w.suspended = 0 → ¬w.Pulls
  bounded : w.suspended = 1 → w.delayedUs ≤ 960

end OnewireWatch

namespace OnewireGuard

open OnewireWatch Machine

variable {start : OnewireWatch} {answers : OnewireAnswers} {s : OnewireState (List OnewireCall)}

/-- The scheduler is suspended, with so many microseconds left to wait. -/
structure Held (start : OnewireWatch) (leftUs : Nat) (s : OnewireState (List OnewireCall)) :
    Prop where
  guarded : Always step Safe start s.env
  suspended : (run step start s.env).suspended = 1
  bounded : (run step start s.env).delayedUs + leftUs ≤ 960

structure Rest (start : OnewireWatch) (s : OnewireState (List OnewireCall)) : Prop where
  guarded : Always step Safe start s.env
  suspended : (run step start s.env).suspended = 0
  released : ¬(run step start s.env).Pulls

theorem always_snoc {calls : List OnewireCall} {call : OnewireCall}
    (h : Always step Safe start calls) (hsafe : Safe (step (run step start calls) call)) :
    Always step Safe start (calls ++ [call]) := by
  intro earlier hprefix
  rcases List.prefix_concat_iff.mp hprefix with rfl | hbefore
  · rw [run_append]
    exact hsafe
  · exact h earlier hbefore

theorem run_snoc (calls : List OnewireCall) (call : OnewireCall) :
    run step start (calls ++ [call]) = step (run step start calls) call :=
  run_append step start calls [call]

theorem Held.call {leftUs leftUs' : Nat} {ctx : OnewireCtx} {call : OnewireCall}
    (h : Held start leftUs s)
    (hsuspended : (step (run step start s.env) call).suspended = (run step start s.env).suspended)
    (hdelayed : (step (run step start s.env) call).delayedUs + leftUs' ≤
      (run step start s.env).delayedUs + leftUs) : Held start leftUs' ⟨ctx, s.env ++ [call]⟩ := by
  have hbounded := h.bounded
  refine ⟨always_snoc h.guarded ⟨?_, fun hzero => ?_, fun _ => by omega⟩, ?_, ?_⟩
  · rw [hsuspended, h.suspended]
  · rw [hsuspended, h.suspended] at hzero
    cases hzero
  · rw [run_snoc, hsuspended, h.suspended]
  · rw [run_snoc]
    omega

theorem Held.weaken {leftUs leftUs' : Nat} (h : Held start leftUs s) (hleft : leftUs' ≤ leftUs) :
    Held start leftUs' s :=
  ⟨h.guarded, h.suspended, Nat.le_trans (Nat.add_le_add_left hleft _) h.bounded⟩

theorem Held.updateCtx {leftUs : Nat} (h : Held start leftUs s) (f : OnewireCtx → OnewireCtx) :
    Held start leftUs (updateCtx f s) := ⟨h.guarded, h.suspended, h.bounded⟩

theorem Rest.of_env {t : OnewireState (List OnewireCall)} (h : Rest start s) (henv : t.env = s.env) :
    Rest start t := by
  obtain ⟨hguarded, hsuspended, hreleased⟩ := h
  rw [← henv] at hguarded hsuspended hreleased
  exact ⟨hguarded, hsuspended, hreleased⟩

def Input (start : OnewireWatch) (s : OnewireState (List OnewireCall)) : Prop :=
  (run step start s.env).mode = .defInput

theorem Input.call {call : OnewireCall} {ctx : OnewireCtx} (h : Input start s)
    (hcall : (step (run step start s.env) call).mode = (run step start s.env).mode) :
    Input start ⟨ctx, s.env ++ [call]⟩ := by
  unfold Input
  simp only
  rw [run_snoc, hcall]
  exact h

theorem input_releaseBus : Input start (releaseBus answers.hal s) :=
  congrArg OnewireWatch.mode (run_snoc s.env (.setDirection s.ctx.dataPin .defInput))

section Parts

variable {leftUs : Nat}

theorem Held.getTime (h : Held start leftUs s) (answers : OnewireAnswers) :
    Held start leftUs (ask answers.hal.getTime s).2 :=
  h.call rfl (Nat.le_refl _)

theorem Held.sampleBus (h : Held start leftUs s) (answers : OnewireAnswers) :
    Held start leftUs (sampleBus answers.hal s).2 :=
  h.call rfl (Nat.le_refl _)

theorem Held.delayUs {leftUs' : Nat} (h : Held start leftUs s) (answers : OnewireAnswers) (us : Nat)
    (hleft : us + leftUs' ≤ leftUs) :
    Held start leftUs' (delayUs answers.hal us s) := by
  apply h.call rfl
  change (run step start s.env).delayedUs + us + leftUs' ≤ _
  omega

theorem Held.releaseBus (h : Held start leftUs s) (answers : OnewireAnswers) :
    Held start leftUs (releaseBus answers.hal s) :=
  h.call rfl (Nat.le_refl _)

theorem Held.driveLow (h : Held start leftUs s) (answers : OnewireAnswers) :
    Held start leftUs (driveLow answers.hal s) := by
  have hdirection : Held start leftUs (act (answers.hal.setDirection s.ctx.dataPin .outputOd) s) :=
    h.call rfl (Nat.le_refl _)
  exact hdirection.call rfl (Nat.le_refl _)

theorem Held.recordSection {startUs : Int} {resetSection : Bool} (h : Held start leftUs s) :
    Held start leftUs (recordSection answers.hal startUs resetSection s) :=
  (h.getTime answers).updateCtx _

theorem Input.recordSection {startUs : Int} {resetSection : Bool} (h : Input start s) :
    Input start (recordSection answers.hal startUs resetSection s) := Input.call h rfl

theorem Input.delayUs {us : Nat} (h : Input start s) : Input start (delayUs answers.hal us s) :=
  Input.call h rfl

theorem Input.sampleBus (h : Input start s) : Input start (sampleBus answers.hal s).2 :=
  Input.call h rfl

/-- A part of a waveform that takes its time and leaves the line released. -/
structure Released (start : OnewireWatch) (leftUs : Nat) (s : OnewireState (List OnewireCall)) :
    Prop where
  held : Held start leftUs s
  input : Input start s

theorem writeBit_released {value : UInt8} (h : Held start (leftUs + 70) s) :
    Released start leftUs (writeBit answers.hal value s) := by
  have hlow := (h.getTime answers).driveLow answers
  unfold writeBit
  simp only
  split
  · have hheld : Held start (leftUs + 64) _ :=
      hlow.delayUs answers onewireWrite1LowUs (by change 6 + _ ≤ _; omega)
    have hwaited : Held start leftUs _ := (hheld.releaseBus answers).delayUs answers
      onewireWrite1ReleaseUs (by change 64 + _ ≤ _; omega)
    exact ⟨hwaited.recordSection, input_releaseBus.delayUs.recordSection⟩
  · have hheld : Held start (leftUs + 10) _ :=
      hlow.delayUs answers onewireWrite0LowUs (by change 60 + _ ≤ _; omega)
    have hwaited : Held start leftUs _ := (hheld.releaseBus answers).delayUs answers
      onewireWrite0ReleaseUs (by change 10 + _ ≤ _; omega)
    exact ⟨hwaited.recordSection, input_releaseBus.delayUs.recordSection⟩

theorem bitIo_released {bitValue : UInt8} (h : Held start (leftUs + 70) s) :
    Released start leftUs (bitIo answers.hal bitValue s).2 := by
  have hlow : Held start (leftUs + 64) _ := ((h.getTime answers).driveLow answers).delayUs answers
    onewireReadInitLowUs (by change 6 + _ ≤ _; omega)
  have hrest (t : OnewireState (List OnewireCall)) (ht : Held start (leftUs + 64) t) :
      Held start leftUs (delayUs answers.hal onewireReadReleaseUs
        (sampleBus answers.hal (delayUs answers.hal onewireReadSampleUs t)).2) := by
    have hwaited : Held start (leftUs + 55) _ :=
      ht.delayUs answers onewireReadSampleUs (by change 9 + _ ≤ _; omega)
    exact (hwaited.sampleBus answers).delayUs answers onewireReadReleaseUs
      (by change 55 + _ ≤ _; omega)
  unfold bitIo
  simp only
  split
  · exact ⟨((hrest _ (hlow.releaseBus answers)).releaseBus answers).recordSection,
      input_releaseBus.recordSection⟩
  · exact ⟨((hrest _ hlow).releaseBus answers).recordSection, input_releaseBus.recordSection⟩

theorem writeBits_released (left : Nat) : ∀ (value : UInt8) (s : OnewireState (List OnewireCall)),
    Held start (leftUs + 70 * (left + 1)) s →
      Released start leftUs (writeBits answers.hal (left + 1) value s) := by
  induction left with
  | zero => exact fun value s h => writeBit_released h
  | succ left ih =>
    intro value s h
    have hfirst : Released start (leftUs + 70 * (left + 1)) (writeBit answers.hal value s) :=
      writeBit_released (h.weaken (by omega))
    exact ih (value >>> 1) _ hfirst.held

theorem readBits_released (left : Nat) : ∀ (value : UInt8) (s : OnewireState (List OnewireCall)),
    Held start (leftUs + 70 * (left + 1)) s →
      Released start leftUs (readBits answers.hal (left + 1) value s).2 := by
  induction left with
  | zero => exact fun value s h => bitIo_released h
  | succ left ih =>
    intro value s h
    have hfirst : Released start (leftUs + 70 * (left + 1)) (bitIo answers.hal 1 s).2 :=
      bitIo_released (h.weaken (by omega))
    exact ih _ _ hfirst.held

theorem resetPulse_released (h : Held start (leftUs + 960) s) :
    Released start leftUs (resetPulse answers.hal s).2 := by
  have hlow : Held start (leftUs + 480) _ :=
    (((h.getTime answers).getTime answers).driveLow answers).delayUs answers onewireResetLowUs
      (by change 480 + _ ≤ _; omega)
  have hreleased (f : OnewireCtx → OnewireCtx) :=
    ((hlow.getTime answers).updateCtx f).releaseBus answers
  have hpresence (f : OnewireCtx → OnewireCtx) : Held start (leftUs + 410) _ :=
    ((hreleased f).delayUs answers onewirePresenceSampleUs
      (by change 70 + _ ≤ _; omega)).sampleBus answers
  have hidle (f : OnewireCtx → OnewireCtx) : Held start leftUs _ :=
    ((hpresence f).delayUs answers onewireResetReleaseUs
      (by change 410 + _ ≤ _; omega)).sampleBus answers
  unfold resetPulse
  exact ⟨(hidle _).recordSection, input_releaseBus.delayUs.sampleBus.delayUs.sampleBus.recordSection⟩

end Parts

theorem operation_rest {α : Type} {refused : α}
    {body : OnewireState (List OnewireCall) → α × OnewireState (List OnewireCall)}
    (hbody : ∀ s, Held start 960 s → Released start 0 (body s).2) (h : Rest start s) :
    Rest start (operation answers.hal refused body s).2 := by
  have hheld : Held start 960 (act answers.hal.suspendAll s) := by
    have hsuspended : (step (run step start s.env) .suspendAll).suspended = 1 :=
      congrArg (· + 1) h.suspended
    refine ⟨always_snoc h.guarded ⟨Nat.le_of_eq hsuspended, fun hzero => ?_, fun _ => Nat.zero_le _⟩,
      ?_, ?_⟩
    · rw [hsuspended] at hzero
      cases hzero
    · exact (congrArg OnewireWatch.suspended (run_snoc s.env .suspendAll)).trans hsuspended
    · have hzero : (run step start (act answers.hal.suspendAll s).env).delayedUs = 0 :=
        congrArg OnewireWatch.delayedUs (run_snoc s.env .suspendAll)
      rw [hzero]
  have hresume (t : OnewireState (List OnewireCall)) (ht : Held start 0 t)
      (hreleased : ¬(run step start t.env).Pulls) : Rest start (act answers.hal.resumeAll t) := by
    have hsuspended : (step (run step start t.env) .resumeAll).suspended = 0 :=
      congrArg (· - 1) ht.suspended
    refine ⟨always_snoc ht.guarded ⟨by rw [hsuspended]; exact Nat.zero_le _, fun _ => hreleased,
      fun hone => ?_⟩, ?_, ?_⟩
    · rw [hsuspended] at hone
      cases hone
    · exact (congrArg OnewireWatch.suspended (run_snoc t.env .resumeAll)).trans hsuspended
    · intro hpulls
      have hwatch : run step start (act answers.hal.resumeAll t).env =
          step (run step start t.env) .resumeAll := run_snoc t.env .resumeAll
      rw [hwatch] at hpulls
      exact hreleased hpulls
  unfold operation
  simp only
  split
  · apply hresume
    · exact (hheld.weaken (Nat.zero_le 960)).updateCtx countBusError
    · intro hpulls
      have hwatch : run step start (act answers.hal.suspendAll s).env =
          step (run step start s.env) .suspendAll := run_snoc s.env .suspendAll
      change (run step start (act answers.hal.suspendAll s).env).Pulls at hpulls
      rw [hwatch] at hpulls
      exact h.released hpulls
  · have hreleased := hbody _ (hheld.updateCtx beginOperation)
    apply hresume _ (hreleased.held.updateCtx endOperation)
    rintro ⟨hmode, -⟩
    have hinput := hreleased.input
    change (run step start _).mode = .outputOd at hmode
    unfold Input at hinput
    have hboth := hinput.symm.trans hmode
    cases hboth

/-- Outside of an operation no call but a low output disturbs the rest. -/
theorem Rest.call {ctx : OnewireCtx} {call : OnewireCall} (h : Rest start s)
    (hsuspended : (step (run step start s.env) call).suspended = (run step start s.env).suspended)
    (hreleased : ¬(step (run step start s.env) call).Pulls) : Rest start ⟨ctx, s.env ++ [call]⟩ := by
  have hzero := hsuspended.trans h.suspended
  refine ⟨always_snoc h.guarded ⟨?_, fun _ => hreleased, fun hone => ?_⟩, ?_, ?_⟩
  · rw [hzero]
    exact Nat.zero_le 1
  · rw [hzero] at hone
    cases hone
  · rw [run_snoc, hzero]
  · rw [run_snoc]
    exact hreleased

theorem getDiag_rest (h : Rest start s) : Rest start (getDiag answers.hal s).2 := by
  unfold getDiag
  simp only
  split
  · exact h.call rfl h.released
  · exact h

theorem settled_rest (answers : OnewireAnswers) (h : Rest start s) :
    Rest start (sampleBus answers.hal (delayUs answers.hal onewireReleaseSettleUs
      (releaseBus answers.hal s))).2 := by
  have hreleased : Rest start (releaseBus answers.hal s) := by
    apply h.call rfl
    rintro ⟨hmode, -⟩
    cases hmode
  have hsettled : Rest start (delayUs answers.hal onewireReleaseSettleUs (releaseBus answers.hal s)) :=
    hreleased.call rfl hreleased.released
  exact hsettled.call rfl hsettled.released

theorem prepareForSleep_rest (h : Rest start s) : Rest start (prepareForSleep answers.hal s).2 := by
  unfold prepareForSleep
  by_cases hvalid : (!s.ctx.isValid) = true
  · rw [if_pos hvalid]
    exact h
  · rw [if_neg hvalid]
    simp only
    split
    · exact h.of_env rfl
    · have hcounted : Rest start (updateCtx (fun ctx =>
          { ctx with sleepPrepareAttempts := ctx.sleepPrepareAttempts + 1 }) s) := h.of_env rfl
      have hsettled := settled_rest answers hcounted
      split
      · exact hsettled.of_env rfl
      · exact hsettled

theorem perform_rest (activity : OnewireActivity) (h : Rest start s) :
    Rest start (perform answers.hal s activity) := by
  cases activity with
  | request request =>
    cases request with
    | reset =>
      have hpulsed : Rest start (operation answers.hal none
          (fun s => (some (resetPulse answers.hal s).1, (resetPulse answers.hal s).2)) s).2 :=
        operation_rest (fun t ht => resetPulse_released ht) h
      change Rest start (reset answers.hal s).2
      rcases OnewireLink.reset_cases answers.hal s with heq | heq
      · rw [heq]
        exact hpulsed
      · rw [heq]
        exact hpulsed.of_env rfl
    | writeByte value =>
      have hwritten : ∀ t, Held start 960 t →
          Released start 0 (OnewireStatus.ok, writeBits answers.hal 8 value t).2 :=
        fun t ht => writeBits_released 7 value t (ht.weaken (by decide))
      exact operation_rest hwritten h
    | readByte =>
      have hread : ∀ t, Held start 960 t → Released start 0
          ((OnewireStatus.ok, (readBits answers.hal 8 0 t).1), (readBits answers.hal 8 0 t).2).2 :=
        fun t ht => readBits_released 7 0 t (ht.weaken (by decide))
      exact operation_rest hread h
  | getDiag => exact getDiag_rest h
  | prepareForSleep => exact prepareForSleep_rest h

/-- Whatever is asked of the adapter and whatever the SDK answers: at no call is the line pulled while
the scheduler runs, and the scheduler is never suspended twice or for more than a reset. -/
theorem pulls_suspended_only (answers : OnewireAnswers) (start : OnewireWatch) (ctx : OnewireCtx)
    (activities : List OnewireActivity) (hrunning : start.suspended = 0) (hreleased : ¬start.Pulls) :
    Always step Safe start (run (perform answers.hal) ⟨ctx, []⟩ activities).env := by
  have hsafe : start.Safe := by
    refine ⟨?_, fun _ => hreleased, fun hone => ?_⟩
    · rw [hrunning]
      exact Nat.zero_le 1
    · rw [hrunning] at hone
      cases hone
  have hinit : Rest start (⟨ctx, []⟩ : OnewireState (List OnewireCall)) := by
    refine ⟨fun earlier hprefix => ?_, hrunning, hreleased⟩
    rw [List.prefix_nil.mp hprefix]
    exact hsafe
  exact (always_of_step (fun _ activity h => perform_rest activity h) hinit
    activities).last.guarded

/-- A reset and a read on a line that answers high. -/
theorem pulls_suspended_only_high :
    let answers : OnewireAnswers := ⟨fun _ => true, fun _ => true, fun calls => calls.length⟩
    let start : OnewireWatch := ⟨0, .outputOd, true, 0⟩
    Always step Safe start (run (perform answers.hal)
      ⟨{ dataPin := 4, configured := true }, []⟩ [.request .reset, .request .readByte]).env :=
  pulls_suspended_only _ ⟨0, .outputOd, true, 0⟩ _ _ rfl (by
    rintro ⟨-, hlatch⟩
    cases hlatch)

end OnewireGuard

end EventFramework
