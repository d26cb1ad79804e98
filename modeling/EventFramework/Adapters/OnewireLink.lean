import EventFramework.Adapters.OnewireAdapter
import EventFramework.Library.OneWire

/-!
# The 1-Wire adapter on a line

The adapter on a line with one device, where interrupts hold up every call of the SDK for as long as
they like. What the adapter times is enough to know that both sides understood each other.
-/

namespace EventFramework
set_option autoImplicit false

open OneWire OnewireAdapter OnewireCtx

variable {σ : Type}

/-- The line with the pin of the master on it, and how many calls the master has made. -/
structure OnewireBus (σ : Type) where
  line : Line σ
  mode : GpioMode
  latch : Bool
  calls : Nat

/-- A device, and how long each call of the SDK is held up. -/
structure OnewireWorld (σ : Type) where
  device : Device σ
  lagUs : Nat → Nat

namespace OnewireWorld

variable (w : OnewireWorld σ)

def wait (us : Nat) (b : OnewireBus σ) : OnewireBus σ :=
  { b with line := b.line.pass (us + w.lagUs b.calls), calls := b.calls + 1 }

/-- The pin pulls the line while it is an output with a zero on it. -/
def drive (mode : GpioMode) (latch : Bool) (b : OnewireBus σ) : OnewireBus σ :=
  { b with
    mode := mode
    latch := latch
    line := if mode = .outputOd ∧ latch = false then b.line.fall w.device
      else b.line.rise w.device }

def hal : OnewireHal (OnewireBus σ) where
  gpioConfig config b := (true, w.drive config.mode b.latch (w.wait 0 b))
  setDirection _ mode b := w.drive mode b.latch (w.wait 0 b)
  setLevel _ level b := w.drive b.mode level (w.wait 0 b)
  getLevel _ b := ((w.wait 0 b).line.high, w.wait 0 b)
  delayUs us b := w.wait us b
  getTime b := ((w.wait 0 b).line.now, w.wait 0 b)
  suspendAll := w.wait 0
  resumeAll := w.wait 0

end OnewireWorld

structure OnewireBus.Ready (b : OnewireBus σ) : Prop where
  idle : b.line.Idle
  off : b.mode = .defInput ∨ b.latch = true

namespace OnewireLink

variable {w : OnewireWorld σ} {state : σ} {since : Nat} {s : OnewireState (OnewireBus σ)}

theorem wait_now (us : Nat) (b : OnewireBus σ) :
    (w.wait us b).line.now = b.line.now + us + w.lagUs b.calls :=
  (Nat.add_assoc _ _ _).symm

theorem wait_le (us : Nat) (b : OnewireBus σ) : b.line.now + us ≤ (w.wait us b).line.now := by
  rw [wait_now]
  exact Nat.le_add_right _ _

theorem ready_wait {b : OnewireBus σ} (h : b.Ready) (us : Nat) : (w.wait us b).Ready :=
  ⟨h.idle.pass _, h.off⟩

theorem drive_now (mode : GpioMode) (latch : Bool) (b : OnewireBus σ) :
    (w.drive mode latch b).line.now = b.line.now := by
  unfold OnewireWorld.drive
  simp only
  split
  · exact Line.fall_now _
  · exact Line.rise_now _

structure Pulling (w : OnewireWorld σ) (state : σ) (since : Nat) (b : OnewireBus σ) : Prop where
  low : b.line.Low w.device state since
  mode_eq : b.mode = .outputOd
  latch_eq : b.latch = false

/-- The master has let go of the line in the slot for `bit`. -/
structure Opened (w : OnewireWorld σ) (state : σ) (bit : Bool) (since : Nat) (b : OnewireBus σ) :
    Prop where
  slot : b.line.Open w.device state bit since
  mode_eq : b.mode = .defInput

theorem Pulling.wait {b : OnewireBus σ} (h : Pulling w state since b) (us : Nat) :
    Pulling w state since (w.wait us b) :=
  ⟨h.low.pass _, h.mode_eq, h.latch_eq⟩

theorem Opened.wait {bit : Bool} {b : OnewireBus σ} (h : Opened w state bit since b) (us : Nat) :
    Opened w state bit since (w.wait us b) :=
  ⟨h.slot.pass _, h.mode_eq⟩

theorem drive_pulls {b : OnewireBus σ} (h : b.line.Idle) :
    Pulling w b.line.state b.line.now (w.drive .outputOd false b) := by
  refine ⟨?_, rfl, rfl⟩
  unfold OnewireWorld.drive
  rw [if_pos ⟨rfl, rfl⟩]
  exact h.fall

theorem Pulling.drive {b : OnewireBus σ} (h : Pulling w state since b) :
    Pulling w state since (w.drive .outputOd false b) := by
  refine ⟨?_, rfl, rfl⟩
  unfold OnewireWorld.drive
  rw [if_pos ⟨rfl, rfl⟩, Line.fall_of_low h.low.low]
  exact h.low

/-- A pin that does not pull leaves a free line as it is. -/
theorem drive_line {b : OnewireBus σ} {mode : GpioMode} {latch : Bool}
    (hfree : b.line.lowSince = none) (hoff : ¬(mode = .outputOd ∧ latch = false)) :
    (w.drive mode latch b).line = b.line := by
  unfold OnewireWorld.drive
  rw [if_neg hoff, Line.rise_of_free hfree]

theorem driveLow_env : (driveLow w.hal s).env =
    w.drive .outputOd false (w.wait 0 (w.drive .outputOd s.env.latch (w.wait 0 s.env))) := rfl

/-- Whichever of its two calls pulls the line, `driveLow` leaves it pulled since one of them. -/
theorem driveLow_pulling (h : s.env.Ready) :
    ∃ since, s.env.line.now ≤ since ∧
      Pulling w s.env.line.state since (driveLow w.hal s).env := by
  have hfirst := ready_wait (w := w) h 0
  have hnow : s.env.line.now ≤ (w.wait 0 s.env).line.now := wait_le 0 s.env
  rw [driveLow_env]
  cases hlatch : s.env.latch with
  | false => exact ⟨_, hnow, ((drive_pulls hfirst.idle).wait 0).drive⟩
  | true =>
    have hstill : (w.drive .outputOd true (w.wait 0 s.env)).line = (w.wait 0 s.env).line :=
      drive_line hfirst.idle.free (by decide)
    have hline : (w.wait 0 (w.drive .outputOd true (w.wait 0 s.env))).line =
        (w.wait 0 s.env).line.pass (0 + w.lagUs (s.env.calls + 1)) :=
      congrArg (Line.pass (0 + w.lagUs (s.env.calls + 1))) hstill
    have hpulls := drive_pulls (w := w)
      (b := w.wait 0 (w.drive .outputOd true (w.wait 0 s.env))) (by
        rw [hline]
        exact hfirst.idle.pass _)
    rw [hline] at hpulls
    exact ⟨_, Nat.le_trans hnow (Nat.le_add_right _ _), hpulls⟩

theorem input_off (latch : Bool) : ¬(GpioMode.defInput = .outputOd ∧ latch = false) := by
  rintro ⟨hmode, -⟩
  cases hmode

theorem Pulling.release {bit : Bool} {b : OnewireBus σ} {latch : Bool} (h : Pulling w state since b)
    (hshort : b.line.now - since < w.device.resetUs)
    (hbit : b.line.now - since ≤ w.device.sampleUs ↔ bit = true) :
    Opened w state bit since (w.drive .defInput latch b) := by
  refine ⟨?_, rfl⟩
  unfold OnewireWorld.drive
  rw [if_neg (input_off latch)]
  exact h.low.rise hshort hbit

theorem Opened.release {bit : Bool} {b : OnewireBus σ} {latch : Bool}
    (h : Opened w state bit since b) : Opened w state bit since (w.drive .defInput latch b) := by
  refine ⟨?_, rfl⟩
  rw [drive_line h.slot.free (input_off latch)]
  exact h.slot

theorem Opened.ready {bit : Bool} {b : OnewireBus σ} (h : Opened w state bit since b)
    (hlate : since + w.device.holdUs ≤ b.line.now) : b.Ready :=
  ⟨h.slot.idle hlate, Or.inl h.mode_eq⟩

section Counters

/-- What no operation takes back. -/
structure Grows (c c' : OnewireCtx) : Prop where
  bit_le : c.maxBitCriticalSectionUs ≤ c'.maxBitCriticalSectionUs
  reset_le : c.maxResetCriticalSectionUs ≤ c'.maxResetCriticalSectionUs
  valid_eq : c'.isValid = c.isValid

theorem Grows.refl (c : OnewireCtx) : Grows c c := ⟨UInt32.le_refl _, UInt32.le_refl _, rfl⟩

theorem Grows.trans {a b c : OnewireCtx} (h : Grows a b) (h' : Grows b c) : Grows a c :=
  ⟨UInt32.le_trans h.bit_le h'.bit_le, UInt32.le_trans h.reset_le h'.reset_le,
    h'.valid_eq.trans h.valid_eq⟩

theorem elapsedUs_lt (start stop bound : Nat) (hbound : bound ≤ 4294967295)
    (h : (elapsedUs start stop).toNat < bound) : stop < start + bound := by
  unfold elapsedUs at h
  split at h
  · omega
  · split at h
    · rw [show (4294967295 : UInt32).toNat = 4294967295 from rfl] at h
      omega
    · rw [UInt32.toNat_ofNat', Nat.mod_eq_of_lt (by omega)] at h
      omega

theorem le_max (elapsed max : UInt32) :
    elapsed ≤ (if elapsed > max then elapsed else max) ∧
      max ≤ (if elapsed > max then elapsed else max) := by
  split
  · rename_i h
    exact ⟨UInt32.le_refl _, UInt32.le_of_lt h⟩
  · rename_i h
    exact ⟨UInt32.not_lt.mp h, UInt32.le_refl _⟩

theorem recordTimingSection_eq (elapsed : UInt32) (resetSection : Bool) (c : OnewireCtx) :
    recordTimingSection elapsed resetSection c =
      { c with
        criticalSections := c.criticalSections + 1
        criticalSectionBudgetViolations :=
          if elapsed > (if resetSection then onewireResetTimingSectionBudgetUs
            else onewireBitTimingSectionBudgetUs) then c.criticalSectionBudgetViolations + 1
          else c.criticalSectionBudgetViolations
        maxCriticalSectionUs :=
          if elapsed > c.maxCriticalSectionUs then elapsed else c.maxCriticalSectionUs
        resetCriticalSections :=
          if resetSection then c.resetCriticalSections + 1 else c.resetCriticalSections
        bitCriticalSections :=
          if resetSection then c.bitCriticalSections else c.bitCriticalSections + 1
        maxResetCriticalSectionUs :=
          if resetSection then
            if elapsed > c.maxResetCriticalSectionUs then elapsed else c.maxResetCriticalSectionUs
          else c.maxResetCriticalSectionUs
        maxBitCriticalSectionUs :=
          if resetSection then c.maxBitCriticalSectionUs
          else if elapsed > c.maxBitCriticalSectionUs then elapsed else c.maxBitCriticalSectionUs } := by
  unfold recordTimingSection
  cases resetSection with
  | false =>
    simp only [Bool.false_eq_true, if_false]
    split <;> split <;> split <;> rfl
  | true =>
    simp only [if_true]
    split <;> split <;> split <;> rfl

theorem recordTimingSection_grows (elapsed : UInt32) (resetSection : Bool) (c : OnewireCtx) :
    Grows c (recordTimingSection elapsed resetSection c) := by
  rw [recordTimingSection_eq]
  cases resetSection with
  | false => exact ⟨(le_max elapsed c.maxBitCriticalSectionUs).2, UInt32.le_refl _, rfl⟩
  | true => exact ⟨UInt32.le_refl _, (le_max elapsed c.maxResetCriticalSectionUs).2, rfl⟩

theorem recordTimingSection_bit (elapsed : UInt32) (c : OnewireCtx) :
    elapsed ≤ (recordTimingSection elapsed false c).maxBitCriticalSectionUs := by
  rw [recordTimingSection_eq]
  exact (le_max elapsed c.maxBitCriticalSectionUs).1

theorem recordTimingSection_reset (elapsed : UInt32) (c : OnewireCtx) :
    elapsed ≤ (recordTimingSection elapsed true c).maxResetCriticalSectionUs := by
  rw [recordTimingSection_eq]
  exact (le_max elapsed c.maxResetCriticalSectionUs).1

end Counters

/-- The device and the largest sections leave no room for a bit that was misread: both sampled within
the time that the other kept the line as it was. -/
structure Certified (device : Device σ) (c : OnewireCtx) : Prop where
  reads : c.maxBitCriticalSectionUs.toNat < 55 + device.holdUs
  writes : c.maxBitCriticalSectionUs.toNat ≤ 64 + device.sampleUs
  resets : c.maxResetCriticalSectionUs.toNat < 890 + device.presenceDelayUs + device.presenceUs

theorem Certified.earlier {device : Device σ} {c c' : OnewireCtx} (h : Certified device c')
    (hgrows : Grows c c') : Certified device c := by
  have hbit := UInt32.le_iff_toNat_le.mp hgrows.bit_le
  have hreset := UInt32.le_iff_toNat_le.mp hgrows.reset_le
  have hreads := h.reads
  have hwrites := h.writes
  have hresets := h.resets
  exact ⟨by omega, by omega, by omega⟩

section Slots

/-- What a bit section came to, if the certificate holds after it. -/
theorem section_short {startUs : Nat} (hcertified : Certified w.device
    (recordSection w.hal startUs false s).ctx) :
    (recordSection w.hal startUs false s).env.line.now < startUs + 55 + w.device.holdUs ∧
      (recordSection w.hal startUs false s).env.line.now ≤ startUs + 64 + w.device.sampleUs := by
  have hlast : (elapsedUs startUs ((w.wait 0 s.env).line.now : ℕ)).toNat ≤
      (recordSection w.hal startUs false s).ctx.maxBitCriticalSectionUs.toNat :=
    UInt32.le_iff_toNat_le.mp (recordTimingSection_bit _ _)
  have hreads := hcertified.reads
  have hwrites := hcertified.writes
  have hhold := w.device.hold_range
  have hsample := w.device.sample_range
  have henv : (recordSection w.hal startUs false s).env.line.now = (w.wait 0 s.env).line.now := rfl
  have hread := elapsedUs_lt startUs (w.wait 0 s.env).line.now (55 + w.device.holdUs) (by omega)
    (by omega)
  have hwritten := elapsedUs_lt startUs (w.wait 0 s.env).line.now
    (64 + w.device.sampleUs + 1) (by omega) (by omega)
  rw [henv]
  omega

/-- What a slot leaves: the device has seen the bit and the line is idle again. -/
structure Passed (w : OnewireWorld σ) (state : σ) (bit : Bool) (b : OnewireBus σ) : Prop where
  ready : b.Ready
  state_eq : b.line.state = (w.device.slot bit state).2

theorem Opened.passed {bit : Bool} {b : OnewireBus σ} (h : Opened w state bit since b)
    (hlate : since + w.device.holdUs ≤ b.line.now) : Passed w state bit b :=
  ⟨h.ready hlate, h.slot.state_eq⟩

theorem slot_opened {b : OnewireBus σ} {bit latch : Bool} {lowUs : Nat} (h : Pulling w state since b)
    (hshort : (w.wait 0 (w.wait lowUs b)).line.now < since + w.device.resetUs)
    (hbit : (w.wait 0 (w.wait lowUs b)).line.now ≤ since + w.device.sampleUs ↔ bit = true) :
    Opened w state bit since (w.drive .defInput latch (w.wait 0 (w.wait lowUs b))) := by
  have hpulling := (h.wait lowUs).wait 0
  have hpast := hpulling.low.past
  refine hpulling.release (by omega) ?_
  rw [← hbit]
  omega

def writeSlot (hal : OnewireHal (OnewireBus σ)) (lowUs highUs : Nat)
    (s : OnewireState (OnewireBus σ)) : OnewireState (OnewireBus σ) :=
  recordSection hal (ask hal.getTime s).1 false (delayUs hal highUs (releaseBus hal
    (delayUs hal lowUs (driveLow hal (ask hal.getTime s).2))))

theorem writeBit_slot (hal : OnewireHal (OnewireBus σ)) (value : UInt8)
    (s : OnewireState (OnewireBus σ)) :
    writeBit hal value s =
      if value &&& 0x01 ≠ 0 then writeSlot hal onewireWrite1LowUs onewireWrite1ReleaseUs s
      else writeSlot hal onewireWrite0LowUs onewireWrite0ReleaseUs s := by
  unfold writeBit writeSlot
  simp only
  split <;> rfl

/-- A certified slot carries a one if it leaves the line alone for 64 µs and a zero if it holds it for
60 µs. -/
theorem writeSlot_link {bit : Bool} {lowUs highUs : Nat} (h : s.env.Ready)
    (hbit : 64 ≤ highUs ∧ bit = true ∨ 60 ≤ lowUs ∧ 10 ≤ highUs ∧ bit = false)
    (hcertified : Certified w.device (writeSlot w.hal lowUs highUs s).ctx) :
    Passed w s.env.line.state bit (writeSlot w.hal lowUs highUs s).env := by
  obtain ⟨since, hsince, hpulling⟩ := driveLow_pulling (w := w)
    (s := (ask w.hal.getTime s).2) (ready_wait h 0)
  obtain ⟨hreads, hwrites⟩ := section_short hcertified
  have hhold := w.device.hold_range
  have hsample := w.device.sample_range
  have hreset := w.device.reset_range
  generalize henv : (driveLow w.hal (ask w.hal.getTime s).2).env = b at hpulling
  have hstart : (w.wait 0 s.env).line.now ≤ since := hsince
  have hpast := hpulling.low.past
  have hlow := wait_le (w := w) lowUs b
  have hrise := wait_le (w := w) 0 (w.wait lowUs b)
  have hfinal : (writeSlot w.hal lowUs highUs s).env =
      w.wait 0 (w.wait highUs (w.drive .defInput b.latch (w.wait 0 (w.wait lowUs b)))) := by
    rw [← henv]
    rfl
  have hhigh := wait_le (w := w) highUs (w.drive .defInput b.latch (w.wait 0 (w.wait lowUs b)))
  have hend := wait_le (w := w) 0
    (w.wait highUs (w.drive .defInput b.latch (w.wait 0 (w.wait lowUs b))))
  rw [drive_now] at hhigh
  change (writeSlot w.hal lowUs highUs s).env.line.now < (w.wait 0 s.env).line.now + 55 + _ at hreads
  change (writeSlot w.hal lowUs highUs s).env.line.now ≤ (w.wait 0 s.env).line.now + 64 + _ at hwrites
  rw [hfinal] at hreads hwrites ⊢
  have hopened : Opened w s.env.line.state bit since
      (w.drive .defInput b.latch (w.wait 0 (w.wait lowUs b))) := by
    apply slot_opened hpulling
    · rcases hbit with ⟨hlong, -⟩ | ⟨-, hlong, -⟩ <;> omega
    · rcases hbit with ⟨hlong, hone⟩ | ⟨hheld, -, hzero⟩
      · exact iff_of_true (by omega) hone
      · rw [hzero]
        exact iff_of_false (by omega) Bool.false_ne_true
  apply ((hopened.wait highUs).wait 0).passed
  rcases hbit with ⟨hlong, -⟩ | ⟨hheld, hlong, -⟩ <;> omega

theorem writeBit_link {value : UInt8} (h : s.env.Ready)
    (hcertified : Certified w.device (writeBit w.hal value s).ctx) :
    Passed w s.env.line.state (decide (value &&& 0x01 ≠ 0)) (writeBit w.hal value s).env := by
  rw [writeBit_slot] at hcertified ⊢
  by_cases hone : value &&& 0x01 ≠ 0
  · rw [decide_eq_true hone]
    rw [if_pos hone] at hcertified ⊢
    exact writeSlot_link h (Or.inl ⟨Nat.le_refl _, rfl⟩) hcertified
  · rw [decide_eq_false hone]
    rw [if_neg hone] at hcertified ⊢
    exact writeSlot_link h (Or.inr ⟨Nat.le_refl _, Nat.le_refl _, rfl⟩) hcertified

/-- A certified slot of a read returns what the line carried. -/
theorem bitIo_link (h : s.env.Ready) (hcertified : Certified w.device (bitIo w.hal 1 s).2.ctx) :
    (bitIo w.hal 1 s).1 = (if (w.device.slot true s.env.line.state).1 then 1 else 0) ∧
      Passed w s.env.line.state true (bitIo w.hal 1 s).2.env := by
  obtain ⟨since, hsince, hpulling⟩ := driveLow_pulling (w := w)
    (s := (ask w.hal.getTime s).2) (ready_wait h 0)
  obtain ⟨hreads, hwrites⟩ := section_short hcertified
  have hhold := w.device.hold_range
  have hsample := w.device.sample_range
  have hreset := w.device.reset_range
  generalize henv : (driveLow w.hal (ask w.hal.getTime s).2).env = b at hpulling
  have hstart : (w.wait 0 s.env).line.now ≤ since := hsince
  have hpast := hpulling.low.past
  -- The bus when the line is let go, when it is sampled and when the section ends.
  generalize hreleased : w.drive .defInput b.latch (w.wait 0 (w.wait onewireReadInitLowUs b)) = released
  generalize hsampled : w.wait 0 (w.wait onewireReadSampleUs released) = sampled
  have hvalue : (bitIo w.hal 1 s).1 = if sampled.line.high then 1 else 0 := by
    rw [← hsampled, ← hreleased, ← henv]
    rfl
  have hfinal : (bitIo w.hal 1 s).2.env = w.wait 0 (w.drive .defInput sampled.latch
      (w.wait 0 (w.wait onewireReadReleaseUs sampled))) := by
    rw [← hsampled, ← hreleased, ← henv]
    rfl
  have hlow := wait_le (w := w) onewireReadInitLowUs b
  have hrise := wait_le (w := w) 0 (w.wait onewireReadInitLowUs b)
  have hreleasedNow : released.line.now = (w.wait 0 (w.wait onewireReadInitLowUs b)).line.now := by
    rw [← hreleased, drive_now]
  have hwait := wait_le (w := w) onewireReadSampleUs released
  have hlook := wait_le (w := w) 0 (w.wait onewireReadSampleUs released)
  rw [hsampled] at hlook
  have hrest := wait_le (w := w) onewireReadReleaseUs sampled
  have hagain := wait_le (w := w) 0 (w.wait onewireReadReleaseUs sampled)
  have hend := wait_le (w := w) 0 (w.drive .defInput sampled.latch
    (w.wait 0 (w.wait onewireReadReleaseUs sampled)))
  rw [drive_now] at hend
  have h6 : onewireReadInitLowUs = 6 := rfl
  have h9 : onewireReadSampleUs = 9 := rfl
  have h55 : onewireReadReleaseUs = 55 := rfl
  change (bitIo w.hal 1 s).2.env.line.now < (w.wait 0 s.env).line.now + 55 + _ at hreads
  change (bitIo w.hal 1 s).2.env.line.now ≤ (w.wait 0 s.env).line.now + 64 + _ at hwrites
  rw [hfinal] at hreads hwrites
  have hopened : Opened w s.env.line.state true since released := by
    rw [← hreleased]
    apply slot_opened hpulling
    · omega
    · exact iff_of_true (by omega) rfl
  have hlooked : Opened w s.env.line.state true since sampled := by
    rw [← hsampled]
    exact (hopened.wait _).wait 0
  constructor
  · rw [hvalue, hlooked.slot.high (by omega)]
  · rw [hfinal]
    apply ((((hlooked.wait _).wait 0).release).wait 0).passed
    omega

/-- What a reset leaves: the device has restarted and the line is idle again. -/
structure Restarted (w : OnewireWorld σ) (state : σ) (b : OnewireBus σ) : Prop where
  ready : b.Ready
  state_eq : b.line.state = w.device.restart state

theorem reset_short {startUs : Nat} (hcertified : Certified w.device
    (recordSection w.hal startUs true s).ctx) :
    (recordSection w.hal startUs true s).env.line.now <
      startUs + 890 + w.device.presenceDelayUs + w.device.presenceUs := by
  have hlast : (elapsedUs startUs ((w.wait 0 s.env).line.now : ℕ)).toNat ≤
      (recordSection w.hal startUs true s).ctx.maxResetCriticalSectionUs.toNat :=
    UInt32.le_iff_toNat_le.mp (recordTimingSection_reset _ _)
  have hresets := hcertified.resets
  have hdelay := w.device.delay_range
  have hpresence := w.device.presence_range
  have henv : (recordSection w.hal startUs true s).env.line.now = (w.wait 0 s.env).line.now := rfl
  have hshort := elapsedUs_lt startUs (w.wait 0 s.env).line.now
    (890 + w.device.presenceDelayUs + w.device.presenceUs) (by omega) (by omega)
  rw [henv]
  omega

/-- A certified reset samples the line within the presence pulse and after it. -/
theorem resetPulse_link (h : s.env.Ready) (hcertified : Certified w.device (resetPulse w.hal s).2.ctx) :
    (resetPulse w.hal s).1 = (false, true) ∧
      Restarted w s.env.line.state (resetPulse w.hal s).2.env := by
  obtain ⟨since, hsince, hpulling⟩ := driveLow_pulling (w := w)
    (s := (ask w.hal.getTime (ask w.hal.getTime s).2).2) (ready_wait (ready_wait h 0) 0)
  have hshort := reset_short hcertified
  have hreset := w.device.reset_range
  have hdelay := w.device.delay_range
  have hpresence := w.device.presence_range
  generalize henv : (driveLow w.hal (ask w.hal.getTime (ask w.hal.getTime s).2).2).env = b at hpulling
  have hsecond := wait_le (w := w) 0 (w.wait 0 s.env)
  have hstart : (w.wait 0 (w.wait 0 s.env)).line.now ≤ since := hsince
  have hpast := hpulling.low.past
  -- The bus at the end of the low phase, after it, and at the two samples.
  generalize hheld : w.wait 0 (w.wait 0 (w.wait onewireResetLowUs b)) = held
  generalize hreleased : w.drive .defInput held.latch held = released
  generalize hfirst : w.wait 0 (w.wait onewirePresenceSampleUs released) = first
  generalize hlast : w.wait 0 (w.wait onewireResetReleaseUs first) = last
  have hvalue : (resetPulse w.hal s).1 = (first.line.high, last.line.high) := by
    rw [← hlast, ← hfirst, ← hreleased, ← hheld, ← henv]
    rfl
  have hfinal : (resetPulse w.hal s).2.env = w.wait 0 last := by
    rw [← hlast, ← hfirst, ← hreleased, ← hheld, ← henv]
    rfl
  have hlow := wait_le (w := w) onewireResetLowUs b
  have hmeasured := wait_le (w := w) 0 (w.wait onewireResetLowUs b)
  have hrise := wait_le (w := w) 0 (w.wait 0 (w.wait onewireResetLowUs b))
  rw [hheld] at hrise
  have hreleasedNow : released.line.now = held.line.now := by rw [← hreleased, drive_now]
  have hwait := wait_le (w := w) onewirePresenceSampleUs released
  have hlook := wait_le (w := w) 0 (w.wait onewirePresenceSampleUs released)
  rw [hfirst] at hlook
  have hrest := wait_le (w := w) onewireResetReleaseUs first
  have hagain := wait_le (w := w) 0 (w.wait onewireResetReleaseUs first)
  rw [hlast] at hagain
  have hend := wait_le (w := w) 0 last
  have h480 : onewireResetLowUs = 480 := rfl
  have h70 : onewirePresenceSampleUs = 70 := rfl
  have h410 : onewireResetReleaseUs = 410 := rfl
  change (resetPulse w.hal s).2.env.line.now < (w.wait 0 s.env).line.now + 890 + _ + _ at hshort
  rw [hfinal] at hshort
  have hlong : Pulling w s.env.line.state since held := by
    rw [← hheld]
    exact ((hpulling.wait _).wait 0).wait 0
  have hpresent : released.line.Presence w.device s.env.line.state held.line.now := by
    rw [← hreleased]
    unfold OnewireWorld.drive
    rw [if_neg (input_off held.latch)]
    exact hlong.low.restart (by omega)
  have hfirstPresent : first.line.Presence w.device s.env.line.state held.line.now := by
    rw [← hfirst]
    exact (hpresent.pass _).pass _
  have hlastPresent : last.line.Presence w.device s.env.line.state held.line.now := by
    rw [← hlast]
    exact (hfirstPresent.pass _).pass _
  have hidle : last.line.Idle := hlastPresent.idle (by omega)
  constructor
  · rw [hvalue, hfirstPresent.low (by omega) (by omega), hidle.high]
  · rw [hfinal]
    have hmode : last.mode = .defInput := by
      rw [← hlast, ← hfirst, ← hreleased]
      rfl
    exact ⟨⟨hidle.pass _, Or.inl hmode⟩, hlastPresent.state_eq⟩

end Slots

end OnewireLink

end EventFramework
