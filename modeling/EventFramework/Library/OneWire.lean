import Mathlib.Tactic.Common

/-!
# A 1-Wire line

One open-drain line between a master and a device. The device times the low pulses of the master: a
long one restarts it and is answered by a presence pulse, a short one is a slot for one bit. Times are
in microseconds.
-/

namespace OneWire
set_option autoImplicit false

/-- A device: when it looks at the line and how long it keeps it low, within the ranges of the
protocol, and what it does with the bits. `sends` is its bit for the next slot, if the turn is its
own. -/
structure Device (σ : Type) where
  sampleUs : Nat
  holdUs : Nat
  resetUs : Nat
  presenceDelayUs : Nat
  presenceUs : Nat
  restart : σ → σ
  sends : σ → Option Bool
  sent : σ → σ
  receives : Bool → σ → σ
  sample_range : 15 ≤ sampleUs ∧ sampleUs < 60
  hold_range : 15 ≤ holdUs ∧ holdUs ≤ 60
  reset_range : 120 < resetUs ∧ resetUs ≤ 480
  delay_range : 15 ≤ presenceDelayUs ∧ presenceDelayUs ≤ 60
  presence_range : 60 ≤ presenceUs ∧ presenceUs ≤ 240

/-- The line, with the time since when the master pulls it, the interval in which the device does,
and the state of the device. -/
structure Line (σ : Type) where
  now : Nat
  lowSince : Option Nat
  pullFrom : Nat
  pullUntil : Nat
  state : σ

/-- The bits of a byte on the line, the least significant one first. -/
def bitsOf (value : UInt8) : List Bool := (List.range 8).map value.toNat.testBit

def ofBits (bits : List Bool) : UInt8 :=
  UInt8.ofNat (bits.foldr (fun bit rest => bit.toNat + 2 * rest) 0)

variable {σ : Type}

namespace Device

variable (device : Device σ)

def slot (bit : Bool) (state : σ) : Bool × σ :=
  match device.sends state with
  | some answer => (bit && answer, device.sent state)
  | none => (bit, device.receives bit state)

def slots : List Bool → σ → List Bool × σ
  | [], state => ([], state)
  | bit :: bits, state =>
    let first := device.slot bit state
    let rest := slots bits first.2
    (first.1 :: rest.1, rest.2)

@[simp] theorem slots_nil (state : σ) : device.slots [] state = ([], state) := rfl

@[simp] theorem slots_cons (bit : Bool) (bits : List Bool) (state : σ) :
    device.slots (bit :: bits) state =
      ((device.slot bit state).1 :: (device.slots bits (device.slot bit state).2).1,
        (device.slots bits (device.slot bit state).2).2) := rfl

theorem slots_length (bits : List Bool) (state : σ) :
    (device.slots bits state).1.length = bits.length := by
  induction bits generalizing state with
  | nil => rfl
  | cons bit bits ih => exact congrArg Nat.succ (ih (device.slot bit state).2)

end Device

namespace Line

def pulled (l : Line σ) : Bool := decide (l.pullFrom ≤ l.now) && decide (l.now < l.pullUntil)

def high (l : Line σ) : Bool := l.lowSince.isNone && !l.pulled

def pass (us : Nat) (l : Line σ) : Line σ := { l with now := l.now + us }

/-- The master pulls the line; a device with a zero to send pulls it as well. -/
def fall (device : Device σ) (l : Line σ) : Line σ :=
  match l.lowSince with
  | some _ => l
  | none =>
    if device.sends l.state = some false then
      { l with lowSince := some l.now, pullFrom := l.now, pullUntil := l.now + device.holdUs }
    else { l with lowSince := some l.now }

/-- The master lets go of the line; what it meant depends on how long it was low. -/
def rise (device : Device σ) (l : Line σ) : Line σ :=
  match l.lowSince with
  | none => l
  | some since =>
    if device.resetUs ≤ l.now - since then
      { l with
        lowSince := none
        pullFrom := l.now + device.presenceDelayUs
        pullUntil := l.now + device.presenceDelayUs + device.presenceUs
        state := device.restart l.state }
    else
      { l with
        lowSince := none
        state := (device.slot (decide (l.now - since ≤ device.sampleUs)) l.state).2 }

structure Idle (l : Line σ) : Prop where
  free : l.lowSince = none
  quiet : l.pullUntil ≤ l.now

/-- The master pulls the line and has pulled it since `since`, when the device was in `state`. -/
structure Low (device : Device σ) (state : σ) (since : Nat) (l : Line σ) : Prop where
  low : l.lowSince = some since
  past : since ≤ l.now
  state_eq : l.state = state
  zero : device.sends state = some false →
    l.pullFrom = since ∧ l.pullUntil = since + device.holdUs
  quiet : device.sends state ≠ some false → l.pullUntil ≤ since

/-- The master has let go of the line within a slot that began at `since`. -/
structure Open (device : Device σ) (state : σ) (bit : Bool) (since : Nat) (l : Line σ) : Prop where
  free : l.lowSince = none
  past : since ≤ l.now
  state_eq : l.state = (device.slot bit state).2
  zero : device.sends state = some false →
    l.pullFrom = since ∧ l.pullUntil = since + device.holdUs
  quiet : device.sends state ≠ some false → l.pullUntil ≤ since

/-- The master has let go of the line at `since`, after a reset pulse. -/
structure Presence (device : Device σ) (state : σ) (since : Nat) (l : Line σ) : Prop where
  free : l.lowSince = none
  past : since ≤ l.now
  state_eq : l.state = device.restart state
  pullFrom_eq : l.pullFrom = since + device.presenceDelayUs
  pullUntil_eq : l.pullUntil = since + device.presenceDelayUs + device.presenceUs

section Rules

variable {device : Device σ} {state : σ} {bit : Bool} {since : Nat} {l : Line σ}

@[simp] theorem pass_now (us : Nat) (l : Line σ) : (l.pass us).now = l.now + us := rfl

theorem Idle.pass (h : Idle l) (us : Nat) : Idle (l.pass us) :=
  ⟨h.free, Nat.le_trans h.quiet (Nat.le_add_right _ _)⟩

theorem Low.pass (h : Low device state since l) (us : Nat) : Low device state since (l.pass us) :=
  ⟨h.low, Nat.le_trans h.past (Nat.le_add_right _ _), h.state_eq, h.zero, h.quiet⟩

theorem Open.pass (h : Open device state bit since l) (us : Nat) :
    Open device state bit since (l.pass us) :=
  ⟨h.free, Nat.le_trans h.past (Nat.le_add_right _ _), h.state_eq, h.zero, h.quiet⟩

theorem Presence.pass (h : Presence device state since l) (us : Nat) :
    Presence device state since (l.pass us) :=
  ⟨h.free, Nat.le_trans h.past (Nat.le_add_right _ _), h.state_eq, h.pullFrom_eq, h.pullUntil_eq⟩

theorem rise_of_free (hfree : l.lowSince = none) : l.rise device = l := by
  unfold rise
  rw [hfree]

theorem fall_of_low (hlow : l.lowSince = some since) : l.fall device = l := by
  unfold fall
  rw [hlow]

@[simp] theorem fall_now (l : Line σ) : (l.fall device).now = l.now := by
  unfold fall
  split
  · rfl
  · split <;> rfl

@[simp] theorem rise_now (l : Line σ) : (l.rise device).now = l.now := by
  unfold rise
  split
  · rfl
  · split <;> rfl

theorem Idle.fall (h : Idle l) : Low device l.state l.now (l.fall device) := by
  unfold Line.fall
  rw [h.free]
  simp only
  by_cases hzero : device.sends l.state = some false
  · rw [if_pos hzero]
    exact ⟨rfl, Nat.le_refl _, rfl, fun _ => ⟨rfl, rfl⟩, fun hother => absurd hzero hother⟩
  · rw [if_neg hzero]
    exact ⟨rfl, Nat.le_refl _, rfl, fun hsends => absurd hsends hzero, fun _ => h.quiet⟩

/-- A low pulse that is no reset is a slot for the bit that the device samples in it. -/
theorem Low.rise (h : Low device state since l) (hshort : l.now - since < device.resetUs)
    (hbit : (l.now - since ≤ device.sampleUs) ↔ bit = true) :
    Open device state bit since (l.rise device) := by
  have hsampled : decide (l.now - since ≤ device.sampleUs) = bit := by
    cases bit with
    | false => exact decide_eq_false fun hle => Bool.false_ne_true (hbit.mp hle)
    | true => exact decide_eq_true (hbit.mpr rfl)
  unfold Line.rise
  rw [h.low]
  simp only
  rw [if_neg (Nat.not_le.mpr hshort), hsampled, h.state_eq]
  exact ⟨rfl, h.past, rfl, h.zero, h.quiet⟩

/-- A long low pulse restarts the device. -/
theorem Low.restart (h : Low device state since l) (hlong : device.resetUs ≤ l.now - since) :
    Presence device state l.now (l.rise device) := by
  unfold Line.rise
  rw [h.low]
  simp only
  rw [if_pos hlong, h.state_eq]
  exact ⟨rfl, Nat.le_refl _, rfl, rfl, rfl⟩

/-- A master that samples before the device lets go reads the conjunction of both bits. -/
theorem Open.high (h : Open device state true since l) (hsoon : l.now < since + device.holdUs) :
    l.high = (device.slot true state).1 := by
  have hpast := h.past
  unfold Line.high pulled Device.slot
  rw [h.free]
  by_cases hzero : device.sends state = some false
  · obtain ⟨hfrom, huntil⟩ := h.zero hzero
    rw [hzero, hfrom, huntil, decide_eq_true hpast, decide_eq_true hsoon]
    rfl
  · have hquiet := h.quiet hzero
    have hlate : decide (l.now < l.pullUntil) = false := decide_eq_false (by omega)
    rw [hlate, Bool.and_false]
    cases hsends : device.sends state with
    | none => rfl
    | some answer =>
      cases answer with
      | false => exact absurd hsends hzero
      | true => rfl

/-- A device holds a zero no longer than its slot. -/
theorem Open.idle (h : Open device state bit since l) (hlate : since + device.holdUs ≤ l.now) :
    Idle l := by
  refine ⟨h.free, ?_⟩
  by_cases hzero : device.sends state = some false
  · rw [(h.zero hzero).2]
    exact hlate
  · have hquiet := h.quiet hzero
    omega

theorem Presence.low (h : Presence device state since l)
    (hfrom : since + device.presenceDelayUs ≤ l.now)
    (huntil : l.now < since + device.presenceDelayUs + device.presenceUs) : l.high = false := by
  unfold Line.high pulled
  rw [h.pullFrom_eq, h.pullUntil_eq, decide_eq_true hfrom, decide_eq_true huntil]
  exact Bool.and_false _

theorem Presence.idle (h : Presence device state since l)
    (hlate : since + device.presenceDelayUs + device.presenceUs ≤ l.now) : Idle l := by
  refine ⟨h.free, ?_⟩
  rw [h.pullUntil_eq]
  exact hlate

theorem Idle.high (h : Idle l) : l.high = true := by
  unfold Line.high pulled
  rw [h.free, decide_eq_false (Nat.not_lt.mpr h.quiet), Bool.and_false]
  rfl

end Rules

end Line

end OneWire
