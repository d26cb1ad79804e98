import EventFramework.Adapters.OnewireLink
import EventFramework.Library.Agreement
import Mathlib.Data.Fintype.Vector

/-!
# Transfers over a 1-Wire line

The port of the adapter on a line against the port that hands every byte to the device as it is. Up to
the last operation that its own diagnostics vouch for, no caller can tell them apart.
-/

namespace EventFramework
set_option autoImplicit false

open OneWire OnewireAdapter OnewireCtx OnewireLink Agreement

variable {σ ω ω' : Type}

inductive OnewireRequest where
  | reset
  | writeByte (value : UInt8)
  | readByte
  deriving DecidableEq, Repr

namespace OnewirePort

def serve (port : OnewirePort ω) (request : OnewireRequest) (s : ω) : DeviceCall × ω :=
  match request with
  | .reset => (.onewireReset (port.reset s).1, (port.reset s).2)
  | .writeByte value => (.onewireWriteByte value (port.writeByte value s).1, (port.writeByte value s).2)
  | .readByte =>
    (.onewireReadByte (port.readByte s).1.1 (port.readByte s).1.2, (port.readByte s).2)

/-- One port does what another does, as far as the state after a call is trusted. -/
structure Refines (port : OnewirePort ω) (spec : OnewirePort ω') (Rel : ω → ω' → Prop)
    (Trusted : ω → Prop) : Prop where
  reset : Agrees Rel Trusted port.reset spec.reset
  writeByte : ∀ value, Agrees Rel Trusted (port.writeByte value) (spec.writeByte value)
  readByte : Agrees Rel Trusted port.readByte spec.readByte

theorem Refines.serve {port : OnewirePort ω} {spec : OnewirePort ω'} {Rel : ω → ω' → Prop}
    {Trusted : ω → Prop} (h : port.Refines spec Rel Trusted) (request : OnewireRequest) :
    Agrees Rel Trusted (port.serve request) (spec.serve request) := by
  cases request with
  | reset => exact h.reset.map DeviceCall.onewireReset
  | writeByte value => exact (h.writeByte value).map (DeviceCall.onewireWriteByte value)
  | readByte => exact h.readByte.map fun out => DeviceCall.onewireReadByte out.1 out.2

end OnewirePort

/-- A port that hands every byte to the device as it is. -/
def OnewirePort.ofDevice (device : Device σ) : OnewirePort σ where
  reset state := (.ok, device.restart state)
  writeByte value state := (.ok, (device.slots (bitsOf value) state).2)
  readByte state :=
    ((.ok, ofBits (device.slots (List.replicate 8 true) state).1),
      (device.slots (List.replicate 8 true) state).2)

namespace OnewireLink

section Loops

variable {ε : Type} {w : OnewireWorld σ}

/-- The bits that the loop of a write takes from the low end of the byte. -/
def lowBits : Nat → UInt8 → List Bool
  | 0, _ => []
  | left + 1, value => decide (value &&& 0x01 ≠ 0) :: lowBits left (value >>> 1)

/-- The byte that the loop of a read shifts its bits into. -/
def shiftInBits (value : UInt8) (bits : List Bool) : UInt8 :=
  bits.foldl (fun value bit => if bit then value >>> 1 ||| 0x80 else value >>> 1) value

theorem lowBits_testBit (n : Nat) : ∀ value : UInt8,
    lowBits n value = (List.range n).map value.toNat.testBit := by
  induction n with
  | zero => exact fun _ => rfl
  | succ n ih =>
    intro value
    have hlow : decide (value &&& 0x01 ≠ 0) = value.toNat.testBit 0 := by
      rw [Nat.testBit_zero, decide_eq_decide, ne_eq, ← UInt8.toNat_inj, UInt8.toNat_and]
      change ¬ value.toNat &&& 1 = 0 ↔ _
      rw [Nat.and_one_is_mod]
      omega
    have hshift : (value >>> 1).toNat.testBit = value.toNat.testBit ∘ Nat.succ := by
      funext i
      change (value.toNat >>> 1).testBit i = _
      rw [Nat.testBit_shiftRight, Nat.add_comm]
      rfl
    rw [lowBits, ih, List.range_succ_eq_map, List.map_cons, List.map_map, hlow, hshift]

theorem lowBits_eq (value : UInt8) : lowBits 8 value = bitsOf value :=
  lowBits_testBit 8 value

theorem shiftInBits_eq {bits : List Bool} (h : bits.length = 8) : shiftInBits 0 bits = ofBits bits := by
  have hall : ∀ v : List.Vector Bool 8, shiftInBits 0 v.toList = ofBits v.toList := by
    decide +kernel
  exact hall ⟨bits, h⟩

theorem recordSection_grows (hal : OnewireHal ε) (startUs : Int) (resetSection : Bool)
    {c : OnewireCtx} {s : OnewireState ε} (hctx : s.ctx = c) :
    Grows c (recordSection hal startUs resetSection s).ctx := by
  rw [← hctx, recordSection_ctx]
  exact recordTimingSection_grows _ _ _

theorem writeBit_grows (hal : OnewireHal ε) (value : UInt8) (s : OnewireState ε) :
    Grows s.ctx (writeBit hal value s).ctx := by
  unfold writeBit
  simp only
  apply recordSection_grows
  split <;> rfl

theorem bitIo_grows (hal : OnewireHal ε) (bitValue : UInt8) (s : OnewireState ε) :
    Grows s.ctx (bitIo hal bitValue s).2.ctx := by
  unfold bitIo
  simp only
  apply recordSection_grows
  split <;> rfl

theorem writeBits_grows (hal : OnewireHal ε) (left : Nat) :
    ∀ (value : UInt8) (s : OnewireState ε), Grows s.ctx (writeBits hal left value s).ctx := by
  induction left with
  | zero => exact fun _ s => .refl s.ctx
  | succ left ih => exact fun value s => (writeBit_grows hal value s).trans (ih _ _)

theorem readBits_grows (hal : OnewireHal ε) (left : Nat) :
    ∀ (value : UInt8) (s : OnewireState ε), Grows s.ctx (readBits hal left value s).2.ctx := by
  induction left with
  | zero => exact fun _ s => .refl s.ctx
  | succ left ih => exact fun value s => (bitIo_grows hal 1 s).trans (ih _ _)

theorem recordResetLowHold_grows (elapsed : UInt32) (c : OnewireCtx) :
    Grows c (recordResetLowHold elapsed c) := by
  unfold recordResetLowHold
  split
  · exact ⟨UInt32.le_refl _, UInt32.le_refl _, rfl⟩
  · exact .refl c

theorem resetPulse_grows (hal : OnewireHal ε) (s : OnewireState ε) :
    Grows s.ctx (resetPulse hal s).2.ctx := by
  unfold resetPulse
  exact (recordResetLowHold_grows _ s.ctx).trans (recordSection_grows hal _ _ rfl)

theorem writeBits_link (left : Nat) : ∀ (value : UInt8) (s : OnewireState (OnewireBus σ)),
    s.env.Ready → Certified w.device (writeBits w.hal left value s).ctx →
      (writeBits w.hal left value s).env.Ready ∧
        (writeBits w.hal left value s).env.line.state =
          (w.device.slots (lowBits left value) s.env.line.state).2 := by
  induction left with
  | zero => exact fun _ s h _ => ⟨h, rfl⟩
  | succ left ih =>
    intro value s h hcertified
    have hfirst := writeBit_link h (hcertified.earlier (writeBits_grows w.hal left _ _))
    obtain ⟨hready, hstate⟩ := ih (value >>> 1) _ hfirst.ready hcertified
    refine ⟨hready, hstate.trans ?_⟩
    rw [hfirst.state_eq]
    rfl

theorem readBits_link (left : Nat) : ∀ (value : UInt8) (s : OnewireState (OnewireBus σ)),
    s.env.Ready → Certified w.device (readBits w.hal left value s).2.ctx →
      (readBits w.hal left value s).1 = shiftInBits value
          (w.device.slots (List.replicate left true) s.env.line.state).1 ∧
        (readBits w.hal left value s).2.env.Ready ∧
        (readBits w.hal left value s).2.env.line.state =
          (w.device.slots (List.replicate left true) s.env.line.state).2 := by
  induction left with
  | zero => exact fun _ s h _ => ⟨rfl, h, rfl⟩
  | succ left ih =>
    intro value s h hcertified
    obtain ⟨hbit, hpassed⟩ := bitIo_link h (hcertified.earlier (readBits_grows w.hal left _ _))
    obtain ⟨hvalue, hready, hstate⟩ := ih
      (if (bitIo w.hal 1 s).1 ≠ 0 then value >>> 1 ||| 0x80 else value >>> 1) _ hpassed.ready hcertified
    rw [hpassed.state_eq] at hvalue hstate
    refine ⟨hvalue.trans ?_, hready, hstate⟩
    rw [List.replicate_succ, Device.slots_cons, hbit]
    cases (w.device.slot true s.env.line.state).1 <;> rfl

end Loops

/-- The adapter and the line stand between two operations, with the device in `state`. -/
structure Follows (w : OnewireWorld σ) (s : OnewireState (OnewireBus σ)) (state : σ) : Prop where
  ready : s.env.Ready
  valid : s.ctx.isValid = true
  free : s.ctx.busy = false
  state_eq : s.env.line.state = state

theorem operation_admitted {α ε : Type} (hal : OnewireHal ε) {s : OnewireState ε}
    (hvalid : s.ctx.isValid = true) (hfree : s.ctx.busy = false) (refused : α)
    (body : OnewireState ε → α × OnewireState ε) :
    operation hal refused body s =
      ((body (updateCtx beginOperation (act hal.suspendAll s))).1,
        act hal.resumeAll (updateCtx endOperation
          (body (updateCtx beginOperation (act hal.suspendAll s))).2)) := by
  unfold operation
  simp only
  rw [if_neg]
  rw [show (act hal.suspendAll s).ctx = s.ctx from rfl, hvalid, hfree]
  decide

/-- What an admitted operation leaves to be shown of its body. -/
theorem Follows.operation {α : Type} {w : OnewireWorld σ} {s : OnewireState (OnewireBus σ)}
    {state state' : σ} {refused value : α}
    {body : OnewireState (OnewireBus σ) → α × OnewireState (OnewireBus σ)} (h : Follows w s state)
    (hgrows : ∀ s, Grows s.ctx (body s).2.ctx)
    (hbody : ∀ s, s.env.Ready → s.env.line.state = state → Certified w.device (body s).2.ctx →
      (body s).1 = value ∧ (body s).2.env.Ready ∧ (body s).2.env.line.state = state')
    (hcertified : Certified w.device (operation w.hal refused body s).2.ctx) :
    (operation w.hal refused body s).1 = value ∧
      Follows w (operation w.hal refused body s).2 state' := by
  rw [operation_admitted w.hal h.valid h.free] at hcertified ⊢
  obtain ⟨hvalue, hready, hstate⟩ := hbody (updateCtx beginOperation (act w.hal.suspendAll s))
    (ready_wait h.ready 0) h.state_eq ⟨hcertified.reads, hcertified.writes, hcertified.resets⟩
  refine ⟨hvalue, ready_wait hready 0, ?_, rfl, hstate⟩
  have hvalid := (hgrows (updateCtx beginOperation (act w.hal.suspendAll s))).valid_eq
  exact hvalid.trans h.valid

theorem operation_grows {α ε : Type} (hal : OnewireHal ε) (refused : α)
    {body : OnewireState ε → α × OnewireState ε} (hgrows : ∀ s, Grows s.ctx (body s).2.ctx)
    (s : OnewireState ε) : Grows s.ctx (operation hal refused body s).2.ctx := by
  unfold operation
  simp only
  split
  · exact ⟨UInt32.le_refl _, UInt32.le_refl _, rfl⟩
  · obtain ⟨hbit, hreset, hvalid⟩ := hgrows (updateCtx beginOperation (act hal.suspendAll s))
    exact ⟨hbit, hreset, hvalid⟩

theorem reset_cases {ε : Type} (hal : OnewireHal ε) (s : OnewireState ε) :
    (reset hal s).2 = (operation hal none
        (fun s => (some (resetPulse hal s).1, (resetPulse hal s).2)) s).2 ∨
      (reset hal s).2 = updateCtx countBusError (operation hal none
        (fun s => (some (resetPulse hal s).1, (resetPulse hal s).2)) s).2 := by
  unfold reset
  simp only
  split
  · exact Or.inl rfl
  · split
    · exact Or.inr rfl
    · split <;> exact Or.inl rfl

theorem reset_certified {w : OnewireWorld σ} {s : OnewireState (OnewireBus σ)}
    (h : Certified w.device (reset w.hal s).2.ctx) :
    Certified w.device (operation w.hal none
      (fun s => (some (resetPulse w.hal s).1, (resetPulse w.hal s).2)) s).2.ctx := by
  rcases reset_cases w.hal s with heq | heq
  · rwa [heq] at h
  · rw [heq] at h
    exact ⟨h.reads, h.writes, h.resets⟩

variable {w : OnewireWorld σ} {s : OnewireState (OnewireBus σ)} {state : σ}

theorem reset_link (h : Follows w s state) (hcertified : Certified w.device (reset w.hal s).2.ctx) :
    (reset w.hal s).1 = .ok ∧ Follows w (reset w.hal s).2 (w.device.restart state) := by
  have hpulsed : ∀ t : OnewireState (OnewireBus σ), t.env.Ready → t.env.line.state = state →
      Certified w.device (resetPulse w.hal t).2.ctx →
        some (resetPulse w.hal t).1 = some (false, true) ∧ (resetPulse w.hal t).2.env.Ready ∧
          (resetPulse w.hal t).2.env.line.state = w.device.restart state := by
    intro t hready hstate hcertified
    obtain ⟨hlevels, hrestarted⟩ := resetPulse_link hready hcertified
    rw [hstate] at hrestarted
    exact ⟨congrArg some hlevels, hrestarted.ready, hrestarted.state_eq⟩
  obtain ⟨hlevels, hfollows⟩ : (operation w.hal none
        (fun s => (some (resetPulse w.hal s).1, (resetPulse w.hal s).2)) s).1 = some (false, true) ∧
      Follows w (operation w.hal none
        (fun s => (some (resetPulse w.hal s).1, (resetPulse w.hal s).2)) s).2
          (w.device.restart state) :=
    h.operation (fun t => resetPulse_grows w.hal t) hpulsed (reset_certified hcertified)
  unfold reset
  simp only
  rw [hlevels]
  exact ⟨rfl, hfollows⟩

theorem writeByte_link {value : UInt8} (h : Follows w s state)
    (hcertified : Certified w.device (writeByte w.hal value s).2.ctx) :
    (writeByte w.hal value s).1 = .ok ∧
      Follows w (writeByte w.hal value s).2 (w.device.slots (bitsOf value) state).2 := by
  apply h.operation (fun s => writeBits_grows w.hal 8 value s) _ hcertified
  intro s hready hstate hcertified
  obtain ⟨hready, hstate'⟩ := writeBits_link 8 value s hready hcertified
  rw [lowBits_eq, hstate] at hstate'
  exact ⟨rfl, hready, hstate'⟩

theorem readByte_link (h : Follows w s state)
    (hcertified : Certified w.device (readByte w.hal s).2.ctx) :
    (readByte w.hal s).1 = (.ok, ofBits (w.device.slots (List.replicate 8 true) state).1) ∧
      Follows w (readByte w.hal s).2 (w.device.slots (List.replicate 8 true) state).2 := by
  unfold readByte at hcertified ⊢
  refine h.operation (fun s => readBits_grows w.hal 8 0 s) ?_ hcertified
  intro s hready hstate hcertified
  obtain ⟨hvalue, hready, hstate'⟩ := readBits_link 8 0 s hready hcertified
  rw [hstate] at hvalue hstate'
  rw [shiftInBits_eq ((w.device.slots_length _ _).trans List.length_replicate)] at hvalue
  exact ⟨congrArg (Prod.mk _) hvalue, hready, hstate'⟩

theorem reset_earlier (h : Certified w.device (reset w.hal s).2.ctx) : Certified w.device s.ctx := by
  apply (reset_certified h).earlier
  apply operation_grows
  exact resetPulse_grows w.hal

theorem writeByte_earlier {value : UInt8} (h : Certified w.device (writeByte w.hal value s).2.ctx) :
    Certified w.device s.ctx := by
  apply h.earlier
  apply operation_grows
  exact writeBits_grows w.hal 8 value

theorem readByte_earlier (h : Certified w.device (readByte w.hal s).2.ctx) :
    Certified w.device s.ctx := by
  apply h.earlier
  apply operation_grows
  exact readBits_grows w.hal 8 0

/-- As long as its diagnostics vouch for it, the adapter on a line is the ideal link. -/
theorem port_refines (w : OnewireWorld σ) :
    (port w.hal).Refines (.ofDevice w.device) (Follows w) (fun s => Certified w.device s.ctx) where
  reset := ⟨fun _ _ => reset_link, fun _ => reset_earlier⟩
  writeByte _ := ⟨fun _ _ => writeByte_link, fun _ => writeByte_earlier⟩
  readByte := ⟨fun _ _ => readByte_link, fun _ => readByte_earlier⟩

/-- Whatever is asked of the port, in any order and however the calls of the SDK are held up: if the
largest sections that the adapter measured stay within the margins of the device, the answers are those
of the device, and so is the state that it is left in. -/
theorem transfers_agree (w : OnewireWorld σ) (requests : List OnewireRequest)
    (s : OnewireState (OnewireBus σ)) (state : σ) (h : Follows w s state)
    (hcertified : Certified w.device (transcript (port w.hal).serve requests s).2.ctx) :
    (transcript (port w.hal).serve requests s).1 =
        (transcript (OnewirePort.ofDevice w.device).serve requests state).1 ∧
      Follows w (transcript (port w.hal).serve requests s).2
        (transcript (OnewirePort.ofDevice w.device).serve requests state).2 :=
  (Agrees.transcript (port_refines w).serve requests).follow s state h hcertified

def echoDevice : Device (List Bool × List Bool) where
  sampleUs := 30
  holdUs := 30
  resetUs := 480
  presenceDelayUs := 30
  presenceUs := 120
  restart _ := ([], [])
  sends state := state.2.head?
  sent state := (state.1, state.2.tail)
  receives bit state := if state.1.length = 7 then ([], state.1 ++ [bit]) else (state.1 ++ [bit], [])
  sample_range := by decide
  hold_range := by decide
  reset_range := by decide
  delay_range := by decide
  presence_range := by decide

def idleState (state : σ) : OnewireState (OnewireBus σ) where
  ctx := { dataPin := 4, configured := true }
  env :=
    { line := { now := 0, lowSince := none, pullFrom := 0, pullUntil := 0, state := state }
      mode := .outputOd
      latch := true
      calls := 0 }

theorem idleState_follows (w : OnewireWorld σ) (state : σ) : Follows w (idleState state) state :=
  ⟨⟨⟨rfl, Nat.le_refl 0⟩, Or.inr rfl⟩, rfl, rfl, rfl⟩

/-- A byte and its echo, with every call of the SDK held up for a microsecond. -/
theorem transfers_agree_echo :
    let w : OnewireWorld (List Bool × List Bool) := ⟨echoDevice, fun _ => 1⟩
    let requests : List OnewireRequest := [.reset, .writeByte 0xA5, .readByte]
    (transcript (port w.hal).serve requests (idleState ([], []))).1 =
        (transcript (OnewirePort.ofDevice w.device).serve requests ([], [])).1 ∧
      Follows w (transcript (port w.hal).serve requests (idleState ([], []))).2
        (transcript (OnewirePort.ofDevice w.device).serve requests ([], [])).2 :=
  transfers_agree ⟨echoDevice, fun _ => 1⟩ [.reset, .writeByte 0xA5, .readByte] (idleState ([], []))
    ([], []) (idleState_follows _ _)
    ⟨by decide +kernel, by decide +kernel, by decide +kernel⟩

end OnewireLink

end EventFramework
