import EventFramework.Runtime.TimerService

/-!
# When timers fire

A run of a timer service against a true time that does not go back; the clock shows the
true time modulo `2 ^ 32`. The publications of a timer are those of its slot until the slot
is scheduled again.
-/

namespace EventFramework
set_option autoImplicit false

variable {P σ : Type}

/-- `publishDue` reads the clock `waitMs` after the call before it. -/
inductive TimerCall (P σ : Type) where
  | init
  | schedule (nowMs delayMs : UInt32) (targetActor : ActorId) (eventId : EventId) (arg0 : UInt32)
      (periodic : Bool)
  | cancel (token : TimerToken)
  | publishDue (waitMs : Nat) (publish : Option (TimerPort P σ)) (maxPublish : Nat)

inductive TimerEvent where
  | scheduled (slot : Nat)
  | published (slot time : Nat)
  deriving DecidableEq, Repr

structure TimerRun (σ : Type) where
  service : TimerService
  context : σ
  time : Nat

namespace TimerRun

def call (run : TimerRun σ) : TimerCall P σ → List TimerEvent × TimerRun σ
  | .init => ([], { run with service := TimerService.init })
  | .schedule nowMs delayMs targetActor eventId arg0 periodic =>
    match run.service.schedule nowMs delayMs targetActor eventId arg0 periodic with
    | .ok (token, service) => ([.scheduled token.slot.toNat], { run with service := service })
    | .error _ => ([], run)
  | .cancel token => ([], { run with service := (run.service.cancel token).2 })
  | .publishDue waitMs publish maxPublish =>
    let time := run.time + waitMs
    let out := run.service.publishDue (UInt32.ofNat time) (publish.map TimerPort.callback) run.context
      maxPublish
    (out.published.map fun index => .published index.val time,
      { service := out.service, context := out.context, time := time })

def events : List (TimerCall P σ) → TimerRun σ → List TimerEvent
  | [], _ => []
  | call :: calls, run => (run.call call).1 ++ events calls (run.call call).2

def publications (slot : Nat) : List TimerEvent → List Nat
  | [] => []
  | .scheduled other :: rest => if other = slot then [] else publications slot rest
  | .published other time :: rest =>
    if other = slot then time :: publications slot rest else publications slot rest

/-- The same when `fired` delays are over already. -/
def SpacedFrom (start delay fired : Nat) (times : List Nat) : Prop :=
  ∀ (k time : Nat), times[k]? = some time → start + (fired + k + 1) * delay ≤ time

theorem SpacedFrom.nil (start delay fired : Nat) : SpacedFrom start delay fired [] := by
  intro k time hk
  simp at hk

/-- At most `more` publications at a time by which that many further delays are over. -/
theorem SpacedFrom.append {start delay fired more count time : Nat} {times : List Nat}
    (hcount : count ≤ more) (hover : 0 < more → start + (fired + more) * delay ≤ time)
    (h : SpacedFrom start delay (fired + more) times) :
    SpacedFrom start delay fired (List.replicate count time ++ times) := by
  intro k other hk
  by_cases hnow : k < count
  · have htime : other = time := by
      rw [List.getElem?_append_left (by simpa using hnow)] at hk
      simp only [List.getElem?_replicate, hnow, if_true, Option.some.injEq] at hk
      exact hk.symm
    have hmul := Nat.mul_le_mul_right delay (show fired + k + 1 ≤ fired + more by omega)
    have := hover (by omega)
    omega
  · rw [List.getElem?_append_right (by simpa using hnow), List.length_replicate] at hk
    have hlater := h _ _ hk
    have hmul := Nat.mul_le_mul_right delay
      (show fired + k + 1 ≤ fired + more + (k - count) + 1 by omega)
    omega

/-- The timer of a slot: its message cannot be made, or `fired` of its deadlines are over. -/
def Armed (P : Type) (start delay fired time : Nat) (slot : TimerSlot) : Prop :=
  slot.active = true →
    (slot.message (P := P)).1 ≠ .ok ∨
    delay ≤ 2 ^ 31 ∧ slot.deadlineMs = UInt32.ofNat (start + (fired + 1) * delay) ∧
      slot.periodMs = UInt32.ofNat delay ∧ start + fired * delay ≤ time

variable {start delay fired time : Nat}

theorem Armed.kept {old new : TimerSlot} (h : Armed P start delay fired time old)
    (hkept : TimerSlot.Kept old new) : Armed P start delay fired time new := by
  rcases hkept with rfl | rfl
  · exact h
  · intro hactive
    cases hactive

theorem Armed.later {slot : TimerSlot} {time' : Nat} (h : Armed P start delay fired time slot)
    (hle : time ≤ time') : Armed P start delay fired time' slot := by
  intro hactive
  rcases h hactive with hmute | ⟨hdelay, hdeadline, hperiod, hover⟩
  · exact Or.inl hmute
  · exact Or.inr ⟨hdelay, hdeadline, hperiod, by omega⟩

def acceptAll : TimerPort P σ := fun _ context _ _ => (.ok, [], context)

end TimerRun

end EventFramework
