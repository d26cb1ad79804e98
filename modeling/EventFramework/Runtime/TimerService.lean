import EventFramework.Core.Msg
import EventFramework.Library.WrapClock
import Mathlib.Data.Fintype.BigOperators
import Mathlib.Data.List.FinRange

/-!
# The timer service

`ev_timer_service.c`: one-shot and periodic timers in a fixed number of slots, published
through a callback when they are due.
-/

namespace EventFramework
set_option autoImplicit false

variable {P σ : Type}

/-- `EV_TIMER_SERVICE_CAPACITY`. -/
def timerServiceCapacity : Nat := 16

abbrev TimerIndex := Fin timerServiceCapacity

structure TimerToken where
  slot : UInt16
  generation : UInt16
  deriving DecidableEq, Repr

/-- No timer is scheduled with a zero delay. -/
structure TimerSlot where
  active : Bool := false
  periodic : Bool := false
  generation : UInt16 := 0
  deadlineMs : UInt32 := 0
  periodMs : UInt32 := 0
  targetActor : ActorId := .boot
  eventId : EventId := .bootStarted
  arg0 : UInt32 := 0
  period_pos : active = true → periodMs ≠ 0 := by decide

namespace TimerSlot

def blank : TimerSlot := {}

def cancelled (slot : TimerSlot) : TimerSlot :=
  { slot with active := false, period_pos := by simp }

def advanced (slot : TimerSlot) : TimerSlot :=
  if slot.periodic then { slot with deadlineMs := slot.deadlineMs + slot.periodMs }
  else slot.cancelled

/-- `generation` wraps past zero. -/
def nextGeneration (slot : TimerSlot) : UInt16 :=
  if slot.generation + 1 = 0 then 1 else slot.generation + 1

/-- A `uint32_t` in memory. -/
def argBytes (arg0 : UInt32) : List UInt8 :=
  [arg0.toUInt8, (arg0 >>> 8).toUInt8, (arg0 >>> 16).toUInt8, (arg0 >>> 24).toUInt8]

/-- A message just initialised has no payload that a callback could release. -/
def noCallbacks : Callbacks P Unit where
  retain := fun _ _ _ _ w => (.ok, w)
  release := fun _ _ _ _ w => w

/-- The message of a timer: the result is that of `ev_msg_init_send`, that of the payload is
ignored. -/
def message (slot : TimerSlot) : Result × Msg P :=
  let sent := (Msg.zeroed (P := P)).initSend slot.eventId .runtime slot.targetActor
  (sent.1, if sent.1 = .ok then
      (sent.2.setInlinePayload noCallbacks (some (argBytes slot.arg0)) 4 ()).2.1
    else sent.2)

end TimerSlot

structure TimerService where
  slots : TimerIndex → TimerSlot
  scheduled : UInt32
  cancelled : UInt32
  published : UInt32

/-- A call of the service that a publish callback makes. -/
inductive TimerOp where
  | init
  | schedule (nowMs delayMs : UInt32) (targetActor : ActorId) (eventId : EventId) (arg0 : UInt32)
      (periodic : Bool)
  | cancel (token : TimerToken)

/-- `ev_timer_publish_fn_t`: its result, the calls of the service that it makes through its
context, and its new context. It does not enter `ev_timer_publish_due` again. -/
abbrev TimerCallback (P σ : Type) := TimerService → σ → ActorId → Msg P → Result × List TimerOp × σ

/-- A callback that may cancel timers and schedules none, as those of the repository. -/
abbrev TimerPort (P σ : Type) := TimerService → σ → ActorId → Msg P → Result × List TimerToken × σ

def TimerPort.callback (port : TimerPort P σ) : TimerCallback P σ := fun svc context target msg =>
  let out := port svc context target msg
  (out.1, out.2.1.map .cancel, out.2.2)

namespace TimerService

def init : TimerService where
  slots := fun _ => {}
  scheduled := 0
  cancelled := 0
  published := 0

/-- `ev_timer_is_due`. -/
def isDue (nowMs deadlineMs : UInt32) : Bool := decide (0 ≤ (nowMs - deadlineMs).toInt32)

def setSlot (svc : TimerService) (index : TimerIndex) (slot : TimerSlot) : TimerService :=
  { svc with slots := Function.update svc.slots index slot }

def freeIndex (svc : TimerService) : Option TimerIndex :=
  (List.finRange timerServiceCapacity).find? fun index => !(svc.slots index).active

/-- `ev_timer_schedule`: the token and the service, or a refusal that changes nothing. -/
def schedule (svc : TimerService) (nowMs delayMs : UInt32) (targetActor : ActorId)
    (eventId : EventId) (arg0 : UInt32) (periodic : Bool) :
    Except Result (TimerToken × TimerService) :=
  if hdelay : delayMs = 0 then .error .errInvalidArg
  else match svc.freeIndex with
    | none => .error .errFull
    | some index =>
      let slot : TimerSlot :=
        { active := true
          periodic := periodic
          generation := (svc.slots index).nextGeneration
          deadlineMs := nowMs + delayMs
          periodMs := delayMs
          targetActor := targetActor
          eventId := eventId
          arg0 := arg0
          period_pos := fun _ => hdelay }
      .ok (⟨UInt16.ofNat index, slot.generation⟩,
        { svc.setSlot index slot with scheduled := svc.scheduled + 1 })

def scheduleOneshot (svc : TimerService) (nowMs delayMs : UInt32) (targetActor : ActorId)
    (eventId : EventId) (arg0 : UInt32) : Except Result (TimerToken × TimerService) :=
  svc.schedule nowMs delayMs targetActor eventId arg0 false

def schedulePeriodic (svc : TimerService) (nowMs periodMs : UInt32) (targetActor : ActorId)
    (eventId : EventId) (arg0 : UInt32) : Except Result (TimerToken × TimerService) :=
  svc.schedule nowMs periodMs targetActor eventId arg0 true

def tokenIndex (svc : TimerService) (token : TimerToken) : Option TimerIndex :=
  if h : token.slot.toNat < timerServiceCapacity then
    let index : TimerIndex := ⟨token.slot.toNat, h⟩
    if (svc.slots index).active ∧ (svc.slots index).generation = token.generation then some index
    else none
  else none

def cancel (svc : TimerService) (token : TimerToken) : Result × TimerService :=
  match svc.tokenIndex token with
  | none => (.errNotFound, svc)
  | some index =>
    (.ok, { svc.setSlot index (svc.slots index).cancelled with cancelled := svc.cancelled + 1 })

def apply (svc : TimerService) : TimerOp → TimerService
  | .init => init
  | .schedule nowMs delayMs targetActor eventId arg0 periodic =>
    match svc.schedule nowMs delayMs targetActor eventId arg0 periodic with
    | .ok (_, svc') => svc'
    | .error _ => svc
  | .cancel token => (svc.cancel token).2

/-- One iteration of `ev_timer_next_deadline_ms`. -/
def nearer (svc : TimerService) (best : Option UInt32) (index : TimerIndex) : Option UInt32 :=
  let slot := svc.slots index
  if slot.active then
    match best with
    | none => some slot.deadlineMs
    | some found => if (slot.deadlineMs - found).toInt32 < 0 then some slot.deadlineMs else best
  else best

/-- `ev_timer_next_deadline_ms`; there is none without an active timer. -/
def nextDeadlineMs (svc : TimerService) : Option UInt32 :=
  (List.finRange timerServiceCapacity).foldl svc.nearer none

/-- The variables of `ev_timer_publish_due` that its loop changes. The source counts the
publications, the model lists their slots. -/
structure Publishing (σ : Type) where
  service : TimerService
  context : σ
  published : List TimerIndex := []

namespace Publishing

def deliver (publish : TimerCallback P σ) (index : TimerIndex) (s : Publishing σ) : Publishing σ :=
  let slot := s.service.slots index
  if (slot.message (P := P)).1 = .ok then
    let out := publish s.service s.context slot.targetActor slot.message.2
    let service := out.2.1.foldl apply s.service
    if out.1 = .ok then
      { service := { service with published := service.published + 1 }
        context := out.2.2
        published := s.published ++ [index] }
    else { s with service := service, context := out.2.2 }
  else s

def advance (index : TimerIndex) (s : Publishing σ) : Publishing σ :=
  { s with service := s.service.setSlot index (s.service.slots index).advanced }

def visit (publish : TimerCallback P σ) (nowMs : UInt32) (index : TimerIndex) (s : Publishing σ) :
    Publishing σ :=
  if (s.service.slots index).active && isDue nowMs (s.service.slots index).deadlineMs then
    (s.deliver publish index).advance index
  else s

def visitAll (publish : TimerCallback P σ) (nowMs : UInt32) (maxPublish : Nat) :
    List TimerIndex → Publishing σ → Publishing σ
  | [], s => s
  | index :: rest, s =>
    if s.published.length < maxPublish then
      visitAll publish nowMs maxPublish rest (s.visit publish nowMs index)
    else s

end Publishing

/-- `ev_timer_publish_due`; its value is the number of slots published. -/
def publishDue (svc : TimerService) (nowMs : UInt32) (publish : Option (TimerCallback P σ))
    (context : σ) (maxPublish : Nat) : Publishing σ :=
  match publish with
  | none => { service := svc, context := context }
  | some publish =>
    Publishing.visitAll publish nowMs maxPublish (List.finRange timerServiceCapacity)
      { service := svc, context := context }

theorem isDue_iff (nowMs deadlineMs : UInt32) :
    isDue nowMs deadlineMs = true ↔ (nowMs - deadlineMs).toNat < 2 ^ 31 := by
  rw [isDue, decide_eq_true_eq]
  exact WrapClock.toInt32_nonneg_iff _

/-- Of two deadlines that are not due, the signed test finds the closer one. -/
theorem ahead_compare {nowMs a b : UInt32} (ha : isDue nowMs a = false) (hb : isDue nowMs b = false) :
    (b - a).toInt32 < 0 ↔ (b - nowMs).toNat < (a - nowMs).toNat := by
  have hnot : ∀ d, isDue nowMs d = false → 2 ^ 31 ≤ (nowMs - d).toNat := by
    intro d hd
    have hdue := isDue_iff nowMs d
    rw [hd] at hdue
    simpa using hdue
  have hna := hnot a ha
  have hnb := hnot b hb
  have hint : (b - a).toInt32.toInt = (b - a).toBitVec.toInt := rfl
  have hnow := nowMs.toNat_lt
  have hla := a.toNat_lt
  have hlb := b.toNat_lt
  rw [Int32.lt_iff_toInt_lt, hint, BitVec.toInt_eq_toNat_cond]
  simp only [UInt32.toNat_toBitVec, Int32.toInt_zero, UInt32.toNat_sub] at hna hnb ⊢
  split <;> omega

theorem nearer_mem (svc : TimerService) (best : Option UInt32) (index : TimerIndex) :
    svc.nearer best index = best ∨ (svc.slots index).active = true ∧
      svc.nearer best index = some (svc.slots index).deadlineMs := by
  unfold nearer
  simp only
  split
  · rename_i hactive
    split
    · exact Or.inr ⟨hactive, rfl⟩
    · split
      · exact Or.inr ⟨hactive, rfl⟩
      · exact Or.inl rfl
  · exact Or.inl rfl

theorem nextDeadlineMs_mem {svc : TimerService} {next : UInt32} (h : svc.nextDeadlineMs = some next) :
    ∃ index, (svc.slots index).active = true ∧ (svc.slots index).deadlineMs = next := by
  have hfold : ∀ (indices : List TimerIndex) (best : Option UInt32),
      indices.foldl svc.nearer best = some next →
      best = some next ∨ ∃ index, (svc.slots index).active = true ∧
        (svc.slots index).deadlineMs = next := by
    intro indices
    induction indices with
    | nil => exact fun best hbest => Or.inl hbest
    | cons index indices ih =>
      intro best hbest
      rcases ih _ hbest with hstep | hfound
      · rcases svc.nearer_mem best index with hsame | ⟨hactive, hnew⟩
        · exact Or.inl (hsame ▸ hstep)
        · exact Or.inr ⟨index, hactive, Option.some.inj (hnew ▸ hstep)⟩
      · exact Or.inr hfound
  rcases hfold _ _ h with hnone | hfound
  · cases hnone
  · exact hfound

theorem nearer_inactive {svc : TimerService} {index : TimerIndex}
    (h : (svc.slots index).active = false) (best : Option UInt32) : svc.nearer best index = best := by
  simp only [nearer, h, Bool.false_eq_true, ↓reduceIte]

theorem nearer_first {svc : TimerService} {index : TimerIndex}
    (h : (svc.slots index).active = true) :
    svc.nearer none index = some (svc.slots index).deadlineMs := by
  simp only [nearer, h, ↓reduceIte]

theorem nearer_active {svc : TimerService} {index : TimerIndex}
    (h : (svc.slots index).active = true) (found : UInt32) :
    svc.nearer (some found) index =
      if ((svc.slots index).deadlineMs - found).toInt32 < 0 then some (svc.slots index).deadlineMs
      else some found := by
  simp only [nearer, h, ↓reduceIte]

/-- The best deadline so far lies ahead of the clock, by no more than `bound`. -/
def AheadBy (nowMs : UInt32) (bound : Nat) (best : Option UInt32) : Prop :=
  ∃ found, best = some found ∧ isDue nowMs found = false ∧ (found - nowMs).toNat ≤ bound

theorem AheadBy.nearer {svc : TimerService} {nowMs : UInt32} {bound : Nat} {best : Option UInt32}
    {index : TimerIndex} (hfuture : (svc.slots index).active = true →
      isDue nowMs (svc.slots index).deadlineMs = false)
    (h : AheadBy nowMs bound best) : AheadBy nowMs bound (svc.nearer best index) := by
  obtain ⟨found, rfl, hahead, hle⟩ := h
  by_cases hactive : (svc.slots index).active = true
  · rw [nearer_active hactive]
    split
    · rename_i hneg
      refine ⟨_, rfl, hfuture hactive, ?_⟩
      exact ((ahead_compare hahead (hfuture hactive)).mp hneg).le.trans hle
    · exact ⟨_, rfl, hahead, hle⟩
  · rw [nearer_inactive (by simpa using hactive)]
    exact ⟨_, rfl, hahead, hle⟩

theorem aheadBy_nearer {svc : TimerService} {nowMs : UInt32} {best : Option UInt32}
    {index : TimerIndex} (hactive : (svc.slots index).active = true)
    (hdue : isDue nowMs (svc.slots index).deadlineMs = false)
    (hbest : ∀ found, best = some found → isDue nowMs found = false) :
    AheadBy nowMs ((svc.slots index).deadlineMs - nowMs).toNat (svc.nearer best index) := by
  cases best with
  | none =>
    rw [nearer_first hactive]
    exact ⟨_, rfl, hdue, le_refl _⟩
  | some found =>
    rw [nearer_active hactive]
    split
    · exact ⟨_, rfl, hdue, le_refl _⟩
    · rename_i hge
      refine ⟨_, rfl, hbest found rfl, Nat.not_lt.mp fun hlt => hge ?_⟩
      exact (ahead_compare (hbest found rfl) hdue).mpr hlt

/-- While no active timer is due, the deadlines lie in half a turn of the clock and the loop
keeps the one closest ahead. -/
theorem nextDeadlineMs_le {svc : TimerService} {nowMs : UInt32}
    (hfuture : ∀ index, (svc.slots index).active = true →
      isDue nowMs (svc.slots index).deadlineMs = false) {index : TimerIndex}
    (hactive : (svc.slots index).active = true) :
    AheadBy nowMs ((svc.slots index).deadlineMs - nowMs).toNat svc.nextDeadlineMs := by
  have hafter : ∀ (indices : List TimerIndex) (best : Option UInt32),
      AheadBy nowMs ((svc.slots index).deadlineMs - nowMs).toNat best →
      AheadBy nowMs ((svc.slots index).deadlineMs - nowMs).toNat
        (indices.foldl svc.nearer best) := by
    intro indices
    induction indices with
    | nil => exact fun best h => h
    | cons other indices ih => exact fun best h => ih _ (h.nearer (hfuture other))
  have hreach : ∀ (indices : List TimerIndex) (best : Option UInt32), index ∈ indices →
      (∀ found, best = some found → isDue nowMs found = false) →
      AheadBy nowMs ((svc.slots index).deadlineMs - nowMs).toNat
        (indices.foldl svc.nearer best) := by
    intro indices
    induction indices with
    | nil =>
      intro best hmem _
      cases hmem
    | cons other indices ih =>
      intro best hmem hbest
      rcases List.mem_cons.mp hmem with rfl | hrest
      · exact hafter indices _ (aheadBy_nearer hactive (hfuture _ hactive) hbest)
      · refine ih _ hrest fun found hfound => ?_
        rcases svc.nearer_mem best other with hsame | ⟨hon, hnew⟩
        · exact hbest found (hsame ▸ hfound)
        · rw [hnew] at hfound
          exact Option.some.inj hfound ▸ hfuture other hon
  exact hreach _ none (List.mem_finRange index) fun found hfound => by cases hfound

end TimerService

namespace TimerSlot

def Kept (old new : TimerSlot) : Prop := new = old ∨ new = old.cancelled

theorem Kept.refl (slot : TimerSlot) : Kept slot slot := Or.inl rfl

theorem Kept.trans {a b c : TimerSlot} (hab : Kept a b) (hbc : Kept b c) : Kept a c := by
  rcases hab with rfl | rfl
  · exact hbc
  · rcases hbc with rfl | rfl
    · exact Or.inr rfl
    · exact Or.inr rfl

theorem Kept.advanced {old new : TimerSlot} (h : Kept old new) : Kept old.advanced new.advanced := by
  rcases h with rfl | rfl
  · exact Kept.refl _
  · right
    by_cases hperiodic : old.periodic = true
    · simp [TimerSlot.advanced, cancelled, hperiodic]
    · simp [TimerSlot.advanced, cancelled, hperiodic]

end TimerSlot

namespace TimerService

theorem setSlot_self (svc : TimerService) (index : TimerIndex) (slot : TimerSlot) :
    (svc.setSlot index slot).slots index = slot := Function.update_self ..

theorem setSlot_of_ne (svc : TimerService) {index other : TimerIndex} (slot : TimerSlot)
    (hne : other ≠ index) : (svc.setSlot index slot).slots other = svc.slots other :=
  Function.update_of_ne hne ..

theorem cancel_kept (svc : TimerService) (token : TimerToken) (index : TimerIndex) :
    TimerSlot.Kept (svc.slots index) ((svc.cancel token).2.slots index) := by
  unfold cancel
  split
  · exact .refl _
  · rename_i found _
    by_cases he : index = found
    · subst he
      exact Or.inr (setSlot_self ..)
    · exact Or.inl (setSlot_of_ne _ _ he)

theorem cancelAll_kept (tokens : List TimerToken) (index : TimerIndex) : ∀ svc : TimerService,
    TimerSlot.Kept (svc.slots index)
      ((tokens.foldl (fun svc token => (svc.cancel token).2) svc).slots index) := by
  induction tokens with
  | nil => exact fun svc => .refl _
  | cons token tokens ih => exact fun svc => (cancel_kept svc token index).trans (ih _)

/-- An accepted timer: its token names the slot that holds it, and no other slot changes. -/
theorem schedule_ok {svc svc' : TimerService} {nowMs delayMs : UInt32} {targetActor : ActorId}
    {eventId : EventId} {arg0 : UInt32} {periodic : Bool} {token : TimerToken}
    (h : svc.schedule nowMs delayMs targetActor eventId arg0 periodic = .ok (token, svc')) :
    ∃ index slot, token.slot.toNat = index.val ∧ svc'.slots = Function.update svc.slots index slot ∧
      slot.active = true ∧ slot.periodic = periodic ∧ slot.deadlineMs = nowMs + delayMs ∧
      slot.periodMs = delayMs ∧ slot.targetActor = targetActor ∧ slot.eventId = eventId := by
  unfold schedule at h
  split at h
  · cases h
  · split at h
    · cases h
    · rename_i index _
      cases h
      refine ⟨index, _, ?_, rfl, rfl, rfl, rfl, rfl, rfl, rfl⟩
      have hlt : index.val < 16 := index.isLt
      rw [UInt16.toNat_ofNat']
      omega

namespace Publishing

/-- A port's callback cancels its tokens. -/
theorem deliver_callback (port : TimerPort P σ) (index : TimerIndex) (s : Publishing σ) :
    s.deliver port.callback index =
      let slot := s.service.slots index
      if (slot.message (P := P)).1 = .ok then
        let out := port s.service s.context slot.targetActor slot.message.2
        let service := out.2.1.foldl (fun svc token => (svc.cancel token).2) s.service
        if out.1 = .ok then
          { service := { service with published := service.published + 1 }
            context := out.2.2
            published := s.published ++ [index] }
        else { s with service := service, context := out.2.2 }
      else s := by
  unfold deliver TimerPort.callback
  simp only [List.foldl_map]
  rfl

theorem deliver_kept (port : TimerPort P σ) (index other : TimerIndex) (s : Publishing σ) :
    TimerSlot.Kept (s.service.slots other) ((s.deliver port.callback index).service.slots other) := by
  rw [deliver_callback]
  simp only
  split
  · split
    · exact cancelAll_kept _ other s.service
    · exact cancelAll_kept _ other s.service
  · exact .refl _

theorem deliver_published (publish : TimerCallback P σ) (index : TimerIndex) (s : Publishing σ) :
    (s.deliver publish index).published = s.published ∨
      ((s.service.slots index).message (P := P)).1 = .ok ∧
        (s.deliver publish index).published = s.published ++ [index] := by
  unfold deliver
  simp only
  split
  · rename_i hmessage
    split
    · exact Or.inr ⟨hmessage, rfl⟩
    · exact Or.inl rfl
  · exact Or.inl rfl

/-- What a slot sees of a visit. -/
structure Visited (P : Type) (nowMs : UInt32) (index : TimerIndex) (s t : Publishing σ) : Prop where
  active : (s.service.slots index).active = true
  due : isDue nowMs (s.service.slots index).deadlineMs = true
  self : TimerSlot.Kept (s.service.slots index).advanced (t.service.slots index)
  others : ∀ other, other ≠ index →
    TimerSlot.Kept (s.service.slots other) (t.service.slots other)
  published : t.published = s.published ∨
    ((s.service.slots index).message (P := P)).1 = .ok ∧ t.published = s.published ++ [index]

theorem visit_cases (port : TimerPort P σ) (nowMs : UInt32) (index : TimerIndex)
    (s : Publishing σ) :
    (s.visit port.callback nowMs index = s ∧ ¬((s.service.slots index).active = true ∧
      isDue nowMs (s.service.slots index).deadlineMs = true)) ∨
    Visited P nowMs index s (s.visit port.callback nowMs index) := by
  by_cases hdue : (s.service.slots index).active = true ∧
      isDue nowMs (s.service.slots index).deadlineMs = true
  · have hvisit : s.visit port.callback nowMs index = (s.deliver port.callback index).advance index := by
      simp [visit, hdue]
    rw [hvisit]
    refine Or.inr ⟨hdue.1, hdue.2, ?_, ?_, deliver_published port.callback index s⟩
    · have hself : ((s.deliver port.callback index).advance index).service.slots index =
          ((s.deliver port.callback index).service.slots index).advanced := setSlot_self ..
      rw [hself]
      exact (deliver_kept port index index s).advanced
    · intro other hne
      have hother : ((s.deliver port.callback index).advance index).service.slots other =
          (s.deliver port.callback index).service.slots other := setSlot_of_ne _ _ hne
      rw [hother]
      exact deliver_kept port index other s
  · refine Or.inl ⟨?_, hdue⟩
    unfold visit
    rw [if_neg]
    simpa using hdue

theorem visit_published (publish : TimerCallback P σ) (nowMs : UInt32) (index : TimerIndex)
    (s : Publishing σ) :
    (s.visit publish nowMs index).published = s.published ∨
      (s.visit publish nowMs index).published = s.published ++ [index] := by
  unfold visit
  split
  · exact (deliver_published publish index s).imp_right And.right
  · exact Or.inl rfl

theorem visitAll_published (publish : TimerCallback P σ) (nowMs : UInt32) (maxPublish : Nat)
    (indices : List TimerIndex) : ∀ s : Publishing σ,
      s.published ⊆ (visitAll publish nowMs maxPublish indices s).published := by
  induction indices with
  | nil => exact fun s => List.Subset.refl _
  | cons index indices ih =>
    intro s
    rw [visitAll]
    split
    · refine List.Subset.trans ?_ (ih _)
      rcases visit_published publish nowMs index s with hnone | hone
      · rw [hnone]
        exact List.Subset.refl _
      · rw [hone]
        exact List.subset_append_left ..
    · exact List.Subset.refl _

end Publishing

end TimerService

end EventFramework
