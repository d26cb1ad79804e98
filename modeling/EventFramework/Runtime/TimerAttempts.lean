import EventFramework.Library.Machine
import EventFramework.Runtime.TimerDeadlines

/-!
# What a timer service attempts

Every schedule, cancel and attempt of a run, in order. A slot by itself is a machine that reads
this log, so what it attempts can be read off the log alone.
-/

namespace EventFramework
set_option autoImplicit false

variable {P σ : Type}

/-- The arguments of an accepted schedule. -/
structure TimerOrder where
  nowMs : UInt32
  delayMs : UInt32
  targetActor : ActorId
  eventId : EventId
  arg0 : UInt32
  periodic : Bool
  delay_pos : delayMs ≠ 0

/-- `call` is what the publish callback is called with, `none` when the message cannot be made. -/
inductive TimerNote (P : Type) where
  | initialised
  | scheduled (token : TimerToken) (order : TimerOrder)
  | cancelled (token : TimerToken)
  | attempted (slot : Nat) (call : Option (ActorId × Msg P))

namespace TimerOrder

def slot (order : TimerOrder) (generation : UInt16) : TimerSlot where
  active := true
  periodic := order.periodic
  generation := generation
  deadlineMs := order.nowMs + order.delayMs
  periodMs := order.delayMs
  targetActor := order.targetActor
  eventId := order.eventId
  arg0 := order.arg0
  period_pos := fun _ => order.delay_pos

def deliverable (order : TimerOrder) : Prop :=
  order.eventId.isValid = true ∧ order.targetActor.isValid = true

/-- The catalog lets the event have the inline payload that carries the argument. -/
def admitsArg (order : TimerOrder) : Prop :=
  ∃ info, eventMeta order.eventId = some info ∧ Msg.allowsInline info.payloadKind = true

/-- What the callback is given for the timer. -/
structure Carries (order : TimerOrder) (sent : ActorId × Msg P) : Prop where
  target : sent.1 = order.targetActor ∧ sent.2.targetActor = order.targetActor
  source : sent.2.sourceActor = .runtime
  event : sent.2.eventId = order.eventId
  arg : order.admitsArg → sent.2.inlineBytes = TimerSlot.argBytes order.arg0 ∧ sent.2.payloadSize = 4
  plain : ¬order.admitsArg → sent.2.payloadSize = 0

end TimerOrder

namespace TimerSlot

def call (slot : TimerSlot) : Option (ActorId × Msg P) :=
  if (slot.message (P := P)).1 = .ok then some (slot.targetActor, slot.message.2) else none

def cancelledBy (index : Nat) (token : TimerToken) (slot : TimerSlot) : TimerSlot :=
  if token.slot.toNat = index ∧ token.generation = slot.generation then slot.cancelled else slot

/-- The slot of an index as a machine over the log. -/
def noted (index : Nat) (slot : TimerSlot) : TimerNote P → TimerSlot
  | .initialised => blank
  | .scheduled token order => if token.slot.toNat = index then order.slot token.generation else slot
  | .cancelled token => slot.cancelledBy index token
  | .attempted other _ => if other = index then slot.advanced else slot

/-- The slot is that of the timer, whatever became of its deadline. -/
structure Of (order : TimerOrder) (token : TimerToken) (slot : TimerSlot) : Prop where
  periodic : slot.periodic = order.periodic
  generation : slot.generation = token.generation
  period : slot.periodMs = order.delayMs
  target : slot.targetActor = order.targetActor
  event : slot.eventId = order.eventId
  arg : slot.arg0 = order.arg0

/-- The callback is called with what the timer carries, for every timer that the catalogs know. -/
theorem Of.call_carries {order : TimerOrder} {token : TimerToken} {slot : TimerSlot}
    (h : Of order token slot) :
    (order.deliverable ↔ (slot.call (P := P)).isSome = true) ∧
      ∀ sent, slot.call (P := P) = some sent → order.Carries sent := by
  by_cases hvalid : order.deliverable
  · have hstart : (Msg.zeroed (P := P)).initSend slot.eventId .runtime slot.targetActor =
        (.ok, { Msg.blank with
          eventId := order.eventId, sourceActor := .runtime, targetActor := order.targetActor }) := by
      have htarget : order.targetActor ≠ .none := by
        intro hnone
        have hactor := hvalid.2
        rw [hnone] at hactor
        cases hactor
      rw [h.event, h.target, Msg.initSend, hvalid.1, hvalid.2, beq_eq_false_iff_ne.mpr htarget]
      rfl
    have hcall : slot.call (P := P) = some (order.targetActor, slot.message.2) := by
      rw [call, message, hstart, ← h.target]
      rfl
    refine ⟨⟨fun _ => by rw [hcall]; rfl, fun _ => hvalid⟩, ?_⟩
    intro sent hsent
    rw [hcall] at hsent
    obtain rfl := Option.some.inj hsent
    have hmessage : (slot.message (P := P)).2 = ((({ Msg.blank with
          eventId := order.eventId, sourceActor := .runtime,
          targetActor := order.targetActor } : Msg P)).setInlinePayload noCallbacks
            (some (argBytes order.arg0)) 4 ()).2.1 := by
      rw [message, hstart, if_pos rfl, h.arg]
    obtain ⟨info, hinfo⟩ := Option.isSome_iff_exists.mp hvalid.1
    by_cases hinline : Msg.allowsInline info.payloadKind = true
    · have hfilled : (slot.message (P := P)).2 = { Msg.blank with
          eventId := order.eventId, sourceActor := .runtime, targetActor := order.targetActor
          inlineBytes := argBytes order.arg0, storage := .inline, payloadSize := 4 } := by
        rw [hmessage]
        simp [Msg.setInlinePayload, Msg.blank, Msg.hasCookie, Msg.isDisposed, hinfo, hinline,
          Msg.releaseAttachedPayload, Msg.clearPayload, msgInlineCapacity, argBytes]
      rw [hfilled]
      exact ⟨⟨rfl, rfl⟩, rfl, rfl, fun _ => ⟨rfl, rfl⟩, fun hplain => absurd ⟨info, hinfo, hinline⟩ hplain⟩
    · have hplain : (slot.message (P := P)).2 = { Msg.blank with
          eventId := order.eventId, sourceActor := .runtime, targetActor := order.targetActor } := by
        rw [hmessage]
        simp [Msg.setInlinePayload, Msg.blank, Msg.hasCookie, Msg.isDisposed, hinfo, hinline,
          msgInlineCapacity]
      rw [hplain]
      refine ⟨⟨rfl, rfl⟩, rfl, rfl, ?_, fun _ => rfl⟩
      rintro ⟨info', hinfo', hadmits⟩
      rw [hinfo] at hinfo'
      obtain rfl := Option.some.inj hinfo'
      exact absurd hadmits hinline
  · have hrefused : ((Msg.zeroed (P := P)).initSend slot.eventId .runtime slot.targetActor).1 ≠ .ok := by
      rw [h.event, h.target, Msg.initSend]
      split
      · exact fun hok => by cases hok
      · rename_i hall
        simp only [Bool.or_eq_true, Bool.not_eq_true', not_or, Bool.not_eq_false] at hall
        exact absurd ⟨hall.1.1.2, hall.2⟩ hvalid
    have hcall : slot.call (P := P) = none := by
      rw [call, if_neg]
      exact hrefused
    rw [hcall]
    exact ⟨⟨fun h => absurd h hvalid, fun h => by cases h⟩, fun sent hsent => by cases hsent⟩

theorem cancelled_of_inactive {slot : TimerSlot} (h : slot.active = false) : slot.cancelled = slot := by
  cases slot
  cases h
  rfl

theorem advanced_generation (slot : TimerSlot) : slot.advanced.generation = slot.generation := by
  unfold advanced
  split <;> rfl

theorem cancelled_advanced (slot : TimerSlot) : slot.cancelled.advanced = slot.advanced.cancelled := by
  by_cases hperiodic : slot.periodic = true
  · simp [TimerSlot.advanced, cancelled, hperiodic]
  · simp [TimerSlot.advanced, cancelled, hperiodic]

theorem cancelledBy_advanced (index : Nat) (token : TimerToken) (slot : TimerSlot) :
    (slot.cancelledBy index token).advanced = slot.advanced.cancelledBy index token := by
  unfold cancelledBy
  rw [advanced_generation]
  split
  · exact cancelled_advanced slot
  · rfl

end TimerSlot

namespace TimerService

theorem cancel_slots (svc : TimerService) (token : TimerToken) (index : TimerIndex) :
    (svc.cancel token).2.slots index = (svc.slots index).cancelledBy index token := by
  unfold cancel tokenIndex TimerSlot.cancelledBy
  by_cases hslot : token.slot.toNat < timerServiceCapacity
  · rw [dif_pos hslot]
    by_cases hindex : token.slot.toNat = index
    · simp only [hindex, true_and]
      by_cases hgeneration : token.generation = (svc.slots index).generation
      · by_cases hactive : (svc.slots index).active = true
        · rw [if_pos ⟨hactive, hgeneration.symm⟩, if_pos hgeneration]
          exact setSlot_self ..
        · rw [if_neg fun h => hactive h.1, if_pos hgeneration]
          exact (TimerSlot.cancelled_of_inactive (Bool.eq_false_iff.mpr hactive)).symm
      · rw [if_neg fun h => hgeneration h.2.symm, if_neg hgeneration]
    · have hother : ¬(token.slot.toNat = index ∧ token.generation = (svc.slots index).generation) :=
        fun h => hindex h.1
      rw [if_neg hother]
      simp only
      by_cases hvalid : (svc.slots ⟨token.slot.toNat, hslot⟩).active = true ∧
          (svc.slots ⟨token.slot.toNat, hslot⟩).generation = token.generation
      · rw [if_pos hvalid]
        exact setSlot_of_ne _ _ fun h => hindex (congrArg Fin.val h).symm
      · rw [if_neg hvalid]
  · rw [dif_neg hslot, if_neg]
    rintro ⟨hindex, _⟩
    exact hslot (hindex ▸ index.isLt)

theorem cancelAll_slots (tokens : List TimerToken) (index : TimerIndex) : ∀ svc : TimerService,
    (tokens.foldl (fun svc token => (svc.cancel token).2) svc).slots index =
      Machine.run (TimerSlot.noted (P := P) index) (svc.slots index) (tokens.map .cancelled) := by
  induction tokens with
  | nil => exact fun svc => rfl
  | cons token tokens ih =>
    intro svc
    rw [List.foldl_cons, ih, List.map_cons, Machine.run_cons, cancel_slots]
    rfl

theorem cancelAll_advanced (tokens : List TimerToken) (index : Nat) : ∀ slot : TimerSlot,
    (Machine.run (TimerSlot.noted (P := P) index) slot (tokens.map .cancelled)).advanced =
      Machine.run (TimerSlot.noted (P := P) index) slot.advanced (tokens.map .cancelled) := by
  induction tokens with
  | nil => exact fun slot => rfl
  | cons token tokens ih =>
    intro slot
    rw [List.map_cons, Machine.run_cons, Machine.run_cons, ih]
    exact congrArg (Machine.run _ · _) (TimerSlot.cancelledBy_advanced index token slot)

namespace Publishing

/-- The tokens that the publish callback cancels in its call for a slot. -/
def cancels (port : TimerPort P σ) (index : TimerIndex) (s : Publishing σ) : List TimerToken :=
  let slot := s.service.slots index
  if (slot.message (P := P)).1 = .ok then
    (port s.service s.context slot.targetActor slot.message.2).2.1
  else []

def visitNotes (port : TimerPort P σ) (nowMs : UInt32) (index : TimerIndex) (s : Publishing σ) :
    List (TimerNote P) :=
  if (s.service.slots index).active && isDue nowMs (s.service.slots index).deadlineMs then
    .attempted index (s.service.slots index).call :: (cancels port index s).map .cancelled
  else []

def notes (port : TimerPort P σ) (nowMs : UInt32) (maxPublish : Nat) :
    List TimerIndex → Publishing σ → List (TimerNote P)
  | [], _ => []
  | index :: rest, s =>
    if s.published.length < maxPublish then
      visitNotes port nowMs index s ++ notes port nowMs maxPublish rest (s.visit port.callback nowMs index)
    else []

theorem deliver_slots (port : TimerPort P σ) (index other : TimerIndex) (s : Publishing σ) :
    (s.deliver port.callback index).service.slots other =
      Machine.run (TimerSlot.noted (P := P) other) (s.service.slots other)
        ((cancels port index s).map .cancelled) := by
  rw [deliver_callback, cancels]
  simp only
  split
  · split
    · exact cancelAll_slots _ other s.service
    · exact cancelAll_slots _ other s.service
  · rfl

theorem visit_slots (port : TimerPort P σ) (nowMs : UInt32) (index other : TimerIndex)
    (s : Publishing σ) :
    (s.visit port.callback nowMs index).service.slots other =
      Machine.run (TimerSlot.noted other) (s.service.slots other) (visitNotes port nowMs index s) := by
  unfold visit visitNotes
  split
  · rw [Machine.run_cons]
    unfold advance
    simp only [TimerSlot.noted]
    by_cases hsame : index = other
    · rw [hsame, setSlot_self, deliver_slots, cancelAll_advanced, if_pos rfl]
    · rw [setSlot_of_ne _ _ (Ne.symm hsame), deliver_slots, if_neg fun h => hsame (Fin.ext h)]
  · rfl

theorem visitAll_slots (port : TimerPort P σ) (nowMs : UInt32) (maxPublish : Nat)
    (other : TimerIndex) (indices : List TimerIndex) : ∀ s : Publishing σ,
    (visitAll port.callback nowMs maxPublish indices s).service.slots other =
      Machine.run (TimerSlot.noted other) (s.service.slots other)
        (notes port nowMs maxPublish indices s) := by
  induction indices with
  | nil => exact fun s => rfl
  | cons index rest ih =>
    intro s
    rw [visitAll, notes]
    split
    · rw [ih, visit_slots, Machine.run_append]
    · rfl

end Publishing

end TimerService

namespace TimerSlot

/-- An attempt is for an active slot and carries its message. -/
def Fires (index : Nat) (slot : TimerSlot) (note : TimerNote P) : Prop :=
  ∀ call, note = .attempted index call → slot.active = true ∧ call = slot.call

theorem fires_cancels (index : Nat) (tokens : List TimerToken) : ∀ slot : TimerSlot,
    Machine.Each (noted index) (Fires (P := P) index) slot (tokens.map .cancelled) := by
  induction tokens with
  | nil => exact fun slot => Machine.each_nil
  | cons token tokens ih =>
    intro slot
    refine Machine.each_cons.mpr ⟨?_, ih _⟩
    intro call hcall
    cases hcall

end TimerSlot

namespace TimerService

namespace Publishing

theorem visit_fires (port : TimerPort P σ) (nowMs : UInt32) (index other : TimerIndex)
    (s : Publishing σ) :
    Machine.Each (TimerSlot.noted other) (TimerSlot.Fires other) (s.service.slots other)
      (visitNotes port nowMs index s) := by
  unfold visitNotes
  split
  · rename_i hdue
    refine Machine.each_cons.mpr ⟨?_, TimerSlot.fires_cancels _ _ _⟩
    intro call hcall
    obtain ⟨hindex, hcalled⟩ := TimerNote.attempted.inj hcall
    obtain rfl : index = other := Fin.ext hindex
    exact ⟨(Bool.and_eq_true_iff.mp hdue).1, hcalled.symm⟩
  · exact Machine.each_nil

theorem visitAll_fires (port : TimerPort P σ) (nowMs : UInt32) (maxPublish : Nat)
    (other : TimerIndex) (indices : List TimerIndex) : ∀ s : Publishing σ,
    Machine.Each (TimerSlot.noted other) (TimerSlot.Fires other) (s.service.slots other)
      (notes port nowMs maxPublish indices s) := by
  induction indices with
  | nil => exact fun s => Machine.each_nil
  | cons index rest ih =>
    intro s
    rw [notes]
    split
    · refine Machine.each_append.mpr ⟨visit_fires port nowMs index other s, ?_⟩
      rw [← visit_slots]
      exact ih _
    · exact Machine.each_nil

end Publishing

end TimerService

namespace TimerRun

def notes (run : TimerRun σ) : TimerCall P σ → List (TimerNote P)
  | .init => [.initialised]
  | .schedule nowMs delayMs targetActor eventId arg0 periodic =>
    if hdelay : delayMs = 0 then []
    else match run.service.schedule nowMs delayMs targetActor eventId arg0 periodic with
      | .ok (token, _) =>
        [.scheduled token ⟨nowMs, delayMs, targetActor, eventId, arg0, periodic, hdelay⟩]
      | .error _ => []
  | .cancel token => [.cancelled token]
  | .publishDue waitMs publish maxPublish =>
    match publish with
    | none => []
    | some port =>
      TimerService.Publishing.notes port (UInt32.ofNat (run.time + waitMs)) maxPublish
        (List.finRange timerServiceCapacity) { service := run.service, context := run.context }

def log : List (TimerCall P σ) → TimerRun σ → List (TimerNote P)
  | [], _ => []
  | call :: calls, run => run.notes call ++ log calls (run.call call).2

def after (calls : List (TimerCall P σ)) (run : TimerRun σ) : TimerRun σ :=
  Machine.run (fun run call => (TimerRun.call run call).2) run calls

theorem call_slots (run : TimerRun σ) (call : TimerCall P σ) (index : TimerIndex) :
    (run.call call).2.service.slots index =
        Machine.run (TimerSlot.noted index) (run.service.slots index) (run.notes call) ∧
      Machine.Each (TimerSlot.noted index) (TimerSlot.Fires index) (run.service.slots index)
        (run.notes call) := by
  cases call with
  | init =>
    refine ⟨rfl, Machine.each_cons.mpr ⟨?_, Machine.each_nil⟩⟩
    intro call hcall
    cases hcall
  | cancel token =>
    refine ⟨TimerService.cancel_slots _ token index, Machine.each_cons.mpr ⟨?_, Machine.each_nil⟩⟩
    intro call hcall
    cases hcall
  | publishDue waitMs publish maxPublish =>
    cases publish with
    | none => exact ⟨rfl, Machine.each_nil⟩
    | some port =>
      exact ⟨TimerService.Publishing.visitAll_slots port _ maxPublish index _ _,
        TimerService.Publishing.visitAll_fires port _ maxPublish index _ _⟩
  | schedule nowMs delayMs targetActor eventId arg0 periodic =>
    simp only [TimerRun.call, TimerRun.notes]
    by_cases hdelay : delayMs = 0
    · rw [dif_pos hdelay]
      have hrefused : run.service.schedule nowMs delayMs targetActor eventId arg0 periodic =
          .error .errInvalidArg := by
        rw [TimerService.schedule, dif_pos hdelay]
      simp only [hrefused]
      exact ⟨rfl, Machine.each_nil⟩
    · rw [dif_neg hdelay]
      cases hschedule : run.service.schedule nowMs delayMs targetActor eventId arg0 periodic with
      | error rc => exact ⟨rfl, Machine.each_nil⟩
      | ok out =>
        obtain ⟨token, service⟩ := out
        refine ⟨?_, Machine.each_cons.mpr ⟨?_, Machine.each_nil⟩⟩
        · rw [TimerService.schedule, dif_neg hdelay] at hschedule
          split at hschedule
          · cases hschedule
          · rename_i free hfree
            simp only [Except.ok.injEq, Prod.mk.injEq] at hschedule
            obtain ⟨rfl, rfl⟩ := hschedule
            have hfits : (UInt16.ofNat free.val).toNat = free := by
              have hlt : free.val < 16 := free.isLt
              rw [UInt16.toNat_ofNat']
              omega
            rw [Machine.run_cons, Machine.run_nil]
            simp only [TimerSlot.noted, hfits]
            by_cases hsame : free = index
            · rw [if_pos (congrArg Fin.val hsame), ← hsame]
              exact TimerService.setSlot_self ..
            · rw [if_neg fun h => hsame (Fin.ext h)]
              exact TimerService.setSlot_of_ne _ _ (Ne.symm hsame)
        · intro call hcall
          cases hcall

theorem log_slots (index : TimerIndex) (calls : List (TimerCall P σ)) : ∀ run : TimerRun σ,
    (after calls run).service.slots index =
        Machine.run (TimerSlot.noted index) (run.service.slots index) (log calls run) ∧
      Machine.Each (TimerSlot.noted index) (TimerSlot.Fires index) (run.service.slots index)
        (log calls run) := by
  induction calls with
  | nil => exact fun run => ⟨rfl, Machine.each_nil⟩
  | cons call calls ih =>
    intro run
    obtain ⟨hslot, hfires⟩ := call_slots run call index
    obtain ⟨hslots, hlater⟩ := ih (run.call call).2
    rw [hslot] at hslots hlater
    refine ⟨?_, Machine.each_append.mpr ⟨hfires, hlater⟩⟩
    rw [log, Machine.run_append]
    exact hslots

end TimerRun

namespace TimerNote

/-- No note of the list starts the slot anew. -/
def Undisturbed (index : Nat) (since : List (TimerNote P)) : Prop :=
  .initialised ∉ since ∧ ∀ token order, .scheduled token order ∈ since → token.slot.toNat ≠ index

def isAttempt (index : Nat) : TimerNote P → Bool
  | .attempted slot _ => slot == index
  | _ => false

def attempts (index : Nat) (since : List (TimerNote P)) : Nat := since.countP (isAttempt index)

theorem undisturbed_snoc {index : Nat} {since : List (TimerNote P)} {note : TimerNote P} :
    Undisturbed index (since ++ [note]) ↔ Undisturbed index since ∧ note ≠ .initialised ∧
      ∀ token order, note = .scheduled token order → token.slot.toNat ≠ index := by
  unfold Undisturbed
  simp only [List.mem_append, List.mem_singleton, not_or]
  constructor
  · rintro ⟨⟨hinit, hnote⟩, hscheduled⟩
    exact ⟨⟨hinit, fun token order h => hscheduled token order (.inl h)⟩, Ne.symm hnote,
      fun token order h => hscheduled token order (.inr h.symm)⟩
  · rintro ⟨⟨hinit, hscheduled⟩, hnote, hlast⟩
    refine ⟨⟨hinit, Ne.symm hnote⟩, fun token order h => ?_⟩
    rcases h with h | h
    · exact hscheduled token order h
    · exact hlast token order h.symm

theorem attempts_snoc (index : Nat) (since : List (TimerNote P)) (note : TimerNote P) :
    attempts index (since ++ [note]) = attempts index since + if isAttempt index note then 1 else 0 := by
  rw [attempts, List.countP_append, List.countP_singleton]
  rfl

end TimerNote

namespace TimerSlot

open TimerNote

/-- The slot of a timer after what the log says since its schedule. -/
structure Since (index : Nat) (order : TimerOrder) (token : TimerToken) (since : List (TimerNote P))
    (slot : TimerSlot) : Prop where
  same : Of order token slot
  deadline : order.periodic = true →
    slot.deadlineMs = order.nowMs + UInt32.ofNat (attempts index since + 1) * order.delayMs
  uncancelled : slot.active = true → .cancelled token ∉ since
  unattempted : slot.active = true → order.periodic = false → attempts index since = 0

theorem cancelled_since {index : Nat} {order : TimerOrder} {token other : TimerToken}
    {since : List (TimerNote P)} {slot : TimerSlot} (htoken : token.slot.toNat = index)
    (h : Since index order token since slot) :
    Since index order token (since ++ [.cancelled other]) (slot.cancelledBy index other) := by
  have hattempts : attempts index (since ++ [.cancelled other]) = attempts index since := by
    rw [attempts_snoc]
    rfl
  unfold cancelledBy
  by_cases hhit : other.slot.toNat = index ∧ other.generation = slot.generation
  · rw [if_pos hhit]
    refine ⟨⟨h.same.periodic, h.same.generation, h.same.period, h.same.target, h.same.event,
      h.same.arg⟩, ?_, fun hactive => (by cases hactive), fun hactive => by cases hactive⟩
    rw [hattempts]
    exact h.deadline
  · rw [if_neg hhit]
    refine ⟨h.same, ?_, fun hactive => ?_, ?_⟩
    · rw [hattempts]
      exact h.deadline
    · intro hmem
      rcases List.mem_append.mp hmem with hearlier | hlast
      · exact h.uncancelled hactive hearlier
      · apply hhit
        obtain rfl := TimerNote.cancelled.inj (List.mem_singleton.mp hlast)
        exact ⟨htoken, h.same.generation.symm⟩
    · rw [hattempts]
      exact h.unattempted

theorem advanced_since {index : Nat} {order : TimerOrder} {token : TimerToken}
    {since : List (TimerNote P)} {slot : TimerSlot} {call : Option (ActorId × Msg P)}
    (h : Since index order token since slot) :
    Since index order token (since ++ [.attempted index call]) slot.advanced := by
  have hattempts : attempts index (since ++ [.attempted index call]) = attempts index since + 1 := by
    rw [attempts_snoc, isAttempt, beq_self_eq_true, if_pos rfl]
  have hnotin (hout : .cancelled token ∉ since) :
      .cancelled token ∉ since ++ [.attempted index call] := by
    rw [List.mem_append, List.mem_singleton, not_or]
    exact ⟨hout, fun heq => by cases heq⟩
  unfold advanced
  by_cases hperiodic : slot.periodic = true
  · rw [if_pos hperiodic]
    refine ⟨⟨h.same.periodic, h.same.generation, h.same.period, h.same.target, h.same.event,
      h.same.arg⟩, ?_, fun hactive => hnotin (h.uncancelled hactive), fun _ honce => ?_⟩
    · intro horder
      simp only [h.deadline horder, h.same.period, hattempts]
      rw [UInt32.add_assoc, UInt32.ofNat_add (attempts index since + 1) 1, UInt32.add_mul]
      exact congrArg _ (congrArg _ (UInt32.one_mul _).symm)
    · rw [← h.same.periodic, hperiodic] at honce
      cases honce
  · rw [if_neg hperiodic]
    refine ⟨⟨h.same.periodic, h.same.generation, h.same.period, h.same.target, h.same.event,
      h.same.arg⟩, ?_, fun hactive => (by cases hactive), fun hactive => by cases hactive⟩
    intro horder
    rw [← h.same.periodic] at horder
    exact absurd horder hperiodic

/-- The log since the schedule says what the slot holds. -/
theorem run_since {index : Nat} {order : TimerOrder} {token : TimerToken}
    (htoken : token.slot.toNat = index) (since : List (TimerNote P)) (h : Undisturbed index since) :
    Since index order token since
      (Machine.run (noted index) (order.slot token.generation) since) := by
  induction since using List.reverseRecOn with
  | nil =>
    refine ⟨⟨rfl, rfl, rfl, rfl, rfl, rfl⟩, fun _ => ?_, fun _ => List.not_mem_nil, fun _ _ => rfl⟩
    change order.nowMs + order.delayMs = order.nowMs + 1 * order.delayMs
    rw [UInt32.one_mul]
  | append_singleton since note ih =>
    obtain ⟨hearlier, hinit, hscheduled⟩ := undisturbed_snoc.mp h
    have hsince := ih hearlier
    rw [Machine.run_append, Machine.run_cons, Machine.run_nil]
    have hkept (hnote : ∀ other, note ≠ .cancelled other)
        (hattempt : isAttempt index note = false) (slot : TimerSlot)
        (hslot : Since index order token since slot) :
        Since index order token (since ++ [note]) slot := by
      have hattempts : attempts index (since ++ [note]) = attempts index since := by
        rw [attempts_snoc, hattempt]
        rfl
      refine ⟨hslot.same, ?_, fun hactive => ?_, ?_⟩
      · rw [hattempts]
        exact hslot.deadline
      · rw [List.mem_append, List.mem_singleton, not_or]
        exact ⟨hslot.uncancelled hactive, Ne.symm (hnote token)⟩
      · rw [hattempts]
        exact hslot.unattempted
    cases note with
    | initialised => exact absurd rfl hinit
    | scheduled other order' =>
      rw [noted, if_neg (hscheduled other order' rfl)]
      exact hkept (fun other heq => by cases heq) rfl _ hsince
    | cancelled other => exact cancelled_since htoken hsince
    | attempted other call =>
      by_cases hsame : other = index
      · rw [noted, if_pos hsame, hsame]
        exact advanced_since hsince
      · rw [noted, if_neg hsame]
        exact hkept (fun other heq => by cases heq) (beq_eq_false_iff_ne.mpr hsame) _ hsince

/-- A slot that is active was scheduled, and is that of its last schedule. -/
theorem active_scheduled (index : Nat) (log : List (TimerNote P))
    (hactive : (Machine.run (noted index) blank log).active = true) :
    ∃ before token order since, log = before ++ .scheduled token order :: since ∧
      token.slot.toNat = index ∧ Undisturbed index since := by
  induction log using List.reverseRecOn with
  | nil => cases hactive
  | append_singleton log note ih =>
    rw [Machine.run_append, Machine.run_cons, Machine.run_nil] at hactive
    generalize Machine.run (noted index) blank log = slot at ih hactive
    have hlater (hslot : slot.active = true) (hinit : note ≠ .initialised)
        (hscheduled : ∀ token order, note = .scheduled token order → token.slot.toNat ≠ index) :
        ∃ before token order since, log ++ [note] = before ++ .scheduled token order :: since ∧
          token.slot.toNat = index ∧ Undisturbed index since := by
      obtain ⟨before, token, order, since, hlog, htoken, hquiet⟩ := ih hslot
      refine ⟨before, token, order, since ++ [note], ?_, htoken,
        undisturbed_snoc.mpr ⟨hquiet, hinit, hscheduled⟩⟩
      rw [hlog, List.append_assoc, List.cons_append]
    cases note with
    | initialised => cases hactive
    | scheduled token order =>
      rw [noted] at hactive
      by_cases hsame : token.slot.toNat = index
      · refine ⟨log, token, order, [], rfl, hsame, List.not_mem_nil, ?_⟩
        exact fun _ _ hmem => absurd hmem List.not_mem_nil
      · rw [if_neg hsame] at hactive
        refine hlater hactive (fun heq => by cases heq) fun token' order' heq => ?_
        cases heq
        exact hsame
    | cancelled token =>
      refine hlater ?_ (fun heq => by cases heq) fun _ _ heq => by cases heq
      rw [noted, cancelledBy] at hactive
      split at hactive
      · cases hactive
      · exact hactive
    | attempted other call =>
      refine hlater ?_ (fun heq => by cases heq) fun _ _ heq => by cases heq
      rw [noted] at hactive
      split at hactive
      · unfold advanced at hactive
        split at hactive
        · exact hactive
        · cases hactive
      · exact hactive

theorem run_scheduled {index : Nat} {before since : List (TimerNote P)} {token : TimerToken}
    {order : TimerOrder} (htoken : token.slot.toNat = index) (slot : TimerSlot) :
    Machine.run (noted index) slot (before ++ .scheduled token order :: since) =
      Machine.run (noted index) (order.slot token.generation) since := by
  rw [Machine.run_append, Machine.run_cons, noted, if_pos htoken]

end TimerSlot

namespace TimerRun

open TimerNote

def attemptedSlots (log : List (TimerNote P)) : List Nat :=
  log.filterMap fun
    | .attempted slot _ => some slot
    | _ => none

theorem attemptedSlots_cancels (tokens : List TimerToken) :
    attemptedSlots (P := P) (tokens.map .cancelled) = [] := by
  induction tokens with
  | nil => rfl
  | cons token tokens ih => exact ih

theorem attemptedSlots_visit (port : TimerPort P σ) (nowMs : UInt32) (index : TimerIndex)
    (s : TimerService.Publishing σ) :
    List.Sublist (attemptedSlots (TimerService.Publishing.visitNotes port nowMs index s))
      [index.val] := by
  unfold TimerService.Publishing.visitNotes
  split
  · change List.Sublist (index.val :: attemptedSlots (List.map _ _)) _
    rw [attemptedSlots_cancels]
  · exact List.nil_sublist _

theorem attemptedSlots_notes (port : TimerPort P σ) (nowMs : UInt32) (maxPublish : Nat)
    (indices : List TimerIndex) : ∀ s : TimerService.Publishing σ,
    List.Sublist (attemptedSlots (TimerService.Publishing.notes port nowMs maxPublish indices s))
      (indices.map Fin.val) := by
  induction indices with
  | nil => exact fun s => List.Sublist.refl _
  | cons index rest ih =>
    intro s
    rw [TimerService.Publishing.notes]
    split
    · rw [attemptedSlots, List.filterMap_append]
      exact (attemptedSlots_visit port nowMs index s).append (ih _)
    · exact List.nil_sublist _

theorem visitAll_bound (port : TimerPort P σ) (nowMs : UInt32) (maxPublish : Nat)
    (indices : List TimerIndex) : ∀ s : TimerService.Publishing σ, s.published.length ≤ maxPublish →
    (TimerService.Publishing.visitAll port.callback nowMs maxPublish indices s).published.length ≤
      maxPublish := by
  induction indices with
  | nil => exact fun s h => h
  | cons index rest ih =>
    intro s h
    rw [TimerService.Publishing.visitAll]
    split
    · rename_i hroom
      apply ih
      rcases TimerService.Publishing.visit_published port.callback nowMs index s with hnone | hone
      · rw [hnone]
        exact h
      · rw [hone, List.length_append]
        exact hroom
    · exact h

/-- One call attempts each slot at most once and publishes within its budget. -/
theorem publishDue_bound (run : TimerRun σ) (waitMs : Nat) (publish : Option (TimerPort P σ))
    (maxPublish : Nat) :
    (attemptedSlots (run.notes (.publishDue waitMs publish maxPublish))).Nodup ∧
      (run.call (.publishDue waitMs publish maxPublish)).1.length ≤ maxPublish := by
  cases publish with
  | none => exact ⟨List.nodup_nil, Nat.zero_le _⟩
  | some port =>
    constructor
    · refine (attemptedSlots_notes port _ maxPublish _ _).nodup ?_
      exact (List.nodup_finRange _).map Fin.val_injective
    · simp only [TimerRun.call, List.length_map]
      exact visitAll_bound port _ maxPublish _ _ (Nat.zero_le _)

/-- Every attempt belongs to the timer last scheduled in its slot, which was not cancelled since
and, unless it is periodic, was not attempted before; a periodic timer is always due next one
period after the deadline of its last attempt. -/
theorem timer_attempts (context : σ) (time : Nat) (calls : List (TimerCall P σ)) :
    let run : TimerRun σ := ⟨TimerService.init, context, time⟩
    (∀ (index : TimerIndex) earlier call, earlier ++ [.attempted index call] <+: log calls run →
      ∃ before token order since, earlier = before ++ .scheduled token order :: since ∧
        token.slot.toNat = index.val ∧ Undisturbed index since ∧ .cancelled token ∉ since ∧
        (order.periodic = false → attempts index since = 0) ∧
        (order.deliverable ↔ call.isSome = true) ∧ ∀ sent, call = some sent → order.Carries sent) ∧
    (∀ (index : TimerIndex) before token order since,
      log calls run = before ++ .scheduled token order :: since → token.slot.toNat = index.val →
      Undisturbed index since → order.periodic = true →
      ∀ start : Nat, order.nowMs = UInt32.ofNat start →
        ((after calls run).service.slots index).deadlineMs =
          UInt32.ofNat (start + (attempts index since + 1) * order.delayMs.toNat)) ∧
    (∀ before waitMs publish maxPublish, before ++ [.publishDue waitMs publish maxPublish] <+: calls →
      (attemptedSlots ((after before run).notes (.publishDue waitMs publish maxPublish))).Nodup ∧
        ((after before run).call (.publishDue waitMs publish maxPublish)).1.length ≤ maxPublish) := by
  intro run
  refine ⟨?_, ?_, ?_⟩
  · intro index earlier call hpre
    obtain ⟨hactive, hcall⟩ := (log_slots index calls run).2 earlier _ hpre call rfl
    obtain ⟨before, token, order, since, hearlier, htoken, hquiet⟩ :=
      TimerSlot.active_scheduled index earlier hactive
    have hsince : TimerSlot.Since index order token since _ := TimerSlot.run_since htoken since hquiet
    rw [hearlier, TimerSlot.run_scheduled htoken] at hactive hcall
    obtain ⟨hdeliverable, hcarries⟩ := hsince.same.call_carries (P := P)
    rw [← hcall] at hdeliverable hcarries
    exact ⟨before, token, order, since, hearlier, htoken, hquiet, hsince.uncancelled hactive,
      hsince.unattempted hactive, hdeliverable, hcarries⟩
  · intro index before token order since hlog htoken hquiet hperiodic start hstart
    rw [(log_slots index calls run).1, hlog, TimerSlot.run_scheduled htoken,
      (TimerSlot.run_since htoken since hquiet).deadline hperiodic, hstart,
      UInt32.ofNat_add start, UInt32.ofNat_mul, UInt32.ofNat_toNat]
  · intro before waitMs publish maxPublish _
    exact publishDue_bound _ waitMs publish maxPublish

/-- A display frame is a leased event: its timer is attempted without the argument. -/
theorem timer_argument_lost :
    ¬ ∀ (calls : List (TimerCall Unit Unit)) (index : TimerIndex) before token order since sent,
      before ++ .scheduled token order :: since ++ [.attempted index (some sent)] <+:
        log calls ⟨TimerService.init, (), 0⟩ →
      token.slot.toNat = index.val → Undisturbed index since →
      sent.2.inlineBytes = TimerSlot.argBytes order.arg0 := by
  intro hcarried
  have hbytes := hcarried
    [.schedule 0 5 .oled .oledCommitFrame 7 false, .publishDue 5 (some acceptAll) 1] ⟨0, by decide⟩ []
    ⟨0, 1⟩ ⟨0, 5, .oled, .oledCommitFrame, 7, false, by decide⟩ []
    (.oled, { Msg.blank with
      eventId := .oledCommitFrame, sourceActor := .runtime, targetActor := .oled })
    ⟨[], rfl⟩ rfl ⟨List.not_mem_nil, fun _ _ hmem => absurd hmem List.not_mem_nil⟩
  exact absurd hbytes (by decide)

end TimerRun

end EventFramework
