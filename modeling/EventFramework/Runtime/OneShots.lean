import EventFramework.Runtime.TimerAttempts

/-!
# What becomes of a one-shot timer

The log of a run with the outcome of every attempt, for publish callbacks that may schedule and
cancel timers. What the callback does is noted before the attempt: the source reads the slot again
after the callback returns.
-/

namespace EventFramework
set_option autoImplicit false

variable {P σ : Type}

/-- `delivered` is false for an attempt whose message could not be made or was refused. -/
structure TimerOutcome (P : Type) where
  note : TimerNote P
  delivered : Bool

namespace TimerSlot

/-- The slot of an index as a machine over the outcomes. -/
def told (index : Nat) (slot : TimerSlot) (outcome : TimerOutcome P) : TimerSlot :=
  slot.noted index outcome.note

theorem run_told (index : Nat) (slot : TimerSlot) (outcomes : List (TimerOutcome P)) :
    Machine.run (told index) slot outcomes =
      Machine.run (noted index) slot (outcomes.map TimerOutcome.note) := by
  rw [Machine.run, Machine.run, List.foldl_map]
  rfl

end TimerSlot

namespace TimerOp

def call : TimerOp → TimerCall P σ
  | .init => .init
  | .schedule nowMs delayMs targetActor eventId arg0 periodic =>
    .schedule nowMs delayMs targetActor eventId arg0 periodic
  | .cancel token => .cancel token

def notes (svc : TimerService) (op : TimerOp) : List (TimerNote P) :=
  TimerRun.notes (⟨svc, (), 0⟩ : TimerRun Unit) op.call

def outcomes (svc : TimerService) (op : TimerOp) : List (TimerOutcome P) :=
  (op.notes svc).map fun note => ⟨note, true⟩

theorem apply_service (svc : TimerService) (op : TimerOp) :
    svc.apply op = ((⟨svc, (), 0⟩ : TimerRun Unit).call (P := P) op.call).2.service := by
  cases op with
  | init => rfl
  | cancel token => rfl
  | schedule nowMs delayMs targetActor eventId arg0 periodic =>
    simp only [TimerService.apply, call, TimerRun.call]
    cases svc.schedule nowMs delayMs targetActor eventId arg0 periodic with
    | ok out => rfl
    | error rc => rfl

theorem apply_told (svc : TimerService) (op : TimerOp) (index : TimerIndex) :
    (svc.apply op).slots index =
      Machine.run (TimerSlot.told index) (svc.slots index) (op.outcomes (P := P) svc) := by
  have hnotes : (op.outcomes (P := P) svc).map TimerOutcome.note = op.notes svc := by
    rw [outcomes, List.map_map]
    exact List.map_id _
  rw [TimerSlot.run_told, hnotes, apply_service (P := P)]
  exact (TimerRun.call_slots (⟨svc, (), 0⟩ : TimerRun Unit) op.call index).1

def allOutcomes : List TimerOp → TimerService → List (TimerOutcome P)
  | [], _ => []
  | op :: ops, svc => op.outcomes svc ++ allOutcomes ops (svc.apply op)

theorem applyAll_told (index : TimerIndex) (ops : List TimerOp) : ∀ svc : TimerService,
    (ops.foldl TimerService.apply svc).slots index =
      Machine.run (TimerSlot.told index) (svc.slots index) (allOutcomes (P := P) ops svc) := by
  induction ops with
  | nil => exact fun svc => rfl
  | cons op ops ih =>
    intro svc
    rw [List.foldl_cons, allOutcomes, Machine.run_append, ih, apply_told (P := P)]

end TimerOp

namespace TimerNote

def rearms (index : Nat) : TimerNote P → Bool
  | .scheduled token _ => token.slot.toNat == index
  | _ => false

end TimerNote

namespace TimerService.Publishing

/-- The calls of the service that the publish callback makes for a slot. -/
def callbackOps (publish : TimerCallback P σ) (index : TimerIndex) (s : Publishing σ) : List TimerOp :=
  let slot := s.service.slots index
  if (slot.message (P := P)).1 = .ok then
    (publish s.service s.context slot.targetActor slot.message.2).2.1
  else []

/-- The publish call for a due slot returns `EV_OK`, and leaves no new timer in the slot. -/
def delivered (publish : TimerCallback P σ) (index : TimerIndex) (s : Publishing σ) : Bool :=
  let slot := s.service.slots index
  decide ((slot.message (P := P)).1 = .ok ∧
    (publish s.service s.context slot.targetActor slot.message.2).1 = .ok) &&
  (TimerOp.allOutcomes (P := P) (callbackOps publish index s) s.service).all fun outcome =>
    !outcome.note.rearms index

def visitOutcomes (publish : TimerCallback P σ) (nowMs : UInt32) (index : TimerIndex)
    (s : Publishing σ) : List (TimerOutcome P) :=
  if (s.service.slots index).active && isDue nowMs (s.service.slots index).deadlineMs then
    TimerOp.allOutcomes (callbackOps publish index s) s.service ++
      [⟨.attempted index (s.service.slots index).call, delivered publish index s⟩]
  else []

def outcomes (publish : TimerCallback P σ) (nowMs : UInt32) (maxPublish : Nat) :
    List TimerIndex → Publishing σ → List (TimerOutcome P)
  | [], _ => []
  | index :: rest, s =>
    if s.published.length < maxPublish then
      visitOutcomes publish nowMs index s ++
        outcomes publish nowMs maxPublish rest (s.visit publish nowMs index)
    else []

theorem deliver_told (publish : TimerCallback P σ) (index other : TimerIndex) (s : Publishing σ) :
    (s.deliver publish index).service.slots other =
      Machine.run (TimerSlot.told other) (s.service.slots other)
        (TimerOp.allOutcomes (P := P) (callbackOps publish index s) s.service) := by
  unfold deliver callbackOps
  simp only
  split
  · split
    · exact TimerOp.applyAll_told other _ s.service
    · exact TimerOp.applyAll_told other _ s.service
  · rfl

theorem visit_told (publish : TimerCallback P σ) (nowMs : UInt32) (index other : TimerIndex)
    (s : Publishing σ) :
    (s.visit publish nowMs index).service.slots other =
      Machine.run (TimerSlot.told other) (s.service.slots other)
        (visitOutcomes publish nowMs index s) := by
  unfold visit visitOutcomes
  split
  · rw [Machine.run_append, ← deliver_told, Machine.run_cons, Machine.run_nil]
    unfold advance TimerSlot.told
    simp only [TimerSlot.noted]
    by_cases hsame : index = other
    · rw [hsame, setSlot_self, if_pos rfl]
    · rw [setSlot_of_ne _ _ (Ne.symm hsame), if_neg fun h => hsame (Fin.ext h)]
  · rfl

theorem visitAll_told (publish : TimerCallback P σ) (nowMs : UInt32) (maxPublish : Nat)
    (other : TimerIndex) (indices : List TimerIndex) : ∀ s : Publishing σ,
    (visitAll publish nowMs maxPublish indices s).service.slots other =
      Machine.run (TimerSlot.told other) (s.service.slots other)
        (outcomes publish nowMs maxPublish indices s) := by
  induction indices with
  | nil => exact fun s => rfl
  | cons index rest ih =>
    intro s
    rw [visitAll, outcomes]
    split
    · rw [ih, visit_told, Machine.run_append]
    · rfl

end TimerService.Publishing

/-- A call of a user of the service, with any publish callback. -/
inductive TimerUseCall (P σ : Type) where
  | op (op : TimerOp)
  | publishDue (nowMs : UInt32) (publish : Option (TimerCallback P σ)) (maxPublish : Nat)

/-- The service and the context of the publish callbacks. -/
structure TimerUse (σ : Type) where
  service : TimerService
  context : σ

namespace TimerUse

def call (use : TimerUse σ) : TimerUseCall P σ → TimerUse σ
  | .op op => { use with service := use.service.apply op }
  | .publishDue nowMs publish maxPublish =>
    let out := use.service.publishDue nowMs publish use.context maxPublish
    ⟨out.service, out.context⟩

def after (calls : List (TimerUseCall P σ)) (use : TimerUse σ) : TimerUse σ :=
  Machine.run call use calls

def outcomes (use : TimerUse σ) : TimerUseCall P σ → List (TimerOutcome P)
  | .op op => op.outcomes use.service
  | .publishDue nowMs publish maxPublish =>
    publish.elim [] fun publish =>
      TimerService.Publishing.outcomes publish nowMs maxPublish (List.finRange timerServiceCapacity)
        { service := use.service, context := use.context }

def history : List (TimerUseCall P σ) → TimerUse σ → List (TimerOutcome P)
  | [], _ => []
  | call :: calls, use => use.outcomes call ++ history calls (use.call call)

theorem history_append (earlier later : List (TimerUseCall P σ)) : ∀ use : TimerUse σ,
    history (earlier ++ later) use = history earlier use ++ history later (after earlier use) := by
  induction earlier with
  | nil => exact fun use => rfl
  | cons call earlier ih =>
    intro use
    rw [List.cons_append, history, history, ih, List.append_assoc]
    rfl

theorem call_told (use : TimerUse σ) (call : TimerUseCall P σ) (index : TimerIndex) :
    (use.call call).service.slots index =
      Machine.run (TimerSlot.told index) (use.service.slots index) (use.outcomes call) := by
  cases call with
  | op op => exact op.apply_told use.service index
  | publishDue nowMs publish maxPublish =>
    cases publish with
    | none => rfl
    | some publish => exact TimerService.Publishing.visitAll_told publish nowMs maxPublish index _ _

theorem history_told (index : TimerIndex) (calls : List (TimerUseCall P σ)) : ∀ use : TimerUse σ,
    (after calls use).service.slots index =
      Machine.run (TimerSlot.told index) (use.service.slots index) (history calls use) := by
  induction calls with
  | nil => exact fun use => rfl
  | cons call calls ih =>
    intro use
    rw [history, Machine.run_append, ← call_told]
    exact ih _

end TimerUse

namespace TimerSlot

open TimerNote

/-- The timer scheduled last in a slot is active if it is a one-shot that was neither delivered
nor cancelled since. -/
def StaysPending (index : Nat) (history : List (TimerOutcome P)) : Prop :=
  ∀ before token order flag since,
    history = before ++ ⟨.scheduled token order, flag⟩ :: since → token.slot.toNat = index →
    order.periodic = false → Undisturbed index (since.map TimerOutcome.note) →
    .cancelled token ∉ since.map TimerOutcome.note →
    (∀ call, ⟨.attempted index call, true⟩ ∉ since) →
    (Machine.run (told index) blank history).active = true

/-- An attempt for a pending one-shot is delivered. -/
def Lands (index : Nat) (slot : TimerSlot) (outcome : TimerOutcome P) : Prop :=
  ∀ call, outcome.note = .attempted index call → slot.active = true → slot.periodic = false →
    outcome.delivered = true

structure Pending (token : TimerToken) (slot : TimerSlot) : Prop where
  active : slot.active = true
  once : slot.periodic = false
  generation : slot.generation = token.generation

variable {index : Nat} {order : TimerOrder} {token : TimerToken} {slot : TimerSlot}

/-- A one-shot stays pending through every step that neither cancels nor delivers it, if the
attempts for it are delivered. -/
theorem Pending.told {outcome : TimerOutcome P} (h : Pending token slot)
    (htoken : token.slot.toNat = index) (hlands : Lands index slot outcome)
    (hinit : outcome.note ≠ .initialised)
    (hscheduled : ∀ other order, outcome.note = .scheduled other order → other.slot.toNat ≠ index)
    (hcancelled : outcome.note ≠ .cancelled token)
    (hdelivered : ∀ call, outcome ≠ ⟨.attempted index call, true⟩) :
    Pending token (told index slot outcome) := by
  obtain ⟨note, delivered⟩ := outcome
  unfold TimerSlot.told
  cases note with
  | initialised => exact absurd rfl hinit
  | scheduled other order =>
    rw [noted, if_neg (hscheduled other order rfl)]
    exact h
  | cancelled other =>
    rw [noted, cancelledBy, if_neg]
    · exact h
    · rintro ⟨hslot, hgeneration⟩
      rw [h.generation] at hgeneration
      have hsame : other.slot = token.slot := UInt16.toNat_inj.mp (hslot.trans htoken.symm)
      apply hcancelled
      cases other
      cases token
      simp only at hsame hgeneration
      rw [hsame, hgeneration]
  | attempted other call =>
    by_cases hsame : other = index
    · have hdone : delivered = true := hlands call (by rw [hsame]) h.active h.once
      exact absurd (by rw [hdone, hsame]) (hdelivered call)
    · rw [noted, if_neg hsame]
      exact h

/-- A one-shot that no attempt has failed is pending until it is delivered or cancelled. -/
theorem run_pending (htoken : token.slot.toNat = index) (since : List (TimerOutcome P)) :
    ∀ slot, Pending token slot → Machine.Each (told index) (Lands index) slot since →
    Undisturbed index (since.map TimerOutcome.note) →
    .cancelled token ∉ since.map TimerOutcome.note →
    (∀ call, ⟨.attempted index call, true⟩ ∉ since) →
    Pending token (Machine.run (told index) slot since) := by
  induction since with
  | nil => exact fun slot h _ _ _ _ => h
  | cons outcome since ih =>
    intro slot h heach hquiet hcancelled hdelivered
    obtain ⟨hlands, hlater⟩ := Machine.each_cons.mp heach
    obtain ⟨hinit, hscheduled⟩ := hquiet
    simp only [List.map_cons, List.mem_cons, not_or] at hinit hscheduled hcancelled
    refine ih _ (h.told htoken hlands (Ne.symm hinit.1) ?_ (Ne.symm hcancelled.1) ?_) hlater
      ⟨hinit.2, fun other order hmem => hscheduled other order (.inr hmem)⟩ hcancelled.2 ?_
    · exact fun other order heq => hscheduled other order (.inl heq.symm)
    · exact fun call heq => hdelivered call (heq ▸ List.mem_cons_self)
    · exact fun call hmem => hdelivered call (List.mem_cons_of_mem _ hmem)

theorem stays_of_lands {history : List (TimerOutcome P)}
    (heach : Machine.Each (told index) (Lands index) blank history) : StaysPending index history := by
  intro before token order flag since hhistory htoken honce hquiet hcancelled hdelivered
  rw [hhistory] at heach ⊢
  obtain ⟨_, hafter⟩ := Machine.each_append.mp heach
  have hslot : told (P := P) index (Machine.run (told index) blank before)
      ⟨.scheduled token order, flag⟩ = order.slot token.generation := by
    rw [told, noted, if_pos htoken]
  have hlater := (Machine.each_cons.mp hafter).2
  rw [hslot] at hlater
  rw [Machine.run_append, Machine.run_cons, hslot]
  exact (run_pending htoken since _ ⟨rfl, honce, rfl⟩ hlater hquiet hcancelled hdelivered).active

/-- The first failed attempt for a pending one-shot is the end of it. -/
theorem lands_of_stays {history : List (TimerOutcome P)} {outcome : TimerOutcome P}
    (hstays : StaysPending index (history ++ [outcome])) :
    Lands index (Machine.run (told index) blank history) outcome := by
  intro call hnote hactive honce
  by_contra hfailed
  have hnotes := run_told (P := P) index blank history
  rw [hnotes] at hactive honce
  obtain ⟨before, token, order, since, hlog, htoken, hquiet⟩ :=
    active_scheduled index _ hactive
  obtain ⟨earlier, rest, rfl, hearlier, hrest⟩ := List.map_eq_append_iff.mp hlog
  obtain ⟨scheduled, later, rfl, hscheduled, hlater⟩ := List.map_eq_cons_iff.mp hrest
  obtain ⟨note, flag⟩ := scheduled
  obtain rfl : note = .scheduled token order := hscheduled
  have hsince : Since index order token since _ := run_since htoken since hquiet
  rw [hlog, run_scheduled htoken] at hactive honce
  have hperiodic : order.periodic = false := by rw [← hsince.same.periodic, honce]
  have hnone : ∀ call, TimerNote.attempted index call ∉ since := by
    intro call hmem
    have hcount := List.countP_eq_zero.mp (hsince.unattempted hactive hperiodic) _ hmem
    simp [isAttempt] at hcount
  have hkept := hstays earlier token order flag (later ++ [outcome])
    (by rw [List.append_assoc, List.cons_append]) htoken hperiodic
  rw [List.map_append, hlater, List.map_singleton, hnote] at hkept
  have hafter := hkept
    (undisturbed_snoc.mpr ⟨hquiet, (fun heq => by cases heq), fun _ _ heq => by cases heq⟩)
    (by
      rw [List.mem_append, List.mem_singleton, not_or]
      exact ⟨hsince.uncancelled hactive, fun heq => by cases heq⟩)
    (by
      intro other hmem
      rcases List.mem_append.mp hmem with hearly | hlast
      · exact hnone other (hlater ▸ List.mem_map_of_mem hearly)
      · rw [← List.mem_singleton.mp hlast] at hfailed
        exact hfailed rfl)
  rw [Machine.run_append, hnotes, hlog, run_scheduled htoken, Machine.run_cons, Machine.run_nil,
    told, hnote, noted, if_pos rfl, advanced, honce] at hafter
  cases hafter

end TimerSlot

namespace TimerUse

/-- In every run the slots hold what the history says, and a one-shot timer is pending in every
state until it is delivered or cancelled just when every attempt for a pending one-shot is
delivered. -/
theorem oneshots_stay_iff (context : σ) (calls : List (TimerUseCall P σ)) :
    let use : TimerUse σ := ⟨TimerService.init, context⟩
    (∀ (index : TimerIndex) before, before <+: calls →
      history before use <+: history calls use ∧ (after before use).service.slots index =
        Machine.run (TimerSlot.told index) TimerSlot.blank (history before use)) ∧
    ((∀ (index : TimerIndex) earlier, earlier <+: history calls use →
        TimerSlot.StaysPending index earlier) ↔
      ∀ index : TimerIndex, Machine.Each (TimerSlot.told index) (TimerSlot.Lands index)
        TimerSlot.blank (history calls use)) := by
  intro use
  refine ⟨?_, ?_, ?_⟩
  · rintro index before ⟨rest, rfl⟩
    refine ⟨?_, history_told index before use⟩
    rw [history_append]
    exact List.prefix_append _ _
  · intro hstays index earlier outcome hpre
    exact TimerSlot.lands_of_stays (hstays index _ hpre)
  · intro heach index earlier hpre
    refine TimerSlot.stays_of_lands fun before outcome hbefore => ?_
    exact heach index before outcome (hbefore.trans hpre)

def refuseAll : TimerCallback P σ := fun _ context _ _ => (.errFull, [], context)

/-- The target's mailbox is full at the one poll: the timer is gone. -/
theorem oneshot_lost :
    ¬ ∀ (calls : List (TimerUseCall Unit Unit)) (index : TimerIndex) earlier,
      earlier <+: history calls ⟨TimerService.init, ()⟩ → TimerSlot.StaysPending index earlier := by
  intro hstays
  have hquiet : ∀ call, TimerNote.Undisturbed (P := Unit) 0 [.attempted 0 call] :=
    fun call => ⟨by simp, by simp⟩
  have hpending := hstays
    [.op (.schedule 0 5 .fault .tick1s 0 false), .publishDue 5 (some refuseAll) 1] ⟨0, by decide⟩ _
    (List.prefix_refl _) [] ⟨0, 1⟩ ⟨0, 5, .fault, .tick1s, 0, false, by decide⟩ true
    [⟨.attempted 0 (some (.fault, _)), false⟩] rfl rfl rfl (hquiet _) (by simp) (by simp)
  exact absurd hpending (by decide)

/-- The publish callback that takes the message and puts a new one-shot into the slot it is called
for. -/
def rearmFirst : TimerCallback P σ := fun _ context _ _ =>
  (.ok, [.cancel ⟨0, 1⟩, .schedule 5 100 .fault .tick1s 0 false], context)

/-- The timer that the callback schedules is gone before it is due. -/
theorem rearmed_lost :
    ¬TimerSlot.StaysPending 0 (history (P := Unit)
      [.op (.schedule 0 5 .fault .tick1s 0 false), .publishDue 5 (some rearmFirst) 1]
      ⟨TimerService.init, ()⟩) := by
  intro hstays
  have hquiet : ∀ call, TimerNote.Undisturbed (P := Unit) 0 [.attempted 0 call] :=
    fun call => ⟨by simp, by simp⟩
  have hpending := hstays
    [⟨.scheduled ⟨0, 1⟩ ⟨0, 5, .fault, .tick1s, 0, false, by decide⟩, true⟩, ⟨.cancelled ⟨0, 1⟩, true⟩]
    ⟨0, 2⟩ ⟨5, 100, .fault, .tick1s, 0, false, by decide⟩ true
    [⟨.attempted 0 (some (.fault, _)), false⟩] rfl rfl rfl (hquiet _) (by simp) (by simp)
  exact absurd hpending (by decide)

end TimerUse

end EventFramework
