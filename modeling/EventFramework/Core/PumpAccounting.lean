import EventFramework.Core.PumpRules
import Mathlib.Data.List.Count
import Mathlib.Algebra.BigOperators.Group.List.Basic

/-!
# Budget and accounting of the domain pump

The handler invocations of a call, read off the history, against its budget, its report
and the mailboxes' pop counters. A handler that returns `EV_ERR_EMPTY` is mistaken for an
actor with nothing queued: its visit is neither counted nor charged.
-/

namespace EventFramework
set_option autoImplicit false

open RoundRobin

variable {P ω : Type}

namespace PumpEvent

def isInvocation : PumpEvent P → Bool
  | .invoked .. => true
  | _ => false

def invokes (actor : ActorId) : PumpEvent P → Bool
  | .invoked other _ => other == actor
  | _ => false

def saysEmpty : PumpEvent P → Bool
  | .returned _ rc => rc == .errEmpty
  | _ => false

end PumpEvent

def invocations (events : List (Moment P)) : Nat := events.countP fun m => m.event.isInvocation

def invocationsOf (actor : ActorId) (events : List (Moment P)) : Nat :=
  events.countP fun m => m.event.invokes actor

def saysEmpty (events : List (Moment P)) : Bool := events.any fun m => m.event.saysEmpty

def World.popped (w : World P ω) (actor : ActorId) : UInt32 :=
  (w.registry.slots actor).elim 0 fun runtime => runtime.mailbox.stats.popped

@[simp] theorem invocations_append (events later : List (Moment P)) :
    invocations (events ++ later) = invocations events + invocations later :=
  List.countP_append

@[simp] theorem invocationsOf_append (actor : ActorId) (events later : List (Moment P)) :
    invocationsOf actor (events ++ later) = invocationsOf actor events + invocationsOf actor later :=
  List.countP_append

@[simp] theorem saysEmpty_append (events later : List (Moment P)) :
    saysEmpty (events ++ later) = (saysEmpty events || saysEmpty later) :=
  List.any_append

theorem World.popped_setRuntime (w : World P ω) (runtime : ActorRuntime P) (actor : ActorId) :
    (w.setRuntime runtime).popped actor =
      if actor = runtime.actorId then runtime.mailbox.stats.popped else w.popped actor := by
  by_cases he : actor = runtime.actorId
  · simp [World.popped, World.setRuntime, ActorRegistry.setRuntime, he]
  · simp [World.popped, World.setRuntime, ActorRegistry.setRuntime, he]

theorem World.popped_of_slot {w : World P ω} {actor : ActorId} {runtime : ActorRuntime P}
    (h : w.registry.slots actor = some runtime) : w.popped actor = runtime.mailbox.stats.popped := by
  simp [World.popped, h]

@[simp] theorem World.popped_updateStats (w : World P ω) (actor other : ActorId)
    (f : ActorRuntimeStats → ActorRuntimeStats) : (w.updateStats actor f).popped other = w.popped other := by
  unfold World.updateStats
  split
  · rfl
  · rename_i runtime hslot
    rw [World.popped_setRuntime]
    split
    · rename_i he
      rw [he, w.registry.slot_id _ _ hslot, World.popped_of_slot hslot]
    · rfl

/-- The history grows by `later`, and so do the pop counters. -/
structure Accounted (w w' : World P ω) (later : List (Moment P)) : Prop where
  history : w'.history = w.history ++ later
  popped : ∀ actor, w'.popped actor = w.popped actor + UInt32.ofNat (invocationsOf actor later)

namespace Accounted

variable {w w₁ w₂ w₃ : World P ω} {later later' : List (Moment P)}

theorem of_same (hhistory : w₂.history = w₁.history) (hpopped : ∀ actor, w₂.popped actor = w₁.popped actor) :
    Accounted w₁ w₂ [] :=
  ⟨by rw [hhistory, List.append_nil], fun actor => by
    rw [hpopped]
    exact (UInt32.add_zero _).symm⟩

theorem trans (h : Accounted w₁ w₂ later) (h' : Accounted w₂ w₃ later') :
    Accounted w₁ w₃ (later ++ later') := by
  refine ⟨by rw [h'.history, h.history, List.append_assoc], ?_⟩
  intro actor
  rw [h'.popped, h.popped, invocationsOf_append, UInt32.ofNat_add, UInt32.add_assoc]

theorem note (event : PumpEvent P) (h : event.isInvocation = false) :
    Accounted w (w.note event) [⟨event, w.registry⟩] := by
  refine ⟨rfl, ?_⟩
  intro actor
  have hnone : invocationsOf actor [(⟨event, w.registry⟩ : Moment P)] = 0 := by
    cases event <;> first | rfl | simp [PumpEvent.isInvocation] at h
  rw [hnone]
  exact (UInt32.add_zero _).symm

theorem updateStats (actor : ActorId) (f : ActorRuntimeStats → ActorRuntimeStats) :
    Accounted w (w.updateStats actor f) [] :=
  of_same (by simp) (by simp)

end Accounted

def OnlyDelivers (w w' : World P ω) : Prop :=
  ∃ later, Accounted w w' later ∧ ∀ m ∈ later, ∃ target msg rc, m.event = .delivered target msg rc

theorem deliver_onlyDelivers (cb : Callbacks P ω) (w : World P ω) (target : ActorId) (msg : Msg P)
    (qos : RouteQos) (wantReport : Bool) :
    OnlyDelivers w (w.deliver cb target msg qos wantReport).2.2 := by
  refine ⟨_, ⟨w.deliver_history cb target msg qos wantReport, ?_⟩, ?_⟩
  · intro actor
    have hkept : (w.deliver cb target msg qos wantReport).2.2.popped actor = w.popped actor := by
      rcases w.deliver_cases cb target msg qos wantReport with
        ⟨_, _, _, hregistry⟩ | ⟨runtime, rc, report, mailbox, outside, stats, counts, hfind, hpush, _, _,
          hregistry, _⟩
      · simp [World.popped, hregistry]
      · obtain ⟨_, hslot⟩ : target.isValid = true ∧ w.registry.slots target = some runtime := by
          simpa [ActorRegistry.find] using hfind
        have hid := w.registry.slot_id _ _ hslot
        have hmailbox : mailbox.stats.popped = runtime.mailbox.stats.popped := by
          have hkept := runtime.mailbox.pushQos_popped cb msg w.outside qos
          rwa [hpush] at hkept
        by_cases he : actor = target
        · simp [World.popped, hregistry, ActorRegistry.setRuntime, hid, he, hslot, hmailbox]
        · simp [World.popped, hregistry, ActorRegistry.setRuntime, hid, he]
    rw [hkept]
    exact (UInt32.add_zero _).symm
  · intro m hm
    rw [List.mem_singleton.mp hm]
    exact ⟨_, _, _, rfl⟩

theorem OnlyDelivers.handlerFrame (cb : Callbacks P ω) :
    HandlerFrame cb (fun _ => True) (OnlyDelivers (P := P) (ω := ω)) where
  refl := fun _ => ⟨[], .of_same rfl fun _ => rfl, by simp⟩
  trans := by
    rintro w₁ w₂ w₃ ⟨later, h, hdelivered⟩ ⟨later', h', hdelivered'⟩
    refine ⟨later ++ later', h.trans h', ?_⟩
    intro m hm
    rcases List.mem_append.mp hm with hm | hm
    · exact hdelivered m hm
    · exact hdelivered' m hm
  deliver := fun w target msg qos wantReport _ => deliver_onlyDelivers cb w target msg qos wantReport
  outside := fun _ _ => ⟨[], .of_same rfl fun _ => rfl, by simp⟩

/-- Events of messages that an actor handled: how many, and whether it said empty. -/
structure Handles (actor : ActorId) (later : List (Moment P)) (count : Nat) (empty : Bool) : Prop where
  handling : ∀ m ∈ later, m.event.ofHandling
  total : invocations later = count
  own : ∀ other, invocationsOf other later = if other = actor then count else 0
  empty : saysEmpty later = empty

theorem Handles.append {actor : ActorId} {later later' : List (Moment P)} {n n' : Nat} {e e' : Bool}
    (h : Handles actor later n e) (h' : Handles actor later' n' e') :
    Handles actor (later ++ later') (n + n') (e || e') := by
  refine ⟨?_, by rw [invocations_append, h.total, h'.total], ?_,
    by rw [saysEmpty_append, h.empty, h'.empty]⟩
  · intro m hm
    rcases List.mem_append.mp hm with hm | hm
    · exact h.handling m hm
    · exact h'.handling m hm
  · intro other
    rw [invocationsOf_append, h.own, h'.own]
    split <;> rfl

theorem Handles.nil (actor : ActorId) : Handles actor ([] : List (Moment P)) 0 false :=
  ⟨by simp, rfl, by simp [invocationsOf], rfl⟩

theorem Handles.deliveries (actor : ActorId) {later : List (Moment P)}
    (h : ∀ m ∈ later, ∃ target msg rc, m.event = .delivered target msg rc) :
    Handles actor later 0 false := by
  refine ⟨?_, List.countP_eq_zero.mpr ?_, ?_, List.any_eq_false.mpr ?_⟩
  · intro m hm
    obtain ⟨target, msg, rc, hevent⟩ := h m hm
    rw [hevent]
    trivial
  · intro m hm
    obtain ⟨target, msg, rc, hevent⟩ := h m hm
    rw [hevent]
    exact Bool.false_ne_true
  · intro other
    rw [ite_self]
    refine List.countP_eq_zero.mpr fun m hm => ?_
    obtain ⟨target, msg, rc, hevent⟩ := h m hm
    rw [hevent]
    exact Bool.false_ne_true
  · intro m hm
    obtain ⟨target, msg, rc, hevent⟩ := h m hm
    rw [hevent]
    exact Bool.false_ne_true

theorem Handles.invoked (actor : ActorId) (msg : Msg P) (registry : ActorRegistry P) :
    Handles actor [⟨.invoked actor msg, registry⟩] 1 false := by
  refine ⟨by simp [PumpEvent.ofHandling], rfl, ?_, rfl⟩
  intro other
  by_cases he : other = actor
  · simp [invocationsOf, PumpEvent.invokes, he]
  · have hne : (actor == other) = false := by simpa using Ne.symm he
    simp [invocationsOf, PumpEvent.invokes, he, hne]

theorem Handles.returned (actor : ActorId) (rc : Result) (registry : ActorRegistry P) :
    Handles actor [⟨.returned actor rc, registry⟩] 0 (rc == .errEmpty) :=
  ⟨by simp [PumpEvent.ofHandling], rfl, fun _ => (ite_self _).symm,
    by simp [saysEmpty, PumpEvent.saysEmpty]⟩

theorem Handles.disposed (actor : ActorId) (msg : Msg P) (registry : ActorRegistry P) :
    Handles actor [⟨.disposed actor msg, registry⟩] 0 false :=
  ⟨by simp [PumpEvent.ofHandling], rfl, fun _ => (ite_self _).symm, rfl⟩

section Handling

variable (prog : Program P ω)

theorem invoked_accounted {actor : ActorId} {w : World P ω} {runtime : ActorRuntime P}
    {mb : Mailbox P} (msg : Msg P) (hslot : w.registry.slots actor = some runtime)
    (hpopped : mb.stats.popped = runtime.mailbox.stats.popped + 1) :
    Accounted w ((w.setRuntime { runtime with mailbox := mb }).note (.invoked actor msg))
      [⟨.invoked actor msg, (w.setRuntime { runtime with mailbox := mb }).registry⟩] := by
  refine ⟨rfl, ?_⟩
  intro other
  have hid := w.registry.slot_id _ _ hslot
  change (w.setRuntime { runtime with mailbox := mb }).popped other = _
  rw [World.popped_setRuntime]
  by_cases he : other = actor
  · simp [he, hid, World.popped_of_slot hslot, hpopped, invocationsOf, PumpEvent.invokes]
  · have hne : (actor == other) = false := by simpa using Ne.symm he
    simp [he, hid, invocationsOf, PumpEvent.invokes, hne]

/-- A message from a mailbox that is not empty is one pop and one invocation. -/
theorem processOne_accounted {actor : ActorId} {w : World P ω}
    (hpending : w.registry.pending actor ≠ 0) :
    ∃ later empty, Accounted w (processOne prog actor w).2 later ∧ Handles actor later 1 empty ∧
      (empty = true ↔ (processOne prog actor w).1 = .errEmpty) := by
  rcases processOne_cases prog actor w with
    ⟨hslot, _⟩ | ⟨runtime, hslot, ⟨hempty, _⟩ |
      ⟨msg, mb, handled, disposed, w', _, _, hpopped, hhandle, hrc, hworld⟩⟩
  · simp [ActorRegistry.pending, hslot] at hpending
  · simp [ActorRegistry.pending, hslot, hempty] at hpending
  · have hstart := invoked_accounted msg hslot hpopped
    obtain ⟨later, hrun, hdelivered⟩ := (OnlyDelivers.handlerFrame prog.callbacks).exec
      (prog.handler actor msg).delivers_any
      ((w.setRuntime { runtime with mailbox := mb }).note (.invoked actor msg))
    unfold handle at hhandle
    generalize (prog.handler actor msg).exec prog.callbacks
      ((w.setRuntime { runtime with mailbox := mb }).note (.invoked actor msg)) = out at hrun hhandle
    obtain ⟨rc, w₁⟩ := out
    simp only [Msg.dispose_result, Prod.mk.injEq] at hhandle
    obtain ⟨rfl, rfl, rfl⟩ := hhandle
    have hreturned : Accounted w₁ (w₁.note (.returned actor rc)) [⟨.returned actor rc, w₁.registry⟩] :=
      .note _ rfl
    have hreleased : Accounted (w₁.note (.returned actor rc)) { w₁.note (.returned actor rc) with
        outside := (msg.dispose prog.callbacks (w₁.note (.returned actor rc)).outside).2.2 } [] :=
      .of_same rfl fun _ => rfl
    have hdone := ((hstart.trans hrun).trans hreturned).trans
      ((hreleased.trans (.note (.disposed actor msg) rfl)).trans
        (.updateStats actor (.processed rc .ok (processOne prog actor w).1)))
    rw [← hworld] at hdone
    have hevents := ((Handles.invoked actor msg
        (w.setRuntime { runtime with mailbox := mb }).registry).append (.deliveries actor hdelivered)).append
      ((Handles.returned actor rc w₁.registry).append (.disposed actor msg w₁.registry))
    refine ⟨_, rc == .errEmpty, hdone, ?_, ?_⟩
    · simpa [List.append_assoc] using hevents
    · rw [hrc]
      simp

/-- The loop processes as many messages as it runs handlers, at most `n`, and stops with
`EV_ERR_EMPTY` only after a handler said so. -/
theorem pumpLoop_accounted (actor : ActorId) (n : Nat) : ∀ (processed : Nat) (w : World P ω),
    ∃ later count empty, Accounted w (pumpLoop prog actor n processed w).2.2 later ∧
      Handles actor later count empty ∧ count ≤ n ∧
      (pumpLoop prog actor n processed w).2.1 = processed + count ∧
      (empty = true ↔ (pumpLoop prog actor n processed w).1 = .errEmpty) ∧
      (w.registry.pending actor ≠ 0 → 0 < n → 0 < count) := by
  induction n with
  | zero =>
    intro processed w
    exact ⟨[], 0, false, .of_same rfl fun _ => rfl, .nil actor, Nat.le_refl _, rfl,
      by simp [pumpLoop], fun _ h => h⟩
  | succ n ih =>
    intro processed w
    by_cases hpending : w.registry.pending actor = 0
    · refine ⟨[], 0, false, ?_⟩
      simp only [pumpLoop, hpending, if_true]
      exact ⟨.of_same rfl fun _ => rfl, .nil actor, Nat.zero_le _, rfl, by simp,
        fun h => absurd rfl h⟩
    · obtain ⟨later, empty, hone, hhandles, hempty⟩ := processOne_accounted prog hpending
      by_cases hok : (processOne prog actor w).1 = .ok
      · obtain ⟨later', count, empty', hrest, hhandles', hle, hprocessed, hempty', _⟩ :=
          ih (processed + 1) (processOne prog actor w).2
        have hnot : empty = false := by
          rw [hok] at hempty
          simpa using hempty
        refine ⟨later ++ later', 1 + count, empty || empty', ?_⟩
        simp only [pumpLoop, hpending, hok, if_false, ne_eq, not_true_eq_false]
        exact ⟨hone.trans hrest, hhandles.append hhandles', by omega, by omega,
          by rw [hnot, Bool.false_or]; exact hempty', fun _ _ => by omega⟩
      · refine ⟨later, 1, empty, ?_⟩
        simp only [pumpLoop, hpending, hok, if_false, ne_eq, not_false_eq_true, if_true]
        exact ⟨hone, hhandles, by omega, trivial, hempty, fun _ _ => Nat.one_pos⟩

theorem actorPump_accounted {actor : ActorId} (budget : Nat) {w : World P ω}
    (hpending : w.registry.pending actor ≠ 0) (hbudget : budget ≠ 0) :
    ∃ later count empty, Accounted w (actorPump prog actor budget w).2.2 later ∧
      Handles actor later count empty ∧ count ≤ budget ∧ 0 < count ∧
      (actorPump prog actor budget w).2.1.processed = count ∧
      (empty = true ↔ (actorPump prog actor budget w).1 = .errEmpty) := by
  rcases actorPump_cases prog actor budget w with
    ⟨_, hnone⟩ | ⟨_, hzero, _⟩ | ⟨rc, processed, w', _, hpos, hloop, hrc, hprocessed, hworld⟩
  · rcases hnone with hzero | hslot
    · exact absurd hzero hbudget
    · simp [ActorRegistry.pending, hslot] at hpending
  · exact absurd hzero hpending
  · have hstart : Accounted w (w.updateStats actor (.pumpStarted budget)) [] := .updateStats actor _
    have hsame : (w.updateStats actor (.pumpStarted budget)).registry.pending actor ≠ 0 := by
      rwa [World.pending_updateStats]
    obtain ⟨later, count, empty, hrun, hhandles, hle, hcount, hempty, hmade⟩ :=
      pumpLoop_accounted prog actor budget 0 (w.updateStats actor (.pumpStarted budget))
    rw [hloop] at hrun hcount hempty
    have hended := (hstart.trans hrun).trans (.updateStats actor (.pumpEnded processed))
    have hworld' : Accounted w (actorPump prog actor budget w).2.2 later := by
      rw [List.nil_append, List.append_nil] at hended
      rcases hworld with heq | heq
      · rw [heq]
        exact hended
      · rw [heq, ← List.append_nil later]
        exact hended.trans (.updateStats actor .budgetHit)
    refine ⟨later, count, empty, hworld', hhandles, hle, hmade hsame hpos, ?_, ?_⟩
    · rw [hprocessed]
      simpa using hcount
    · rw [hrc]
      exact hempty

end Handling

/-- No visit runs more handlers than the actor may drain. -/
def DrainBounded (events : List (Moment P)) : Prop :=
  ∀ (before visit after : List (Moment P)) (m : Moment P) (domain : ExecutionDomain) (index : Nat),
    events = before ++ m :: (visit ++ after) → m.event = .visitedActor domain index →
    (∀ x ∈ visit, x.event.ofHandling) →
    invocations visit ≤ actorDefaultDrainBudget (.ofIndex index)

theorem DrainBounded.append {events later : List (Moment P)} {m : Moment P} (h : DrainBounded events)
    (hm : ¬m.event.ofHandling) (hlater : ∀ x ∈ later, x.event.ofHandling)
    (hbound : ∀ domain index, m.event = .visitedActor domain index →
      invocations later ≤ actorDefaultDrainBudget (.ofIndex index)) :
    DrainBounded (events ++ m :: later) := by
  intro before visit after m' domain index heq hvisited hhandling
  have hhere (hrest : m' :: (visit ++ after) = m :: later) :
      invocations visit ≤ actorDefaultDrainBudget (.ofIndex index) := by
    obtain ⟨rfl, rfl⟩ := List.cons.inj hrest
    refine Nat.le_trans (Nat.le_add_right _ (invocations after)) ?_
    rw [← invocations_append]
    exact hbound domain index hvisited
  rcases List.append_eq_append_iff.mp heq with ⟨rest, hbefore, hrest⟩ | ⟨rest, hevents, hrest⟩
  · -- the visit starts at `m` or after it, and nothing after `m` starts a visit
    cases rest with
    | nil => exact hhere hrest.symm
    | cons first rest =>
      obtain ⟨_, hlater'⟩ := List.cons.inj hrest
      have hin := hlater m' (by rw [hlater']; simp)
      rw [hvisited] at hin
      exact hin.elim
  · cases rest with
    | nil => exact hhere hrest
    | cons first rest =>
      obtain ⟨rfl, hvisit⟩ := List.cons.inj hrest
      rcases List.append_eq_append_iff.mp hvisit with ⟨more, hmore, _⟩ | ⟨more, hvisit', hmore⟩
      · exact h before visit more m' domain index (by rw [hevents, hmore]) hvisited hhandling
      · cases more with
        | nil =>
          exact h before visit [] m' domain index (by rw [hevents, hvisit']; simp) hvisited hhandling
        | cons first more =>
          obtain ⟨rfl, _⟩ := List.cons.inj hmore
          exact absurd (hhandling m (by rw [hvisit']; simp)) hm

theorem DrainBounded.nil : DrainBounded ([] : List (Moment P)) := by
  intro before visit after m domain index heq
  simp at heq

/-- Every handler that ran belongs to a declared actor. -/
def Cataloged (events : List (Moment P)) : Prop :=
  (actorCatalog.map fun actor => invocationsOf actor events).sum = invocations events

theorem Cataloged.append {events later : List (Moment P)} (h : Cataloged events)
    (h' : Cataloged later) : Cataloged (events ++ later) := by
  unfold Cataloged at *
  simp only [invocationsOf_append, invocations_append, List.sum_map_add, h, h']

theorem Cataloged.note {m : Moment P} (h : m.event.isInvocation = false) : Cataloged [m] := by
  have hnone : ∀ actor, invocationsOf actor [m] = 0 := by
    intro actor
    obtain ⟨event, registry⟩ := m
    cases event <;> first | rfl | simp [PumpEvent.isInvocation] at h
  have htotal : invocations [m] = 0 := by
    simp [invocations, h]
  unfold Cataloged
  simp only [hnone, htotal, List.map_const', List.sum_replicate]
  exact nsmul_zero _

theorem Handles.cataloged {actor : ActorId} {later : List (Moment P)} {count : Nat} {empty : Bool}
    (h : Handles actor later count empty) (hactor : actor ∈ actorCatalog) : Cataloged later := by
  unfold Cataloged
  rw [h.total, List.sum_map_eq_nsmul_single actor, List.count_eq_one_of_mem actorCatalog_nodup hactor,
    h.own, if_pos rfl, one_nsmul]
  intro other hne _
  rw [h.own, if_neg hne]

/-- The account of a call that noted `later` since it began and reports `processed`. -/
structure Account (start w : World P ω) (later : List (Moment P)) (processed : Nat) : Prop where
  accounted : Accounted start w later
  atMost : processed ≤ invocations later
  exact : processed = invocations later ↔ saysEmpty later = false
  drain : DrainBounded later
  cataloged : Cataloged later

theorem Account.fresh (w : World P ω) : Account w w [] 0 :=
  ⟨.of_same rfl fun _ => rfl, Nat.le_refl _, by simp [saysEmpty, invocations], .nil, by
    simp [Cataloged, invocationsOf, invocations]⟩

theorem Account.passed {start w : World P ω} {later : List (Moment P)} {processed : Nat}
    (h : Account start w later processed) (domain : ExecutionDomain) (index : Nat) :
    Account start (w.note (.passedActor domain index))
      (later ++ [⟨.passedActor domain index, w.registry⟩]) processed := by
  have hnothing : invocations [(⟨.passedActor domain index, w.registry⟩ : Moment P)] = 0 := rfl
  have hquiet : saysEmpty [(⟨.passedActor domain index, w.registry⟩ : Moment P)] = false := rfl
  refine ⟨h.accounted.trans (.note _ rfl), ?_, ?_, ?_, h.cataloged.append (.note rfl)⟩
  · rw [invocations_append, hnothing]
    exact h.atMost
  · rw [invocations_append, hnothing, saysEmpty_append, hquiet, Bool.or_false]
    exact h.exact
  · exact h.drain.append id (by simp) (by simp)

structure Visited (start w : World P ω) (later visit : List (Moment P)) (budget processed : Nat)
    (empty : Bool) : Prop where
  accounted : Accounted start w (later ++ visit)
  drain : DrainBounded (later ++ visit)
  cataloged : Cataloged (later ++ visit)
  total : invocations visit = processed
  pos : 0 < processed
  le : processed ≤ budget
  empty : saysEmpty visit = empty

/-- A visit that is counted. -/
theorem Visited.counted {start w w' : World P ω} {later visit : List (Moment P)}
    {processed budget count : Nat} (h : Account start w later processed)
    (hvisit : Visited start w' later visit budget count false) :
    Account start w' (later ++ visit) (processed + count) := by
  refine ⟨hvisit.accounted, ?_, ?_, hvisit.drain, hvisit.cataloged⟩
  · rw [invocations_append, hvisit.total]
    exact Nat.add_le_add_right h.atMost _
  · rw [invocations_append, hvisit.total, saysEmpty_append, hvisit.empty, Bool.or_false, ← h.exact]
    omega

/-- A visit that is taken for an empty mailbox. -/
theorem Visited.uncounted {start w w' : World P ω} {later visit : List (Moment P)}
    {processed budget count : Nat} (h : Account start w later processed)
    (hvisit : Visited start w' later visit budget count true) :
    Account start w' (later ++ visit) processed := by
  have hle := h.atMost
  have hpos := hvisit.pos
  refine ⟨hvisit.accounted, ?_, ?_, hvisit.drain, hvisit.cataloged⟩
  · rw [invocations_append, hvisit.total]
    omega
  · rw [invocations_append, hvisit.total, saysEmpty_append, hvisit.empty, Bool.or_true]
    simp only [Bool.true_eq_false, iff_false]
    omega

theorem sum_ofNat (actors : List ActorId) (count : ActorId → Nat) :
    (actors.map fun actor => UInt32.ofNat (count actor)).sum =
      UInt32.ofNat (actors.map count).sum := by
  induction actors with
  | nil => rfl
  | cons actor actors ih =>
    rw [List.map_cons, List.sum_cons, ih, List.map_cons, List.sum_cons, UInt32.ofNat_add]

/-- What was popped in all is what ran in all. -/
theorem Accounted.popped_sum {w w' : World P ω} {later : List (Moment P)} (h : Accounted w w' later)
    (hcataloged : Cataloged later) :
    (actorCatalog.map fun actor => w'.popped actor - w.popped actor).sum =
      UInt32.ofNat (invocations later) := by
  have hactor : (fun actor => w'.popped actor - w.popped actor) =
      fun actor => UInt32.ofNat (invocationsOf actor later) := by
    funext actor
    rw [h.popped]
    grind
  rw [hactor, sum_ofNat, hcataloged]

namespace DomainPump

variable {prog : Program P ω} {start : World P ω} {later : List (Moment P)} {s : Call P ω}

theorem visit_account (h : Account start s.world later s.report.processed) {index budget : Nat}
    {runtime : ActorRuntime P} (hslot : s.world.registry.slots (.ofIndex index) = some runtime)
    (hmatch : actorMatches (.ofIndex index) s.pump.domain = true)
    (hpending : s.world.registry.pending (.ofIndex index) ≠ 0) (hbudget : budget ≠ 0)
    (hdrain : budget ≤ runtime.defaultBudget) :
    ∃ visit empty, Visited start (s.visit prog index runtime budget).2.2.world later visit budget
        (s.visit prog index runtime budget).2.1.processed empty ∧
      (empty = true ↔ (s.visit prog index runtime budget).1 = .errEmpty) := by
  have hvisited : Accounted s.world (s.world.note (.visitedActor s.pump.domain index))
      [⟨.visitedActor s.pump.domain index, s.world.registry⟩] := .note _ rfl
  obtain ⟨events, count, empty, hrun, hhandles, hle, hpos, hprocessed, hempty⟩ :=
    actorPump_accounted prog budget
      (w := s.world.note (.visitedActor s.pump.domain index)) hpending hbudget
  have hactor : ActorId.ofIndex index ∈ actorCatalog := by
    rw [mem_actorCatalog_iff]
    unfold actorMatches at hmatch
    cases hmeta : actorMeta (.ofIndex index) with
    | none => simp [hmeta] at hmatch
    | some info => simp [ActorId.isValid, hmeta]
  have hreport : (s.visit prog index runtime budget).2.1.processed = count := hprocessed
  refine ⟨_ :: events, empty, ⟨h.accounted.trans (hvisited.trans hrun), ?_, ?_, ?_, ?_, ?_,
    hhandles.empty⟩, hempty⟩
  · refine h.drain.append id hhandles.handling fun domain index' heq => ?_
    obtain ⟨_, rfl⟩ := PumpEvent.visitedActor.inj heq
    rw [hhandles.total]
    rw [ActorRuntime.defaultBudget, s.world.registry.slot_id _ _ hslot] at hdrain
    exact Nat.le_trans hle hdrain
  · exact h.cataloged.append ((Cataloged.note rfl).append (hhandles.cataloged hactor))
  · rw [hreport]
    exact hhandles.total
  · rwa [hreport]
  · rwa [hreport]

/-- The account of a call, with what is left of the budget. -/
def Call.Spends (start : World P ω) (total remaining : Nat) (s : Call P ω) : Prop :=
  (∃ later, Account start s.world later s.report.processed) ∧ s.report.processed + remaining = total

def Call.Spent (start : World P ω) (total : Nat) (s : Call P ω) : Prop :=
  (∃ later, Account start s.world later s.report.processed) ∧ s.report.processed ≤ total

variable (prog) in
theorem turn_spends {total remaining : Nat} (h : s.Spends start total remaining) (index : Nat)
    (hremaining : 0 < remaining) :
    match turn prog index remaining s with
    | .pass t | .idle t => t.Spends start total remaining
    | .progress t used => 0 < used ∧ t.Spends start total (remaining - used)
    | .abort t _ => t.Spent start total := by
  obtain ⟨⟨later, haccount⟩, htotal⟩ := h
  rcases turn_cases prog index remaining s with
    ⟨t, ht, heq, _⟩ | ⟨runtime, _, _, _, heq⟩ |
      ⟨runtime, rc, report, t, hslot, hmatch, hpending, hbudget, hvisit, heq⟩
  · rw [heq]
    rcases ht with rfl | rfl
    · exact ⟨⟨_, haccount.passed _ index⟩, htotal⟩
    · exact ⟨⟨_, haccount.passed _ index⟩, htotal⟩
  · rw [heq]
    refine ⟨⟨later, ?_⟩, ?_⟩
    · rw [Call.contractBroken_processed]
      exact haccount
    · rw [Call.contractBroken_processed]
      exact Nat.le_of_add_right_le (Nat.le_of_eq htotal)
  · have hmin : min runtime.defaultBudget remaining ≠ 0 := by omega
    obtain ⟨visit, empty, hvisited, hempty⟩ :=
      visit_account (s := s.examined) haccount hslot hmatch hpending hmin
        (Nat.min_le_left _ _)
    have hreport : t.report.processed = s.report.processed := by
      have hthird := congrArg (fun out => out.2.2.report.processed) hvisit
      exact hthird.symm
    rw [hvisit] at hvisited hempty
    have hle := hvisited.le
    have hpos := hvisited.pos
    rcases heq with ⟨hrc, heq⟩ | ⟨hrc, _, heq⟩ | ⟨hrc, heq⟩ <;> rw [heq]
    · obtain rfl : empty = true := hempty.mpr hrc
      refine ⟨⟨later ++ visit, ?_⟩, by omega⟩
      rw [hreport]
      exact hvisited.uncounted haccount
    · obtain rfl : empty = false := by
        rw [← Bool.not_eq_true, hempty]
        exact hrc
      have hcounted : ((t.counted report.processed).failed rc).report.processed =
          s.report.processed + report.processed := by
        rw [← hreport]
        exact Call.failed_processed _ rc
      refine ⟨⟨later ++ visit, ?_⟩, ?_⟩
      · rw [hcounted]
        exact hvisited.counted haccount
      · rw [hcounted]
        simp only at hle
        omega
    · obtain rfl : empty = false := by
        rw [← Bool.not_eq_true, hempty, hrc]
        exact Result.noConfusion
      have hcounted : (t.counted report.processed).report.processed =
          s.report.processed + report.processed := by
        rw [← hreport]
        rfl
      refine ⟨hpos, ⟨later ++ visit, ?_⟩, ?_⟩
      · rw [hcounted]
        exact hvisited.counted haccount
      · rw [hcounted]
        simp only at hle
        omega

variable (prog) in
theorem loops_spend {total remaining : Nat} (h : s.Spends start total remaining) (fuel : Nat) :
    (loops prog fuel remaining s).Satisfies (fun _ r _ t => t.Spends start total r)
      (fun t _ => t.Spent start total) := by
  have hinv : RoundRobin.Invariant actorCount (turn prog) (fun s => s.pump.nextActorIndex)
      (fun _ r _ t => t.Spends start total r) (fun t _ => t.Spent start total) := by
    constructor
    · intro i r made t t' hr ht heq
      have hturn := turn_spends prog ht i hr
      rwa [heq] at hturn
    · intro i r made t t' hr ht heq
      have hturn := turn_spends prog ht i hr
      rwa [heq] at hturn
    · intro i r made t t' used hr ht heq
      have hturn := turn_spends prog ht i hr
      rw [heq] at hturn
      exact hturn.2
    · intro i r made t t' x hr ht heq
      have hturn := turn_spends prog ht i hr
      rwa [heq] at hturn
    · intro i r made t ht
      exact ht
  exact hinv.rounds fuel 0 remaining false h

/-- The account of a whole call. -/
theorem run_account (prog : Program P ω) (pump : DomainPump) (budget : Nat) (w : World P ω) :
    ∃ later, Account w (pump.run prog budget w).2.2.2 later (pump.run prog budget w).2.1.processed ∧
      (pump.run prog budget w).2.1.processed ≤ budget := by
  have hstart : (enter pump budget w).wrapped.Spends w budget budget :=
    ⟨⟨[], .fresh w⟩, Nat.zero_add budget⟩
  have hloops := loops_spend prog hstart budget
  unfold run
  rcases runFuel_cases prog budget pump budget w with
    ⟨_, heq⟩ | ⟨_, _, heq⟩ | ⟨_, _, ⟨s, rc, hout, heq⟩ | ⟨remaining, made, s, hout, heq⟩⟩
  · rw [heq]
    exact ⟨[], .fresh w, Nat.zero_le _⟩
  · rw [heq]
    exact ⟨[], .fresh w, Nat.zero_le _⟩
  · rw [hout] at hloops
    obtain ⟨⟨later, haccount⟩, hle⟩ := hloops
    rw [heq]
    exact ⟨later, haccount, hle⟩
  · rw [hout] at hloops
    obtain ⟨_, ⟨later, haccount⟩, htotal⟩ := hloops
    obtain ⟨hworld, hprocessed, _⟩ := finish_cases remaining made s
    rw [heq]
    simp only [Call.result, hworld, hprocessed]
    exact ⟨later, haccount, by omega⟩

/-- A turn that makes progress uses some of the budget. -/
theorem turn_used {index remaining used : Nat} {s s' : Call P ω}
    (h : turn prog index remaining s = .progress s' used) : 0 < used := by
  rcases turn_cases prog index remaining s with
    ⟨t, _, heq, _⟩ | ⟨runtime, _, _, _, heq⟩ |
      ⟨runtime, rc, report, t, hslot, hmatch, hpending, hbudget, hvisit, heq⟩
  · simp [heq] at h
  · simp [heq] at h
  · rcases heq with ⟨_, heq⟩ | ⟨_, _, heq⟩ | ⟨hrc, heq⟩
    · simp [heq] at h
    · simp [heq] at h
    · rw [heq, Turn.progress.injEq] at h
      obtain ⟨_, rfl⟩ := h
      cases remaining with
      | zero =>
        -- an actor pump without budget fails
        have hfails : (s.examined.visit prog index runtime (min runtime.defaultBudget 0)).1 ≠ .ok := by
          rw [Nat.min_zero]
          rcases actorPump_cases prog (.ofIndex index) 0
            (s.examined.world.note (.visitedActor s.examined.pump.domain index)) with
            ⟨hnone, _⟩ | ⟨hempty, _⟩ | ⟨_, _, _, _, hpos, _⟩
          · simp only [Call.visit, hnone]
            decide
          · simp only [Call.visit, hempty]
            decide
          · exact absurd hpos (Nat.lt_irrefl 0)
        rw [hvisit] at hfails
        exact absurd hrc hfails
      | succ remaining =>
        obtain ⟨_, count, _, _, _, _, hpos, hcount, _⟩ := actorPump_accounted prog
          (min runtime.defaultBudget (remaining + 1))
          (w := s.examined.world.note (.visitedActor s.examined.pump.domain index)) hpending (by omega)
        have hsame := congrArg (fun out => out.2.1.processed) hvisit
        simp only [Call.visit, hcount] at hsame
        rwa [← hsame]

/-- The outer loop ends by itself: fuel beyond the budget changes nothing. -/
theorem runFuel_eq (prog : Program P ω) (pump : DomainPump) {budget fuel : Nat} (h : budget ≤ fuel)
    (w : World P ω) : pump.runFuel prog fuel budget w = pump.run prog budget w := by
  have hloops : loops prog fuel budget (enter pump budget w).wrapped =
      loops prog budget budget (enter pump budget w).wrapped :=
    rounds_fuel turn_used fuel false _ h
  unfold run runFuel
  simp only [hloops]

def callEvents (prog : Program P ω) (pump : DomainPump) (budget : Nat) (w : World P ω) :
    List (Moment P) :=
  (pump.run prog budget w).2.2.2.history.drop w.history.length

/-- The accounting of a call: it ends, runs no more handlers than the budget, reports as
many as it ran and popped, and no visit exceeds the drain budget of its actor. -/
structure CallAccounted (prog : Program P ω) (pump : DomainPump) (budget : Nat) (w : World P ω) :
    Prop where
  ends : ∀ fuel, budget ≤ fuel → pump.runFuel prog fuel budget w = pump.run prog budget w
  bounded : invocations (callEvents prog pump budget w) ≤ budget
  reported : (pump.run prog budget w).2.1.processed = invocations (callEvents prog pump budget w)
  popped : (actorCatalog.map fun actor =>
      (pump.run prog budget w).2.2.2.popped actor - w.popped actor).sum =
    UInt32.ofNat (pump.run prog budget w).2.1.processed
  drain : DrainBounded (callEvents prog pump budget w)

/-- A call is accounted for exactly if no handler it ran returned `EV_ERR_EMPTY`. -/
theorem callAccounted_iff (prog : Program P ω) (pump : DomainPump) (budget : Nat) (w : World P ω) :
    CallAccounted prog pump budget w ↔ saysEmpty (callEvents prog pump budget w) = false := by
  obtain ⟨later, haccount, hle⟩ := run_account prog pump budget w
  have hevents : callEvents prog pump budget w = later := by
    unfold callEvents
    rw [haccount.accounted.history, List.drop_left]
  rw [hevents, ← haccount.exact]
  constructor
  · intro h
    rw [h.reported, hevents]
  · intro hexact
    refine ⟨fun fuel hfuel => runFuel_eq prog pump hfuel w, ?_, ?_, ?_, ?_⟩
    · rwa [hevents, ← hexact]
    · rwa [hevents]
    · rw [hexact]
      exact haccount.accounted.popped_sum haccount.cataloged
    · rw [hevents]
      exact haccount.drain

/-- A handler that takes its message and returns `EV_ERR_EMPTY`. -/
def emptyProgram : Program Unit Unit where
  callbacks := ⟨fun _ _ _ _ w => (.ok, w), fun _ _ _ _ w => w⟩
  handler := fun _ _ => .ret .errEmpty

def bootMsg : Msg Unit := (Msg.blank.initSend .bootStarted .boot .boot).2

def oneMessage : World Unit Unit where
  registry := ActorRegistry.fresh.setRuntime
    ⟨.boot, ((Mailbox.fresh .fifo8).push emptyProgram.callbacks bootMsg ()).2.1, {}⟩
  outside := ()

theorem callAccounted_fails : ¬CallAccounted emptyProgram (init .fastLoop) 1 oneMessage := by
  intro h
  have hreported := h.reported
  revert hreported
  decide

end DomainPump

end EventFramework
