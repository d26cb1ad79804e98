import EventFramework.Core.FifoPush
import EventFramework.Runtime.ActorPublishPort
import EventFramework.Runtime.DeliveryAgreement

/-!
# Two ways through the routes of an event

A walk delivers one message to a list of routes. The walk of the delivery service uses the QoS
of each route and stops at a strict failure; the walk of an actor delivers every route as a
critical one and stops at the first failure.
-/

namespace EventFramework
set_option autoImplicit false

variable {P ω κ : Type}

namespace World

def mailbox (w : World P ω) (actor : ActorId) : Option (Mailbox P) :=
  (w.registry.find actor).map ActorRuntime.mailbox

def Ready (w : World P ω) : Prop :=
  ∀ actor mb, w.mailbox actor = some mb → mb.Wf ∧ mb.IsFifo

theorem mailbox_valid {w : World P ω} {actor : ActorId} {mb : Mailbox P}
    (h : w.mailbox actor = some mb) : actor.isValid = true := by
  by_contra hinvalid
  simp [mailbox, ActorRegistry.find, hinvalid] at h

theorem mailbox_eq (w : World P ω) (actor : ActorId) : w.mailbox actor =
    if actor.isValid then (w.registry.slots actor).map ActorRuntime.mailbox else none := by
  unfold mailbox ActorRegistry.find
  split <;> rfl

theorem deliver_mailbox (cb : Callbacks P ω) {w : World P ω} {target : ActorId} {mb : Mailbox P}
    (h : w.mailbox target = some mb) (msg : Msg P) (qos : RouteQos) (wantReport : Bool) :
    (w.deliver cb target msg qos wantReport).1 = (mb.pushQos cb msg qos w.outside).1 ∧
      (w.deliver cb target msg qos wantReport).2.2.mailbox =
        Function.update w.mailbox target (some (mb.pushQos cb msg qos w.outside).2.2.1) ∧
      (w.deliver cb target msg qos wantReport).2.2.outside =
        (mb.pushQos cb msg qos w.outside).2.2.2 := by
  have hvalid := mailbox_valid h
  obtain ⟨runtime, hfind, hmb⟩ := Option.map_eq_some_iff.mp h
  subst hmb
  have hslot : w.registry.slots target = some runtime := by
    rwa [ActorRegistry.find, if_pos hvalid] at hfind
  have hid := w.registry.slot_id _ _ hslot
  unfold deliver
  have hfind' : (w.updateRegistryStats fun s => { s with
      deliveryAttempted := s.deliveryAttempted + 1, lastTargetActor := target }).registry.find
      target = some runtime := hfind
  simp only [hfind']
  obtain ⟨houtside, stats, counts, hregistry, _⟩ := pushed_cases
    ({ (w.updateRegistryStats fun s => { s with
        deliveryAttempted := s.deliveryAttempted + 1, lastTargetActor := target }) with
      outside := (runtime.mailbox.pushQos cb msg qos w.outside).2.2.2 } : World P ω)
    { runtime with
      mailbox := (runtime.mailbox.pushQos cb msg qos w.outside).2.2.1
      stats := { runtime.stats with lastResult := (runtime.mailbox.pushQos cb msg qos w.outside).1 } }
    (runtime.mailbox.pushQos cb msg qos w.outside).1
    ((if wantReport = true then some (runtime.mailbox.pushQos cb msg qos w.outside).2.1
      else none).any fun r => r.effect == .dropped)
  refine ⟨rfl, ?_, houtside⟩
  funext actor
  simp only [mailbox, note_registry]
  have hslots : ∀ other, (World.pushed
      ({ (w.updateRegistryStats fun s => { s with
          deliveryAttempted := s.deliveryAttempted + 1, lastTargetActor := target }) with
        outside := (runtime.mailbox.pushQos cb msg qos w.outside).2.2.2 } : World P ω)
      { runtime with
        mailbox := (runtime.mailbox.pushQos cb msg qos w.outside).2.2.1
        stats := { runtime.stats with
          lastResult := (runtime.mailbox.pushQos cb msg qos w.outside).1 } }
      (runtime.mailbox.pushQos cb msg qos w.outside).1
      ((if wantReport = true then some (runtime.mailbox.pushQos cb msg qos w.outside).2.1
        else none).any fun r => r.effect == .dropped)).registry.slots other =
      if other = target then some { runtime with
        mailbox := (runtime.mailbox.pushQos cb msg qos w.outside).2.2.1, stats := counts }
      else w.registry.slots other := by
    intro other
    rw [hregistry]
    simp only [ActorRegistry.setRuntime, hid]
    by_cases he : other = target
    · rw [if_pos he, he, Function.update_self]
    · rw [if_neg he, Function.update_of_ne he]
      rfl
  by_cases he : actor = target
  · subst he
    rw [Function.update_self, ActorRegistry.find, if_pos hvalid]
    refine (congrArg (Option.map ActorRuntime.mailbox) (hslots actor)).trans ?_
    rw [if_pos rfl]
    rfl
  · rw [Function.update_of_ne he, mailbox_eq, ActorRegistry.find]
    split
    · refine (congrArg (Option.map ActorRuntime.mailbox) (hslots actor)).trans ?_
      rw [if_neg he]
    · rfl

def arrivalsOf (w : World P ω) (actor : ActorId) : UInt32 :=
  (w.mailbox actor).elim 0 fun mb => mb.stats.arrivals

def divertedOf (w : World P ω) (actor : ActorId) : UInt32 :=
  (w.mailbox actor).elim 0 fun mb => mb.stats.diverted

/-- Between two worlds one message arrived at each of the targets, and was diverted at some. -/
structure Arrives (w w' : World P ω) (targets diverted : List ActorId) : Prop where
  ready : w.Ready → w'.Ready
  bound : ∀ actor, (w'.mailbox actor).isSome = (w.mailbox actor).isSome
  arrivals : ∀ actor, w'.arrivalsOf actor = w.arrivalsOf actor + UInt32.ofNat (targets.count actor)
  part : diverted.length ≤ targets.length
  diverted : ∀ actor, w'.divertedOf actor = w.divertedOf actor + UInt32.ofNat (diverted.count actor)

namespace Arrives

variable {w w' w'' : World P ω} {targets targets' diverted diverted' : List ActorId}

theorem of_mailbox (h : w'.mailbox = w.mailbox) : Arrives w w' [] [] where
  ready hready actor mb hmb := hready actor mb (h ▸ hmb)
  bound _ := by rw [h]
  arrivals _ := by simp [arrivalsOf, h]
  diverted _ := by simp [divertedOf, h]
  part := Nat.le_refl _

theorem trans (h : Arrives w w' targets diverted) (h' : Arrives w' w'' targets' diverted') :
    Arrives w w'' (targets ++ targets') (diverted ++ diverted') where
  ready hready := h'.ready (h.ready hready)
  bound actor := (h'.bound actor).trans (h.bound actor)
  arrivals actor := by
    rw [h'.arrivals, h.arrivals, List.count_append, UInt32.ofNat_add, UInt32.add_assoc]
  diverted actor := by
    rw [h'.diverted, h.diverted, List.count_append, UInt32.ofNat_add, UInt32.add_assoc]
  part := by
    have hpart := h.part
    have hpart' := h'.part
    simp only [List.length_append]
    omega

theorem of_update {mb mb' : Mailbox P} {target : ActorId} (hmb : w.mailbox target = some mb)
    (hwf : mb'.Wf) (hk : mb'.kind = mb.kind)
    (hupdate : w'.mailbox = Function.update w.mailbox target (some mb'))
    (harrived : mb'.stats.arrivals = mb.stats.arrivals + 1)
    (hdiverted : mb'.stats.diverted = mb.stats.diverted + UInt32.ofNat diverted.length)
    (hat : diverted = [] ∨ diverted = [target]) : Arrives w w' [target] diverted where
  ready hready actor other hother := by
    rw [hupdate] at hother
    by_cases he : actor = target
    · subst he
      rw [Function.update_self] at hother
      cases hother
      refine ⟨hwf, ?_⟩
      have hfifo := (hready _ _ hmb).2
      unfold Mailbox.IsFifo at hfifo ⊢
      rwa [hk]
    · rw [Function.update_of_ne he] at hother
      exact hready actor other hother
  bound actor := by
    rw [hupdate]
    by_cases he : actor = target
    · subst he
      rw [Function.update_self, hmb]
      rfl
    · rw [Function.update_of_ne he]
  arrivals actor := by
    rw [arrivalsOf, arrivalsOf, hupdate]
    by_cases he : actor = target
    · subst he
      rw [Function.update_self, hmb, List.count_singleton_self]
      exact harrived
    · rw [Function.update_of_ne he, List.count_singleton, if_neg (by simpa using Ne.symm he)]
      simp
  diverted actor := by
    rw [divertedOf, divertedOf, hupdate]
    by_cases he : actor = target
    · subst he
      rw [Function.update_self, hmb]
      have hcount : diverted.count actor = diverted.length := by
        rcases hat with rfl | rfl <;> simp
      rw [hcount]
      exact hdiverted
    · have hcount : diverted.count actor = 0 := by
        rcases hat with rfl | rfl
        · rfl
        · rw [List.count_singleton, if_neg (by simpa using Ne.symm he)]
      rw [Function.update_of_ne he, hcount]
      simp
  part := by rcases hat with rfl | rfl <;> simp

/-- Equal mailboxes have the same number of arrivals and of diversions behind them. -/
theorem lengths {v : World P ω} (h : Arrives w w' targets diverted)
    (h' : Arrives v w'' targets' diverted') (hstart : v.mailbox = w.mailbox)
    (hend : w''.mailbox = w'.mailbox) (hshort : targets.length < 2 ^ 32)
    (hshort' : targets'.length < 2 ^ 32) :
    targets'.length = targets.length ∧ diverted'.length = diverted.length := by
  have hcancel (a : UInt32) {l l' : List ActorId} {actor : ActorId} (hl : l.length < 2 ^ 32)
      (hl' : l'.length < 2 ^ 32)
      (hsum : a + UInt32.ofNat (l'.count actor) = a + UInt32.ofNat (l.count actor)) :
      l'.count actor = l.count actor := by
    have hle : l.count actor ≤ l.length := List.count_le_length
    have hle' : l'.count actor ≤ l'.length := List.count_le_length
    have hword := congrArg UInt32.toNat ((UInt32.add_right_inj a).mp hsum)
    rw [UInt32.toNat_ofNat', UInt32.toNat_ofNat'] at hword
    rw [Nat.mod_eq_of_lt (by omega), Nat.mod_eq_of_lt (by omega)] at hword
    exact hword
  have hpart := h.part
  have hpart' := h'.part
  constructor
  · refine (List.perm_iff_count.mpr fun actor => ?_).length_eq
    have hsame : w''.arrivalsOf actor = w'.arrivalsOf actor := by rw [arrivalsOf, arrivalsOf, hend]
    have hfrom : v.arrivalsOf actor = w.arrivalsOf actor := by rw [arrivalsOf, arrivalsOf, hstart]
    rw [h'.arrivals, h.arrivals, hfrom] at hsame
    exact hcancel _ hshort hshort' hsame
  · refine (List.perm_iff_count.mpr fun actor => ?_).length_eq
    have hsame : w''.divertedOf actor = w'.divertedOf actor := by rw [divertedOf, divertedOf, hend]
    have hfrom : v.divertedOf actor = w.divertedOf actor := by rw [divertedOf, divertedOf, hstart]
    rw [h'.diverted, h.diverted, hfrom] at hsame
    exact hcancel _ (by omega) (by omega) hsame

end Arrives

end World

end EventFramework
