import EventFramework.Actors.DevicePorts
import EventFramework.Library.Agreement

/-!
# Actors over agreeing ports

An actor over ports that agree with those of another world handles its messages alike: the same
context, the same history, and outsides that stay related.
-/

namespace EventFramework
set_option autoImplicit false

open Agreement

variable {A P C R ω ω' : Type}

structure ActorPort.Agree (port : ActorPort P ω) (spec : ActorPort P ω') (Rel : ω → ω' → Prop)
    (Trusted : ω → Prop) : Prop where
  routes_eq : port.routes = spec.routes
  deliver : ∀ target msg, Agrees Rel Trusted (port.deliver target msg) (spec.deliver target msg)

section Publishing

variable {Rel : ω → ω' → Prop} {Trusted : ω → Prop} {deliver : DeliveryFn P ω}
  {deliver' : DeliveryFn P ω'}

/-- A delivery function as it is written, with its report beside the state. -/
def besideReport {α β γ : Type} (out : α × β × γ) : (α × β) × γ := ((out.1, out.2.1), out.2.2)

theorem Publish.fanOut_agrees
    (h : ∀ target msg, Agrees Rel Trusted (deliver target msg) (deliver' target msg))
    (policy : PublishPolicy) (msg : Msg P) (routes : List Route) : ∀ report : PublishReport,
      Agrees Rel Trusted (fun w => besideReport (fanOut deliver policy msg routes report w))
        (fun w => besideReport (fanOut deliver' policy msg routes report w)) := by
  induction routes with
  | nil => exact fun report => .pure (none, report)
  | cons route routes ih =>
    intro report
    have hstep := (h route.targetActor msg).bind fun rc =>
      Agrees.ite (c := rc ≠ .ok ∧ policy = .failFast)
        (.pure (some rc, count report route.targetActor rc)) (ih (count report route.targetActor rc))
    have hunfold {ω : Type} (deliver : DeliveryFn P ω) (w : ω) :
        besideReport (fanOut deliver policy msg (route :: routes) report w) =
          if (deliver route.targetActor msg w).1 ≠ .ok ∧ policy = .failFast then
            ((some (deliver route.targetActor msg w).1,
              count report route.targetActor (deliver route.targetActor msg w).1),
              (deliver route.targetActor msg w).2)
          else besideReport (fanOut deliver policy msg routes
            (count report route.targetActor (deliver route.targetActor msg w).1)
            (deliver route.targetActor msg w).2) := by
      simp only [fanOut]
      split <;> rfl
    simp only [hunfold]
    exact hstep

theorem publish_agrees
    (h : ∀ target msg, Agrees Rel Trusted (deliver target msg) (deliver' target msg))
    (table : RouteTable) (msg : Msg P) :
    Agrees Rel Trusted (fun w => besideReport (publish table deliver msg w))
      (fun w => besideReport (publish table deliver' msg w)) := by
  have hunfold {ω : Type} (deliver : DeliveryFn P ω) (w : ω) :
      besideReport (publish table deliver msg w) =
        if msg.validate ≠ .ok then ((msg.validate, 0), w)
        else if msg.targetActor ≠ .none then ((.errContract, 0), w)
        else if (table.spanForEvent msg.eventId).count = 0 then ((.errNotFound, 0), w)
        else
          let out := besideReport (Publish.fanOut deliver .failFast msg
            (table.routesForEvent msg.eventId)
            { matchedRoutes := (table.spanForEvent msg.eventId).count } w)
          ((out.1.1.getD (Publish.conclude out.1.2), out.1.2.deliveredCount), out.2) := by
    unfold publish publishEx
    simp only
    split
    · rfl
    · split
      · rfl
      · split <;> rfl
  simp only [hunfold]
  refine .ite (.pure _) (.ite (.pure _) (.ite (.pure _) ?_))
  exact (Publish.fanOut_agrees h .failFast msg _ _).map fun out =>
    (out.1.getD (Publish.conclude out.2), out.2.deliveredCount)

end Publishing

namespace Running

/-- The same actor in two worlds. -/
structure Alike (Rel : ω → ω' → Prop) (s : Running A P C ω) (t : Running A P C ω') : Prop where
  ctx_eq : s.ctx = t.ctx
  history_eq : s.world.history = t.world.history
  outside : Rel s.world.outside t.world.outside

abbrev Agree (Rel : ω → ω' → Prop) (Trusted : ω → Prop) (f : Running A P C ω → R × Running A P C ω)
    (g : Running A P C ω' → R × Running A P C ω') : Prop :=
  Agrees (Alike Rel) (fun s => Trusted s.world.outside) f g

variable {Rel : ω → ω' → Prop} {Trusted : ω → Prop}

theorem agree_call {act : ω → R × ω} {act' : ω' → R × ω'} (h : Agrees Rel Trusted act act')
    (record : R → C) : Agree (A := A) (P := P) Rel Trusted (fun s => s.call act record)
      (fun t => t.call act' record) where
  follow s t halike htrusted := by
    obtain ⟨hvalue, houtside⟩ := h.follow _ _ halike.outside htrusted
    refine ⟨hvalue, halike.ctx_eq, ?_, houtside⟩
    unfold call
    simp only
    rw [halike.history_eq, hvalue]
  earlier s htrusted := h.earlier _ htrusted

theorem agree_setCtx (value : R) (change : A → A) :
    Agree (P := P) (C := C) Rel Trusted (fun s => (value, s.setCtx (change s.ctx)))
      (fun t => (value, t.setCtx (change t.ctx))) :=
  .update value (fun _ _ halike => ⟨congrArg change halike.ctx_eq, halike.history_eq, halike.outside⟩)
    fun _ htrusted => htrusted

theorem agree_note (value : R) (event : ActorEvent P C) :
    Agree (A := A) Rel Trusted (fun s => (value, s.note event)) (fun t => (value, t.note event)) :=
  .update value
    (fun _ _ halike => ⟨halike.ctx_eq, congrArg (· ++ [event]) halike.history_eq, halike.outside⟩)
    fun _ htrusted => htrusted

/-- A computation that looks at the context first. -/
theorem agree_ctx {f : A → Running A P C ω → R × Running A P C ω}
    {g : A → Running A P C ω' → R × Running A P C ω'} (h : ∀ ctx, Agree Rel Trusted (f ctx) (g ctx)) :
    Agree Rel Trusted (fun s => f s.ctx s) (fun t => g t.ctx t) :=
  .read (fun _ _ halike => halike.ctx_eq) h

theorem agree_publish {port : ActorPort P ω} {spec : ActorPort P ω'} (h : port.Agree spec Rel Trusted)
    (msg : Msg P) : Agree (A := A) (C := C) Rel Trusted
      (fun s => ((s.world.publish port msg).1, { s with world := (s.world.publish port msg).2 }))
      (fun t => ((t.world.publish spec msg).1, { t with world := (t.world.publish spec msg).2 })) where
  follow s t halike htrusted := by
    obtain ⟨hvalue, houtside⟩ := (publish_agrees h.deliver port.routes msg).follow _ _ halike.outside
      htrusted
    have hresult : (s.world.publish port msg).1 = (t.world.publish spec msg).1 := by
      unfold ActorWorld.publish
      rw [← h.routes_eq]
      exact congrArg Prod.fst hvalue
    refine ⟨hresult, halike.ctx_eq, ?_, ?_⟩
    · change s.world.history ++ [.published msg (s.world.publish port msg).1] =
        t.world.history ++ [.published msg (t.world.publish spec msg).1]
      rw [halike.history_eq, hresult]
    · unfold ActorWorld.publish
      rw [← h.routes_eq]
      exact houtside
  earlier s htrusted := (publish_agrees h.deliver port.routes msg).earlier _ htrusted

theorem agree_publishEvent {port : ActorPort P ω} {spec : ActorPort P ω'}
    (h : port.Agree spec Rel Trusted) (eventId : EventId) (source : ActorId)
    (payload : Option (List UInt8))
    (hpublishable : ActorWorld.publishable eventId source (payload.map List.length) = true) :
    Agree (A := A) (C := C) Rel Trusted (fun s => s.publishEvent port eventId source payload)
      (fun t => t.publishEvent spec eventId source payload) := by
  have hunfold {ω : Type} (port : ActorPort P ω) (s : Running A P C ω) :
      s.publishEvent port eventId source payload =
        ((s.world.publish port (ActorWorld.outgoing eventId source payload)).1,
          { s with world := (s.world.publish port
            (ActorWorld.outgoing eventId source payload)).2 }) := by
    rw [publishEvent, ActorWorld.publishEvent_eq port hpublishable]
  simp only [hunfold]
  exact agree_publish h _

theorem agree_step {handle : Running A P C ω → Inbound → Result × Running A P C ω}
    {handle' : Running A P C ω' → Inbound → Result × Running A P C ω'}
    (h : ∀ msg, Agree Rel Trusted (fun s => handle s msg) (fun t => handle' t msg)) (msg : Inbound) :
    Agree Rel Trusted (fun s => ((), step handle s msg)) (fun t => ((), step handle' t msg)) :=
  (agree_note () (.received msg)).bind fun _ => (h msg).bind fun rc => agree_note () (.returned rc)

end Running

end EventFramework
