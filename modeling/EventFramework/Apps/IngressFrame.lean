import EventFramework.Apps.SleepAdmission
import EventFramework.Runtime.DeliveryFrame
import EventFramework.Runtime.PollEnds

/-!
# What the ingress of the application keeps

The ingress of a poll changes the application, publishes, and calls the functions of the ports. What
all of these keep, the ingress keeps; `f` reads of `ε` what no function of the ports changes.
-/

namespace EventFramework
set_option autoImplicit false

variable {P ε α : Type}

namespace Msg

variable {ω : Type} {f : ω → α} {cb : Callbacks P ω}

theorem setInlinePayload_keeps (hcb : cb.Keeps f) (msg : Msg P) (data : Option (List UInt8)) (size : Nat)
    (w : ω) : f (msg.setInlinePayload cb data size w).2.2 = f w := by
  rcases msg.setInlinePayload_cases cb data size w with ⟨rc, _, hrefused⟩ | ⟨msg', _, htaken⟩
  · rw [hrefused]
  · rw [htaken]
    exact releasePayload_keeps hcb msg w

theorem setExternalPayload_keeps (hcb : cb.Keeps f) (msg : Msg P) (data : Option P) (size : Nat)
    (retainFn releaseFn lifecycleCtx : Option P) (w : ω) :
    f (msg.setExternalPayload cb data size retainFn releaseFn lifecycleCtx w).2.2 = f w := by
  rcases msg.setExternalPayload_cases cb data size retainFn releaseFn lifecycleCtx w with
    ⟨rc, _, hrefused⟩ | ⟨_, _, htaken⟩
  · rw [hrefused]
  · rw [htaken]
    exact releasePayload_keeps hcb msg w

end Msg

/-- The functions of the ports leave what `f` reads alone. -/
structure DemoPorts.Keeps (f : ε → α) (ports : DemoPorts P ε) : Prop where
  callbacks : ports.callbacks.Keeps f
  clock : ∀ e, f (ports.clock e).2.2 = f e
  irqPop : ∀ pop, ports.irq.bind IngressIrqPort.pop = some pop → ∀ e, f (pop e).2.2 = f e
  irqStats : ∀ getStats, ports.irq.bind IngressIrqPort.getStats = some getStats →
    ∀ e, f (getStats e).2.2 = f e
  irqWait : ∀ wait, ports.irq.bind IngressIrqPort.wait = some wait → ∀ e, f (wait e).2.2 = f e
  netPoll : ∀ poll, ports.net.bind IngressNetPort.pollIngress = some poll → ∀ e, f (poll e).2.2 = f e
  netStats : ∀ getStats, ports.net.bind IngressNetPort.getStats = some getStats →
    ∀ e, f (getStats e).2.2 = f e

namespace DemoApp

open DemoGraph

/-- A property of the graph that publications and changes of the application keep. -/
structure IngressFrame (f : ε → α) (ports : DemoPorts P ε) (Inv : DemoGraph P ε → Prop) : Prop where
  keeps : ports.Keeps f
  setApp : ∀ graph other, f other.env = f (app graph).env → Inv graph → Inv (graph.setApp other)
  publish : ∀ msg graph, Inv graph → Inv (graph.publish ports msg).2.2

namespace IngressFrame

variable {f : ε → α} {ports : DemoPorts P ε} {Inv : DemoGraph P ε → Prop} {graph : DemoGraph P ε}

theorem countStats (h : IngressFrame f ports Inv) (count : DemoAppStats → DemoAppStats)
    (hg : Inv graph) : Inv (DemoApp.countStats count graph) :=
  h.setApp _ _ rfl hg

theorem disposeMsg (h : IngressFrame f ports Inv) (msg : Msg P) (hg : Inv graph) :
    Inv (DemoApp.disposeMsg ports msg graph).2 :=
  h.setApp _ _ (Msg.dispose_keeps h.keeps.callbacks msg _) hg

theorem publishOwned (h : IngressFrame f ports Inv) (msg : Msg P) (hg : Inv graph) :
    Inv (DemoApp.publishOwned ports msg graph).2 := by
  have hcounted := h.countStats (recordDeliveryReport (graph.publish ports msg).2.1)
    (h.publish msg graph hg)
  have hdisposed {g : DemoGraph P ε} (hinv : Inv g) (rc : Result) :
      Inv (if rc = .ok ∧ (DemoApp.disposeMsg ports msg g).1 ≠ .ok then DemoApp.disposeMsg ports msg g
        else (rc, (DemoApp.disposeMsg ports msg g).2)).2 := by
    split
    · exact h.disposeMsg msg hinv
    · exact h.disposeMsg msg hinv
  unfold DemoApp.publishOwned
  refine hdisposed ?_ _
  split
  · exact h.countStats _ hcounted
  · exact hcounted

theorem publishSystemEvent (h : IngressFrame f ports Inv) (eventId : EventId) (payload : List UInt8)
    (hg : Inv graph) : Inv (DemoApp.publishSystemEvent ports eventId payload graph).2 := by
  have hfilled (msg : Msg P) : Inv (graph.setEnv (msg.setInlinePayload ports.callbacks (some payload)
      payload.length (app graph).env).2.2) :=
    h.setApp _ _ (Msg.setInlinePayload_keeps h.keeps.callbacks msg _ _ _) hg
  unfold DemoApp.publishSystemEvent
  simp only
  split
  · exact hg
  · split
    · split
      · exact h.disposeMsg _ (hfilled _)
      · exact h.publishOwned _ (hfilled _)
    · exact h.publishOwned _ hg

theorem releaseNetEventExternalPayload (h : IngressFrame f ports Inv) (event : NetIngressEvent P)
    (hg : Inv graph) : Inv (DemoApp.releaseNetEventExternalPayload ports event graph) := by
  unfold DemoApp.releaseNetEventExternalPayload
  simp only
  split
  · exact hg
  · split
    · exact h.setApp _ _ (h.keeps.callbacks.release ..) hg
    · exact hg

theorem publishNetEvent (h : IngressFrame f ports Inv) (event : NetIngressEvent P) (hg : Inv graph) :
    Inv (DemoApp.publishNetEvent ports event graph).2 := by
  have hinline (msg : Msg P) : Inv (publishInlineEvent ports event msg graph).2 := by
    have hfilled : Inv (graph.setEnv (msg.setInlinePayload ports.callbacks
        (some (inlinePayloadBytes event)) (inlinePayloadBytes event).length (app graph).env).2.2) :=
      h.setApp _ _ (Msg.setInlinePayload_keeps h.keeps.callbacks msg _ _ _) hg
    unfold publishInlineEvent
    split
    · exact h.releaseNetEventExternalPayload event (h.disposeMsg msg hg)
    · split
      · exact h.disposeMsg msg hg
      · simp only
        split
        · exact h.disposeMsg _ hfilled
        · exact h.publishOwned _ hfilled
  have hleased (msg : Msg P) : Inv (publishLeasedEvent ports event msg graph).2 := by
    have hfilled : Inv (graph.setEnv (msg.setExternalPayload ports.callbacks event.externalPayload.data
        event.externalPayload.size event.externalPayload.retainFn event.externalPayload.releaseFn
        event.externalPayload.lifecycleCtx (app graph).env).2.2) :=
      h.setApp _ _ (Msg.setExternalPayload_keeps h.keeps.callbacks msg ..) hg
    unfold publishLeasedEvent
    simp only
    split
    · exact h.releaseNetEventExternalPayload event (h.disposeMsg msg hg)
    · split
      · exact h.releaseNetEventExternalPayload event (h.disposeMsg _ hfilled)
      · exact h.publishOwned _ hfilled
  unfold DemoApp.publishNetEvent
  split
  · exact h.releaseNetEventExternalPayload event hg
  · simp only
    split
    · exact h.releaseNetEventExternalPayload event hg
    · split
      · exact hinline _
      · split
        · exact hleased _
        · exact h.publishOwned _ hg

theorem pop {β : Type} (h : IngressFrame f ports Inv) (act : ε → Result × β × ε)
    (hact : ∀ e, f (act e).2.2 = f e) (item : β → IngressItem P) (hg : Inv graph) :
    Inv (DemoApp.pop act item graph).2.2 := by
  have htaken : Inv (graph.setEnv (act (app graph).env).2.2) := h.setApp _ _ (hact _) hg
  unfold DemoApp.pop
  simp only
  split
  · exact h.setApp _ _ rfl htaken
  · exact htaken

theorem collectIrq (h : IngressFrame f ports Inv) (act : ε → Result × IrqSample × ε)
    (hact : ∀ e, f (act e).2.2 = f e) (n : Nat) :
    ∀ (budget : PollBudget) (graph : DemoGraph P ε), Inv graph →
      Inv (DemoApp.collectIrq ports act n budget graph).2.2 := by
  induction n with
  | zero => exact fun _ _ hg => hg
  | succ n ih =>
    intro budget graph hg
    have hpopped := h.pop act hact .irq hg
    unfold DemoApp.collectIrq
    split
    · simp only
      split
      · exact hpopped
      · split
        · exact hpopped
        · have hsent := h.publishSystemEvent .gpioIrq
            (irqSampleBytes (DemoApp.pop act .irq graph).2.1) hpopped
          split
          · exact hsent
          · exact ih _ _ hsent
    · exact hg

theorem collectNet (h : IngressFrame f ports Inv) (act : ε → Result × NetIngressEvent P × ε)
    (hact : ∀ e, f (act e).2.2 = f e) (n : Nat) :
    ∀ (budget : PollBudget) (graph : DemoGraph P ε), Inv graph →
      Inv (DemoApp.collectNet ports act n budget graph).2.2 := by
  induction n with
  | zero => exact fun _ _ hg => hg
  | succ n ih =>
    intro budget graph hg
    have hpopped := h.pop act hact .net hg
    unfold DemoApp.collectNet
    split
    · simp only
      split
      · exact hpopped
      · split
        · exact hpopped
        · have hsent := h.publishNetEvent (DemoApp.pop act .net graph).2.1
            (h.countStats (fun s => { s with netIngressDrained := s.netIngressDrained + 1 }) hpopped)
          split
          · exact hsent
          · exact ih _ _ hsent
    · exact hg

theorem collectIngress (h : IngressFrame f ports Inv) (budget : PollBudget) (hg : Inv graph) :
    Inv (DemoApp.collectIngress ports budget graph).2.2 := by
  have hirq : Inv (irqIngress ports budget graph).2.2 := by
    unfold irqIngress
    split
    · exact hg
    · rename_i act hact
      have hall := h.collectIrq act (h.keeps.irqPop act hact) appPollReservedIrqSamples budget graph hg
      simp only
      split
      · exact hall
      · split
        · exact hall
        · exact hall
  have hnet (budget : PollBudget) {g : DemoGraph P ε} (hinv : Inv g) :
      Inv (netIngress ports budget g).2.2 := by
    unfold netIngress
    split
    · exact hinv
    · rename_i act hact
      split
      · exact h.collectNet act (h.keeps.netPoll act hact) appPollReservedNetSamples budget g hinv
      · exact hinv
  unfold DemoApp.collectIngress
  split
  · exact hg
  · simp only
    split
    · exact hirq
    · split
      · exact hnet _ hirq
      · split
        · exact hnet _ hirq
        · exact hnet _ hirq

end IngressFrame

section Worlds

variable {f : ε → α} {ports : DemoPorts P ε} {Inv : World P (DemoOutside P ε) → Prop}

/-- A property of the world that deliveries keep and that depends on what `f` reads at most. -/
structure WorldFrame (f : ε → α) (ports : DemoPorts P ε) (Inv : World P (DemoOutside P ε) → Prop) :
    Prop where
  keeps : ports.Keeps f
  outside : ∀ {w w' : World P (DemoOutside P ε)}, Inv w → w'.registry = w.registry →
    w'.history = w.history → f w'.outside.2.env = f w.outside.2.env → Inv w'
  deliver : ∀ w target msg qos wantReport, Inv w →
    Inv (w.deliver ports.outsideCallbacks target msg qos wantReport).2.2
  deliverTimer : ∀ (timers : TimerService) (w : World P (DemoApp P ε)) target msg,
    Inv ⟨w.registry, (timers, w.outside), w.history⟩ →
    let w' := (w.deliver ports.appCallbacks target msg .critical false).2.2
    Inv ⟨w'.registry, (timers, w'.outside), w'.history⟩

namespace WorldFrame

theorem ingress (h : WorldFrame f ports Inv) : IngressFrame f ports fun graph => Inv graph.world where
  keeps := h.keeps
  setApp _ _ hview hg := h.outside hg rfl rfl hview
  publish msg graph hg := by
    have hframe : Delivery.PublishFrame ports.delivery msg Inv := by
      refine ⟨fun w target qos hw => h.deliver w _ _ qos true hw, fun now hnow w hw => ?_⟩
      obtain rfl := Option.some.inj hnow
      exact h.outside hw rfl rfl (h.keeps.clock _)
    have hpublished : Inv (Delivery.publish ports.delivery (deliveryGraph graph) msg).2.graph.world :=
      hframe.publish hg
    exact h.outside hpublished rfl rfl rfl

theorem collect (h : WorldFrame f ports Inv) (policy : RuntimeLoopPolicy)
    {s : LoopState P (DemoApp P ε)} (hs : Inv s.graph.world) :
    Inv (RuntimeLoop.collect policy (loopPorts ports) s).2.graph.world :=
  h.ingress.collectIngress _ hs

theorem publishTimers (h : WorldFrame f ports Inv) (policy : RuntimeLoopPolicy) (nowMs : UInt32)
    {s : LoopState P (DemoApp P ε)} (hs : Inv s.graph.world) :
    Inv (RuntimeLoop.publishTimers policy (loopPorts ports) nowMs s).2.graph.world := by
  unfold RuntimeLoop.publishTimers
  split
  · -- the timer table itself is no part of what a delivery sees
    have hstart : Inv (RuntimeGraph.ofParts s.graph.timers s.graph.rest).world :=
      h.outside hs rfl rfl rfl
    have hkept := TimerService.publishDue_context (timerDelivery ports)
      (fun rest => Inv (RuntimeGraph.ofParts s.graph.timers rest).world) (fun svc rest target msg hrest => by
        unfold timerDelivery
        split
        · exact hrest
        · exact h.deliverTimer s.graph.timers rest.2 target _ hrest)
      s.graph.timers nowMs policy.timerPublishBudget.toNat hstart
    exact h.outside hkept rfl rfl rfl
  · exact hs

theorem nowMs_keeps (h : ports.Keeps f) (e : ε) : f (ports.nowMs e).2.2 = f e := by
  unfold DemoPorts.nowMs
  simp only
  split
  · exact h.clock e
  · exact h.clock e

theorem clock (h : WorldFrame f ports Inv) {s : LoopState P (DemoApp P ε)} (hs : Inv s.graph.world) :
    Inv (RuntimeLoop.readClock (loopPorts ports) s).2.2.graph.world :=
  h.outside hs rfl rfl (nowMs_keeps h.keeps _)

end WorldFrame

end Worlds

end DemoApp

end EventFramework
