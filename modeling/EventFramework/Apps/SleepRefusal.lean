import EventFramework.Actors.PowerRefusals
import EventFramework.Adapters.RuntimeApp

/-!
# A refused sleep restarts the device

The power actor as the application binds it: its context beside everything else that lies behind the
ports, its hooks those of the application. A sleep that it refuses is a handler that fails, so the
poll fails and the main loop restarts the device.
-/

namespace EventFramework
set_option autoImplicit false

variable {P κ δ : Type}

/-- A function of a port, beside a context that it does not see. -/
def beside {β : Type} (act : δ → β × δ) (e : κ × δ) : β × κ × δ := ((act e.2).1, e.1, (act e.2).2)

def besidePair {R β : Type} (act : δ → R × β × δ) (e : κ × δ) : R × β × κ × δ :=
  ((act e.2).1, (act e.2).2.1, e.1, (act e.2).2.2)

namespace DemoPorts

/-- The ports beside the context of an actor. -/
def beside (κ : Type) (ports : DemoPorts P δ) : DemoPorts P (κ × δ) where
  callbacks :=
    { retain := fun fn ctx data size => EventFramework.beside (ports.callbacks.retain fn ctx data size)
      release := fun fn ctx data size e => (e.1, ports.callbacks.release fn ctx data size e.2) }
  clock := besidePair ports.clock
  irq := ports.irq.map fun irq =>
    { pop := irq.pop.map besidePair
      getStats := irq.getStats.map besidePair
      wait := irq.wait.map besidePair }
  net := ports.net.map fun net =>
    { pollIngress := net.pollIngress.map besidePair
      getStats := net.getStats.map besidePair }

theorem beside_keeps (ports : DemoPorts P δ) : (ports.beside κ).Keeps Prod.fst where
  callbacks := ⟨fun _ _ _ _ _ => rfl, fun _ _ _ _ _ => rfl⟩
  clock _ := rfl
  irqPop pop hpop e := by
    obtain ⟨irq, hirq, hsome⟩ := Option.bind_eq_some_iff.mp hpop
    obtain ⟨inner, _, rfl⟩ := Option.map_eq_some_iff.mp hirq
    obtain ⟨act, _, rfl⟩ := Option.map_eq_some_iff.mp hsome
    rfl
  irqStats getStats hstats e := by
    obtain ⟨irq, hirq, hsome⟩ := Option.bind_eq_some_iff.mp hstats
    obtain ⟨inner, _, rfl⟩ := Option.map_eq_some_iff.mp hirq
    obtain ⟨act, _, rfl⟩ := Option.map_eq_some_iff.mp hsome
    rfl
  irqWait wait hwait e := by
    obtain ⟨irq, hirq, hsome⟩ := Option.bind_eq_some_iff.mp hwait
    obtain ⟨inner, _, rfl⟩ := Option.map_eq_some_iff.mp hirq
    obtain ⟨act, _, rfl⟩ := Option.map_eq_some_iff.mp hsome
    rfl
  netPoll poll hpoll e := by
    obtain ⟨net, hnet, hsome⟩ := Option.bind_eq_some_iff.mp hpoll
    obtain ⟨inner, _, rfl⟩ := Option.map_eq_some_iff.mp hnet
    obtain ⟨act, _, rfl⟩ := Option.map_eq_some_iff.mp hsome
    rfl
  netStats getStats hstats e := by
    obtain ⟨net, hnet, hsome⟩ := Option.bind_eq_some_iff.mp hstats
    obtain ⟨inner, _, rfl⟩ := Option.map_eq_some_iff.mp hnet
    obtain ⟨act, _, rfl⟩ := Option.map_eq_some_iff.mp hsome
    rfl

end DemoPorts

namespace RuntimeAppPorts

def beside (κ : Type) (ports : RuntimeAppPorts P δ) : RuntimeAppPorts P (κ × δ) where
  toDemoPorts := ports.toDemoPorts.beside κ
  irqWait := ports.irqWait.map fun irqWait waitMs => EventFramework.beside (irqWait waitMs)
  delayMs := ports.delayMs.map fun delayMs waitMs e => (e.1, delayMs waitMs e.2)
  restart e := (e.1, ports.restart e.2)

theorem beside_keeps (ports : RuntimeAppPorts P δ) :
    RuntimeApp.Keeps Prod.fst (ports.beside κ) where
  demo := ports.toDemoPorts.beside_keeps
  irqWait irqWait hirq waitMs e := by
    obtain ⟨inner, _, rfl⟩ := Option.map_eq_some_iff.mp hirq
    rfl
  delayMs delayMs hdelay waitMs e := by
    obtain ⟨inner, _, rfl⟩ := Option.map_eq_some_iff.mp hdelay
    rfl
  restart _ := rfl

end RuntimeAppPorts

/-- What `ev_demo_board_wiring.c` gives to the power actor, and what is read at an external payload. -/
structure PowerWiring (P δ : Type) where
  system : Option (SystemPort δ)
  log : Option (LogPort δ)
  logTag : Option String
  hostBuild : Bool
  memory : P → Nat → UInt8

namespace PowerWiring

def outside (act : δ → Result × δ) (w : DemoOutside P (PowerActor × δ)) :
    Result × DemoOutside P (PowerActor × δ) :=
  DemoPorts.onOutside (beside act) w

/-- The ports and hooks of the actor while the mailboxes are those of `registry`. -/
def ports (wiring : PowerWiring P δ) (demo : DemoPorts P δ) (registry : ActorRegistry P) :
    PowerPorts (DemoOutside P (PowerActor × δ)) where
  system := wiring.system.map fun system =>
    { prepareForSleep := system.prepareForSleep.map fun act durationUs => outside (act durationUs)
      cancelSleepPrepare := system.cancelSleepPrepare.map outside
      deepSleep := system.deepSleep.map fun act durationUs => outside (act durationUs) }
  log := wiring.log.map fun log =>
    { write := log.write.map fun act tag message => outside (act tag message)
      flush := log.flush.map outside }
  logTag := wiring.logTag
  quiescenceGuard := some fun _ w =>
    let out := DemoApp.sleepQuiescenceGuard (demo.beside PowerActor) registry w
    ((out.1, out.2.1), out.2.2)
  sleepArm := some fun _ w =>
    let out := DemoApp.sleepArm (demo.beside PowerActor) registry w
    ((out.1, out.2.1), out.2.2)
  sleepDisarm := some DemoApp.sleepDisarm
  hostBuild := wiring.hostBuild

def inbound (wiring : PowerWiring P δ) (msg : Msg P) : Inbound where
  eventId := msg.eventId
  payload := match msg.storage with
    | .inline => some msg.inlineMemory
    | .external => msg.external.data.map wiring.memory
    | .none => none
  payloadSize := msg.payloadSize

def handled (wiring : PowerWiring P δ) (demo : DemoPorts P δ) (registry : ActorRegistry P)
    (msg : Msg P) (w : DemoOutside P (PowerActor × δ)) : Result × DemoOutside P (PowerActor × δ) :=
  let out := PowerActor.handle (wiring.ports demo registry)
    (⟨w.2.env.1, ⟨w, []⟩⟩ : PowerActorState P (DemoOutside P (PowerActor × δ))) (wiring.inbound msg)
  let w := out.2.world.outside
  (out.1, w.1, { w.2 with env := (out.2.ctx, w.2.env.2) })

/-- `ev_power_actor_handle` as a handler of the pumps. -/
def handler (wiring : PowerWiring P δ) (demo : DemoPorts P δ) (msg : Msg P) :
    HandlerProg P (DemoOutside P (PowerActor × δ)) :=
  .inspect fun registry => .outside id fun w =>
    let out := wiring.handled demo registry msg w
    .outside (fun _ => out.2) fun _ => .ret out.1

/-- The functions behind the actor succeed, or fail for good. -/
structure Decisive (wiring : PowerWiring P δ) (demo : DemoPorts P δ) : Prop where
  clock : ∀ e, (demo.clock e).1.Decisive
  irqStats : ∀ getStats, demo.irq.bind IngressIrqPort.getStats = some getStats →
    ∀ e, (getStats e).1.Decisive
  irqWait : ∀ wait, demo.irq.bind IngressIrqPort.wait = some wait → ∀ e, (wait e).1.Decisive
  flush : ∀ flush, wiring.log.bind LogPort.flush = some flush → ∀ e, (flush e).1.Decisive
  prepareForSleep : ∀ prepare, wiring.system.bind SystemPort.prepareForSleep = some prepare →
    ∀ durationUs e, (prepare durationUs e).1.Decisive
  deepSleep : ∀ deepSleep, wiring.system.bind SystemPort.deepSleep = some deepSleep →
    ∀ durationUs e, (deepSleep durationUs e).1.Decisive

section Guard

variable {wiring : PowerWiring P δ} {demo : DemoPorts P δ}

theorem Decisive.pendingIrqSamples (h : wiring.Decisive demo) (e : PowerActor × δ) :
    (DemoApp.pendingIrqSamples (demo.beside PowerActor) e).1.Decisive := by
  unfold DemoApp.pendingIrqSamples
  split
  · rename_i getStats hstats
    obtain ⟨irq, hirq, hsome⟩ := Option.bind_eq_some_iff.mp hstats
    obtain ⟨inner, hinner, rfl⟩ := Option.map_eq_some_iff.mp hirq
    obtain ⟨act, hact, rfl⟩ := Option.map_eq_some_iff.mp hsome
    have hdecisive := h.irqStats act (Option.bind_eq_some_iff.mpr ⟨inner, hinner, hact⟩) e.2
    simp only
    split
    · exact hdecisive
    · exact hdecisive
  · split
    · rename_i wait hwait
      obtain ⟨irq, hirq, hsome⟩ := Option.bind_eq_some_iff.mp hwait
      obtain ⟨inner, hinner, rfl⟩ := Option.map_eq_some_iff.mp hirq
      obtain ⟨act, hact, rfl⟩ := Option.map_eq_some_iff.mp hsome
      have hdecisive := h.irqWait act (Option.bind_eq_some_iff.mpr ⟨inner, hinner, hact⟩) e.2
      simp only
      split
      · exact hdecisive
      · exact Result.decisive_ok
    · exact Result.decisive_ok

theorem Decisive.sleepQuiescenceGuard (h : wiring.Decisive demo) (registry : ActorRegistry P)
    (w : DemoOutside P (PowerActor × δ)) :
    (DemoApp.sleepQuiescenceGuard (demo.beside PowerActor) registry w).1.Decisive := by
  have hirq (w : DemoOutside P (PowerActor × δ)) := h.pendingIrqSamples w.2.env
  have hclock (e : PowerActor × δ) : ((demo.beside PowerActor).nowMs e).1.Decisive := by
    unfold DemoPorts.nowMs
    simp only
    split
    · exact h.clock e.2
    · exact Result.decisive_ok
  unfold DemoApp.sleepQuiescenceGuard
  simp only
  split
  · exact hirq w
  · split
    · exact hclock _
    · split
      · exact Result.decisive_errState
      · exact Result.decisive_ok

theorem Decisive.ports (h : wiring.Decisive demo) (registry : ActorRegistry P) :
    (wiring.ports demo registry).Decisive where
  flush flush hflush w := by
    obtain ⟨log, hlog, hsome⟩ := Option.bind_eq_some_iff.mp hflush
    obtain ⟨inner, hinner, rfl⟩ := Option.map_eq_some_iff.mp hlog
    obtain ⟨act, hact, rfl⟩ := Option.map_eq_some_iff.mp hsome
    exact h.flush act (Option.bind_eq_some_iff.mpr ⟨inner, hinner, hact⟩) w.2.env.2
  quiescenceGuard quiescenceGuard hguard durationUs w := by
    obtain rfl := Option.some.inj hguard
    exact h.sleepQuiescenceGuard registry w
  sleepArm sleepArm harm durationUs w := by
    obtain rfl := Option.some.inj harm
    unfold DemoApp.sleepArm
    simp only
    split
    · exact Result.decisive_errState
    · split
      · exact h.sleepQuiescenceGuard registry _
      · exact Result.decisive_ok
  prepareForSleep prepare hprepare durationUs w := by
    obtain ⟨system, hsystem, hsome⟩ := Option.bind_eq_some_iff.mp hprepare
    obtain ⟨inner, hinner, rfl⟩ := Option.map_eq_some_iff.mp hsystem
    obtain ⟨act, hact, rfl⟩ := Option.map_eq_some_iff.mp hsome
    exact h.prepareForSleep act (Option.bind_eq_some_iff.mpr ⟨inner, hinner, hact⟩) durationUs w.2.env.2
  deepSleep deepSleep hdeep durationUs w := by
    obtain ⟨system, hsystem, hsome⟩ := Option.bind_eq_some_iff.mp hdeep
    obtain ⟨inner, hinner, rfl⟩ := Option.map_eq_some_iff.mp hsystem
    obtain ⟨act, hact, rfl⟩ := Option.map_eq_some_iff.mp hsome
    exact h.deepSleep act (Option.bind_eq_some_iff.mpr ⟨inner, hinner, hact⟩) durationUs w.2.env.2

end Guard

/-- The handlers of the application: that of the power actor, and any for the others. -/
def handlers (wiring : PowerWiring P δ) (demo : DemoPorts P δ)
    (others : ActorId → Msg P → HandlerProg P (DemoOutside P (PowerActor × δ))) (actor : ActorId)
    (msg : Msg P) : HandlerProg P (DemoOutside P (PowerActor × δ)) :=
  if actor = .power then wiring.handler demo msg else others actor msg

end PowerWiring

def refusedSleeps (w : DemoOutside P (PowerActor × δ)) : UInt32 × UInt32 := w.2.env.1.refused

namespace PowerWiring

variable {wiring : PowerWiring P δ} {demo : DemoPorts P δ}
  {others : ActorId → Msg P → HandlerProg P (DemoOutside P (PowerActor × δ))}

theorem outsideCallbacks_keeps (demo : DemoPorts P δ) : (demo.beside PowerActor).outsideCallbacks.Keeps
    (refusedSleeps (P := P) (δ := δ)) where
  retain _ _ _ _ _ := rfl
  release _ _ _ _ _ := rfl

/-- Until a handler stops the pumps no sleep is refused. -/
theorem stopFrame (hwiring : wiring.Decisive demo)
    (hothers : ∀ actor msg, actor ≠ .power → (others actor msg).Keeps (refusedSleeps (P := P))) :
    StopFrame (DemoApp.program (demo.beside PowerActor) (wiring.handlers demo others))
      (SameOutside refusedSleeps) (fun _ _ _ => True) where
  quiet h := congrArg refusedSleeps h.1
  trans h h' := h'.trans h
  later _ _ := trivial
  settled _ _ := trivial
  handle actor msg w := by
    have hdispose := Msg.dispose_keeps (outsideCallbacks_keeps demo) msg
    by_cases hactor : actor = .power
    · subst hactor
      have hrun : ((wiring.handlers demo others .power msg).exec (demo.beside PowerActor).outsideCallbacks
          (w.note (.invoked .power msg))) =
          ((wiring.handled demo w.registry msg w.outside).1,
            { w.note (.invoked .power msg) with
              outside := (wiring.handled demo w.registry msg w.outside).2 }) := rfl
      obtain ⟨hok, hfailed⟩ := PowerActor.handle_answered (hwiring.ports w.registry)
        (⟨w.outside.2.env.1, ⟨w.outside, []⟩⟩ : PowerActorState P _) (wiring.inbound msg)
      unfold EventFramework.handle DemoApp.program
      simp only
      rw [hrun]
      by_cases hrc : (wiring.handled demo w.registry msg w.outside).1 = .ok
      · exact Or.inl ((hdispose _).trans (hok hrc))
      · exact Or.inr ⟨hfailed hrc, trivial⟩
    · left
      have hkeeps : (wiring.handlers demo others actor msg).Keeps (refusedSleeps (P := P)) := by
        unfold handlers
        rw [if_neg hactor]
        exact hothers actor msg hactor
      have hrun := SameOutside.exec (outsideCallbacks_keeps demo) hkeeps (w.note (.invoked actor msg))
      exact (hdispose _).trans hrun

theorem pollStops (hwiring : wiring.Decisive demo)
    (hothers : ∀ actor msg, actor ≠ .power → (others actor msg).Keeps (refusedSleeps (P := P))) :
    DemoApp.PollStops Prod.fst (demo.beside PowerActor) (wiring.handlers demo others)
      (SameOutside refusedSleeps) (fun _ _ _ => True) where
  pumps := stopFrame hwiring hothers
  world w := by
    refine ⟨demo.beside_keeps, fun hw _ _ hview => ?_, fun w' target msg qos wantReport hw => ?_, ?_⟩
    · exact (congrArg PowerActor.refused hview).trans hw
    · exact (SameOutside.deliver (outsideCallbacks_keeps demo) w' target msg qos wantReport).trans hw
    · intro timers w' target msg hw
      have happ : (demo.beside PowerActor).appCallbacks.Keeps
          (fun app : DemoApp P (PowerActor × δ) => app.env.1.refused) :=
        ⟨fun _ _ _ _ _ => rfl, fun _ _ _ _ _ => rfl⟩
      exact (SameOutside.deliver happ w' target msg .critical false).trans hw
  outside _ _ _ _ := trivial

end PowerWiring

namespace RuntimeApp

/-- While the device runs it has refused no sleep since the main loop began: each refusal, for whatever
reason, is a handler that fails, and the loop restarts the device. -/
theorem refused_sleep_restarts (ports : RuntimeAppPorts P δ) (wiring : PowerWiring P δ)
    (hwiring : wiring.Decisive ports.toDemoPorts)
    (others : ActorId → Msg P → HandlerProg P (DemoOutside P (PowerActor × δ)))
    (hothers : ∀ actor msg, actor ≠ .power → (others actor msg).Keeps (refusedSleeps (P := P)))
    (graph : DemoGraph P (PowerActor × δ)) (interrupts : List (δ → δ)) :
    Machine.Always (step (ports.beside PowerActor) (wiring.handlers ports.toDemoPorts others))
      (fun s => s.phase = .running →
        refusedSleeps s.graph.world.outside = refusedSleeps graph.world.outside)
      { graph := graph } (interrupts.map fun interrupt e => (e.1, interrupt e.2)) := by
  have heach : Machine.Each (step (ports.beside PowerActor) (wiring.handlers ports.toDemoPorts others))
      (fun _ interrupt => ∀ e, (interrupt e).1 = e.1) { graph := graph }
      (interrupts.map fun interrupt e => (e.1, interrupt e.2)) := by
    intro earlier interrupt hpre e
    have hmem := hpre.subset (List.mem_append_right earlier (List.mem_singleton_self interrupt))
    obtain ⟨inner, _, rfl⟩ := List.mem_map.mp hmem
    rfl
  have halways := Machine.always_of_each _
    (Restarts (SameOutside refusedSleeps) (fun _ _ _ => True) graph.world)
    (fun s interrupt h hinterrupt => h.step (PowerWiring.pollStops hwiring hothers) ports.beside_keeps
      hinterrupt) (s := { graph := graph }) rfl heach
  refine halways.imp fun s h hrunning => ?_
  unfold Restarts at h
  rw [hrunning] at h
  exact h

section Converting

/-- Ports without a log, and a platform that enters deep sleep. -/
def plainWiring : PowerWiring Unit (UInt32 × UInt32) where
  system := some ⟨none, none, some fun _ e => (.ok, e)⟩
  log := none
  logTag := none
  hostBuild := true
  memory _ _ := 0

theorem plainWiring_decisive : plainWiring.Decisive pausingPorts.toDemoPorts where
  clock _ := Result.decisive_ok
  irqStats getStats hstats e := by
    obtain rfl := Option.some.inj hstats
    exact Result.decisive_ok
  irqWait wait hwait := by cases hwait
  flush flush hflush := by cases hflush
  prepareForSleep prepare hprepare := by cases hprepare
  deepSleep deepSleep hdeep durationUs e := by
    obtain rfl := Option.some.inj hdeep
    exact Result.decisive_ok

def sleepCommand : Msg Unit :=
  { Msg.blank with
    eventId := .sysGotoSleepCmd, sourceActor := .command, targetActor := .power
    inlineBytes := wordBytes 1000, storage := .inline, payloadSize := 4 }

/-- The application after its boot: the temperature sensor converts, a command to sleep is queued. -/
def convertingGraph : DemoGraph Unit (PowerActor × UInt32 × UInt32) where
  scheduler := ⟨SystemPump.init.bindAll [.init .fastLoop], 0, 0, 0⟩
  world :=
    { registry := ActorRegistry.fresh.setRuntime
        ⟨.power, ((Mailbox.fresh .fifo8).push Callbacks.none sleepCommand ()).2.1, {}⟩
      outside := (TimerService.init,
        { (DemoApp.bootedGraph 0).world.outside.2 with
          ds18b20ConversionPending := true
          ds18b20_enabled := fun _ => rfl
          env := ({}, 0, 0) })
      history := [] }

/-- The sleep is refused because of the conversion, and the device restarts. -/
theorem refused_sleep_restarts_converting :
    let main := step (pausingPorts.beside PowerActor)
      (plainWiring.handlers pausingPorts.toDemoPorts fun _ _ => .ret .ok)
    let ended := main { graph := convertingGraph } fun e => (e.1, id e.2)
    ended.phase = .restarted .errState ∧ refusedSleeps ended.graph.world.outside = (1, 0) ∧
      Machine.Always main (fun s => s.phase = .running →
        refusedSleeps s.graph.world.outside = refusedSleeps convertingGraph.world.outside)
        { graph := convertingGraph } ([id].map fun interrupt e => (e.1, interrupt e.2)) :=
  ⟨by decide, by decide, refused_sleep_restarts pausingPorts plainWiring plainWiring_decisive
    (fun _ _ => .ret .ok) (fun _ _ _ => trivial) convertingGraph [id]⟩

end Converting

end RuntimeApp

end EventFramework
