import EventFramework.Core.Publish
import EventFramework.Runtime.DeliveryService

/-!
# The publish port of an actor

`ev_actor_publish_port.c`, and of `ev_runtime_graph.c` the send it rests on. Device actors
publish with `ev_publish` and the adapter of this port as the delivery callback.
-/

namespace EventFramework
set_option autoImplicit false

variable {P ω : Type}

structure ActorPublishPortStats where
  sendsAttempted : UInt32 := 0
  sendsOk : UInt32 := 0
  failed : UInt32 := 0
  optionalDisabledRoutes : UInt32 := 0
  optionalDisabledWatchdogRoutes : UInt32 := 0
  optionalDisabledNetworkRoutes : UInt32 := 0
  deriving DecidableEq, Repr

structure ActorPublishPort (P ω : Type) where
  graph : DeliveryGraph P ω
  sourceActor : ActorId
  stats : ActorPublishPortStats := {}

/-- `ev_runtime_graph_send`: the registry delivers with the QoS of a critical route. -/
def DeliveryGraph.send (cb : Callbacks P ω) (graph : DeliveryGraph P ω) (target : ActorId)
    (msg : Msg P) : Result × DeliveryGraph P ω :=
  if !target.isValid then (.errOutOfRange, graph)
  else
    let out := graph.world.deliver cb target { msg with targetActor := target } .critical false
    (out.1, { graph with world := out.2.2 })

namespace ActorPublishPort

/-- `ev_actor_publish_find_route`. -/
def findRoute (graph : DeliveryGraph P ω) (eventId : EventId) (target : ActorId) :
    Option ActiveRoute :=
  (graph.activeRoutes.entriesForEvent eventId).find? fun entry =>
    entry.route.eventId == eventId && entry.route.targetActor == target

/-- The counts of a route whose actor the board does not have. -/
def skip (port : ActorPublishPort P ω) (target : ActorId) : ActorPublishPort P ω :=
  let stats := port.stats
  { port with
    stats := { stats with
      optionalDisabledRoutes := stats.optionalDisabledRoutes + 1
      optionalDisabledWatchdogRoutes :=
        if target = .watchdog then stats.optionalDisabledWatchdogRoutes + 1
        else stats.optionalDisabledWatchdogRoutes
      optionalDisabledNetworkRoutes :=
        if target = .network then stats.optionalDisabledNetworkRoutes + 1
        else stats.optionalDisabledNetworkRoutes }
    graph := { port.graph with toRouteGraph := port.graph.toRouteGraph.count .routeDisabledSkipped } }

def fail (port : ActorPublishPort P ω) : ActorPublishPort P ω :=
  { port with stats := { port.stats with failed := port.stats.failed + 1 } }

/-- The end of `ev_actor_send`, past the look at the route. -/
def forward (cb : Callbacks P ω) (port : ActorPublishPort P ω) (target : ActorId) (msg : Msg P) :
    Result × ActorPublishPort P ω :=
  let out := port.graph.send cb target msg
  let port := { port with graph := out.2 }
  if out.1 = .ok then
    (out.1, { port with stats := { port.stats with sendsOk := port.stats.sendsOk + 1 } })
  else (out.1, port.fail)

/-- `ev_actor_send`. -/
def send (cb : Callbacks P ω) (port : ActorPublishPort P ω) (target : ActorId) (msg : Msg P) :
    Result × ActorPublishPort P ω :=
  if !target.isValid then (.errOutOfRange, port)
  else
    let port := { port with
      stats := { port.stats with sendsAttempted := port.stats.sendsAttempted + 1 } }
    match findRoute port.graph msg.eventId target with
    | none => port.forward cb target msg
    | some entry =>
      if entry.state = .optionalDisabled then (.ok, port.skip target)
      else if entry.state ≠ .enabled then
        (if entry.reason ≠ .ok then entry.reason else .errState, port.fail)
      else port.forward cb target msg

/-- `ev_actor_publish_port_delivery_adapter`. -/
def deliveryAdapter (cb : Callbacks P ω) : DeliveryFn P (ActorPublishPort P ω) :=
  fun target msg port => port.send cb target msg

end ActorPublishPort

end EventFramework
