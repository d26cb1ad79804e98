import EventFramework.Core.Msg
import EventFramework.Core.RouteTable

/-!
# Publishing through the static routes

`ev_publish.c`. The delivery callback acts on a state `ω` of its own.
-/

namespace EventFramework
set_option autoImplicit false

variable {P ω : Type}

inductive PublishPolicy where
  | failFast
  | bestEffort
  deriving DecidableEq, Repr

structure PublishReport where
  matchedRoutes : Nat := 0
  attemptedDeliveries : Nat := 0
  deliveredCount : Nat := 0
  failedCount : Nat := 0
  firstFailedActor : ActorId := .none
  firstError : Result := .ok
  deriving DecidableEq, Repr

/-- `ev_delivery_fn_t`. -/
abbrev DeliveryFn (P ω : Type) := ActorId → Msg P → ω → Result × ω

namespace Publish

def count (report : PublishReport) (target : ActorId) (rc : Result) : PublishReport :=
  let attempted := { report with attemptedDeliveries := report.attemptedDeliveries + 1 }
  if rc = .ok then { attempted with deliveredCount := report.deliveredCount + 1 }
  else
    let failed := { attempted with failedCount := report.failedCount + 1 }
    if report.firstError = .ok then { failed with firstError := rc, firstFailedActor := target }
    else failed

/-- The loop over the routes of a span; `some rc` when it stopped at a failure. -/
def fanOut (deliver : DeliveryFn P ω) (policy : PublishPolicy) (msg : Msg P) :
    List Route → PublishReport → ω → Option Result × PublishReport × ω
  | [], report, w => (none, report, w)
  | route :: rest, report, w =>
    let out := deliver route.targetActor msg w
    let counted := count report route.targetActor out.1
    if out.1 ≠ .ok ∧ policy = .failFast then (some out.1, counted, out.2)
    else fanOut deliver policy msg rest counted out.2

/-- The result of a loop that visited every route. -/
def conclude (report : PublishReport) : Result :=
  if report.failedCount = 0 then .ok
  else if 0 < report.deliveredCount then .errPartial
  else report.firstError

end Publish

/-- `ev_publish_ex`. A message it refuses leaves the report unwritten. -/
def publishEx (table : RouteTable) (deliver : DeliveryFn P ω) (policy : PublishPolicy) (msg : Msg P)
    (w : ω) : Result × Option PublishReport × ω :=
  if msg.validate ≠ .ok then (msg.validate, none, w)
  else if msg.targetActor ≠ .none then (.errContract, none, w)
  else
    let matched := (table.spanForEvent msg.eventId).count
    if matched = 0 then
      (.errNotFound, some { matchedRoutes := matched, firstError := .errNotFound }, w)
    else
      let out := Publish.fanOut deliver policy msg (table.routesForEvent msg.eventId)
        { matchedRoutes := matched } w
      (out.1.getD (Publish.conclude out.2.1), some out.2.1, out.2.2)

/-- `ev_publish`, with the number of delivered messages. -/
def publish (table : RouteTable) (deliver : DeliveryFn P ω) (msg : Msg P) (w : ω) :
    Result × Nat × ω :=
  let out := publishEx table deliver .failFast msg w
  (out.1, (out.2.1.getD {}).deliveredCount, out.2.2)

end EventFramework
