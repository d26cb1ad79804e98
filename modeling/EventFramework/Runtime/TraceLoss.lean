import EventFramework.Library.Machine
import EventFramework.Runtime.DeliveryTrace
import EventFramework.Runtime.RingHistories

/-!
# Lost trace records

The ring counts the records that it overwrites; the metric counts records that the ring refuses, and
the ring refuses none. The two counts part at the first delivery that finds the ring full.
-/

namespace EventFramework
set_option autoImplicit false

variable {P ω : Type}

namespace TraceRing

theorem drain_counts (maxRecords : Nat) : ∀ (ring : TraceRing),
    (ring.drain maxRecords).2.count ≤ ring.count ∧ (ring.drain maxRecords).2.dropped = ring.dropped := by
  induction maxRecords with
  | zero => exact fun _ => ⟨Nat.le_refl _, rfl⟩
  | succ maxRecords ih =>
    intro ring
    unfold drain
    split
    · exact ⟨Nat.le_refl _, rfl⟩
    · obtain ⟨hcount, hdropped⟩ := ih { ring with
        head := (ring.head + 1) % traceRingCapacity
        count := ring.count - 1 }
      exact ⟨hcount.trans (Nat.sub_le _ _), hdropped⟩

end TraceRing

/-- What happens to the trace ring of a graph. Between two such steps the rest of the system may
leave any world. -/
inductive TraceStep (P ω : Type) where
  | publish (msg : Msg P)
  | drain (maxRecords : Nat)
  | clear
  | work (world : World P ω)

namespace TraceStep

def step (ports : DeliveryPorts P ω) (graph : DeliveryGraph P ω) : TraceStep P ω → DeliveryGraph P ω
  | .publish msg => (Delivery.publish ports graph msg).2.graph
  | .drain maxRecords => { graph with traceRing := (graph.traceRing.drain maxRecords).2 }
  | .clear => { graph with traceRing := graph.traceRing.clear }
  | .work world => { graph with world := world }

def Fits (ports : DeliveryPorts P ω) (graph : DeliveryGraph P ω) : TraceStep P ω → Prop
  | .publish msg => Delivery.TraceFits ports graph msg
  | _ => True

end TraceStep

namespace DeliveryGraph

/-- The metric of the lost records is the number of records that the ring overwrote. -/
def LossCounted (graph : DeliveryGraph P ω) : Prop :=
  graph.metrics.values .traceDropped = graph.traceRing.dropped

instance (graph : DeliveryGraph P ω) : Decidable graph.LossCounted :=
  inferInstanceAs (Decidable (_ = _))

variable {ports : DeliveryPorts P ω} {graph : DeliveryGraph P ω}

theorem step_count_le (h : graph.traceRing.count ≤ traceRingCapacity) (op : TraceStep P ω) :
    (op.step ports graph).traceRing.count ≤ traceRingCapacity := by
  cases op with
  | publish msg => exact Delivery.publish_bounded ports msg h
  | drain maxRecords => exact (TraceRing.drain_counts maxRecords graph.traceRing).1.trans h
  | clear => exact Nat.zero_le _
  | work world => exact h

theorem step_lossCounted (hroutes : ports.routes.routes.length < 2 ^ 16)
    (hle : graph.traceRing.count ≤ traceRingCapacity) (h : graph.LossCounted) (op : TraceStep P ω) :
    (op.step ports graph).LossCounted ↔ op.Fits ports graph := by
  cases op with
  | publish msg =>
    obtain ⟨records, hlength, htraced, hfits⟩ := Delivery.publish_traced ports msg hle
    have hdropped := (TraceRing.recordAll_counts records _ hle).2
    rw [← htraced.traceRing] at hdropped
    have hsmall : graph.traceRing.count + records.length - traceRingCapacity < 2 ^ 32 := by
      have hcapacity : activeRouteTableCapacity < 2 ^ 16 := by decide
      have htrace : traceRingCapacity < 2 ^ 16 := by decide
      omega
    show (Delivery.publish ports graph msg).2.graph.LossCounted ↔ Delivery.TraceFits ports graph msg
    rw [hfits, LossCounted, hdropped, htraced.metric, h]
    constructor
    · intro heq
      have hzero := congrArg UInt32.toNat (UInt32.left_eq_add.mp heq)
      rw [UInt32.toNat_ofNat_of_lt' hsmall] at hzero
      exact Nat.sub_eq_zero_iff_le.mp hzero
    · intro hroom
      rw [Nat.sub_eq_zero_of_le hroom]
      exact (UInt32.add_zero _).symm
  | drain maxRecords =>
    refine iff_of_true ?_ trivial
    exact h.trans (TraceRing.drain_counts maxRecords graph.traceRing).2.symm
  | clear => exact iff_of_true h trivial
  | work world => exact iff_of_true h trivial

/-- In a run from an empty ring the metric counts the lost records throughout just when no delivery
finds the ring full. -/
theorem always_lossCounted_iff (callbacks : Callbacks P ω) (clock : Option (ω → Result × UInt64 × ω))
    (graph : DeliveryGraph P ω) (ops : List (TraceStep P ω)) :
    let ports : DeliveryPorts P ω := ⟨callbacks, clock, .generated⟩
    let start := { graph with metrics := {}, traceRing := {} }
    Machine.Always (TraceStep.step ports) LossCounted start ops ↔
      Machine.Each (TraceStep.step ports) (TraceStep.Fits ports) start ops := by
  intro ports start
  have hbounded : Machine.Always (TraceStep.step ports)
      (fun graph => graph.traceRing.count ≤ traceRingCapacity) start ops :=
    Machine.always_of_step (fun _ op h => step_count_le h op) (Nat.zero_le _) ops
  have hroutes : RouteTable.generated.routes.length < 2 ^ 16 := by decide
  have hstep (graph : DeliveryGraph P ω) (op : TraceStep P ω)
      (h : graph.traceRing.count ≤ traceRingCapacity ∧ graph.LossCounted) :
      ((TraceStep.step ports graph op).traceRing.count ≤ traceRingCapacity ∧
        (TraceStep.step ports graph op).LossCounted) ↔ TraceStep.Fits ports graph op := by
    rw [and_iff_right (step_count_le h.1 op)]
    exact step_lossCounted hroutes h.1 h.2 op
  have hiff := Machine.always_iff_each (fun graph : DeliveryGraph P ω =>
    graph.traceRing.count ≤ traceRingCapacity ∧ graph.LossCounted) (TraceStep.Fits ports) hstep
    start ops
  constructor
  · intro h
    exact (hiff.mp fun earlier hpre => ⟨hbounded earlier hpre, h earlier hpre⟩).2
  · intro h
    exact (hiff.mpr ⟨⟨Nat.zero_le _, rfl⟩, h⟩).imp fun _ => And.right

/-- One delivery more than the ring holds. -/
theorem not_always_lossCounted : ¬∀ (callbacks : Callbacks Unit Unit)
    (clock : Option (Unit → Result × UInt64 × Unit)) (graph : DeliveryGraph Unit Unit)
    (ops : List (TraceStep Unit Unit)),
    Machine.Always (TraceStep.step ⟨callbacks, clock, .generated⟩) LossCounted
      { graph with metrics := {}, traceRing := {} } ops := by
  intro h
  have hlast := (h Callbacks.none none ({ world := { registry := ActorRegistry.fresh, outside := () } })
    (List.replicate 33 (.publish { eventId := .bootStarted }))).last
  exact absurd hlast (by decide +kernel)

end DeliveryGraph

end EventFramework
