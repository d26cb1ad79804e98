import EventFramework.Runtime.PublishWalks

/-!
# Where the two walks agree

They leave the same mailboxes and succeed together exactly when no message that reaches a
droppable route is dropped, merged or refused there.
-/

namespace EventFramework
set_option autoImplicit false

variable {P ω κ : Type}

theorem Msg.validate_toTarget {msg : Msg P} {actor : ActorId} (h : msg.validate = .ok)
    (hactor : actor.isValid = true) : ({ msg with targetActor := actor } : Msg P).validate = .ok := by
  obtain ⟨hcookie, hdisposed⟩ := Msg.validate_live h
  have hlive : ¬(!msg.hasCookie) = true := by simp [hcookie]
  have hopen : ¬msg.isDisposed = true := by simp [hdisposed]
  have hsame : ({ msg with targetActor := actor } : Msg P).hasCookie = msg.hasCookie ∧
      ({ msg with targetActor := actor } : Msg P).isDisposed = msg.isDisposed := ⟨rfl, rfl⟩
  unfold Msg.validate at h ⊢
  rw [if_neg hlive, if_neg hopen] at h
  rw [hsame.1, hsame.2, if_neg hlive, if_neg hopen]
  by_cases hranges : (!msg.eventId.isValid || !msg.sourceActor.isValid) = true
  · rw [if_pos hranges] at h
    cases h
  by_cases htarget : msg.targetActor ≠ .none ∧ (!msg.targetActor.isValid) = true
  · rw [if_neg hranges, if_pos htarget] at h
    cases h
  rw [if_neg hranges, if_neg htarget] at h
  rw [if_neg hranges, if_neg (by simp [hactor])]
  exact h

/-- What the callbacks and the clock may depend on and change: retaining goes by `f`, which the
clock keeps. -/
structure DeliveryPorts.KeptBy (f : ω → κ) (ports : DeliveryPorts P ω) : Prop where
  retain : ports.callbacks.RetainsBy f
  clock : ∀ now, ports.clock = some now → ∀ w, f (now w).2.2 = f w

namespace World

structure Alike (f : ω → κ) (w w' : World P ω) : Prop where
  mailbox : w.mailbox = w'.mailbox
  outside : f w.outside = f w'.outside

end World

namespace Delivery

variable {ports : DeliveryPorts P ω} {f : ω → κ} {msg : Msg P}

def sent (msg : Msg P) (route : Route) : Msg P := { msg with targetActor := route.targetActor }

/-- The walk of the delivery service over enabled routes. -/
def qosWalk (ports : DeliveryPorts P ω) (msg : Msg P) : List Route → World P ω → Result × World P ω
  | [], w => (.ok, w)
  | route :: rest, w =>
    let out := attempt ports msg route w
    if out.1 ≠ .ok ∧ qosFailureIsStrict route.qos then out else qosWalk ports msg rest out.2

/-- The walk of an actor over enabled routes. -/
def plainWalk (ports : DeliveryPorts P ω) (msg : Msg P) : List Route → World P ω → Result × World P ω
  | [], w => (.ok, w)
  | route :: rest, w =>
    let out := w.deliver ports.callbacks route.targetActor (sent msg route) .critical false
    if out.1 ≠ .ok then (out.1, out.2.2) else plainWalk ports msg rest out.2.2

/-- The mailbox of the route has room and the payload can be retained. -/
def Accepts (ports : DeliveryPorts P ω) (msg : Msg P) (route : Route) (w : World P ω) : Prop :=
  ∀ mb, w.mailbox route.targetActor = some mb →
    mb.count < mb.kind.capacity ∧
      (Mailbox.retainForQueue ports.callbacks (sent msg route) w.outside).1 = .ok

/-- Nothing that the QoS of the route would merge the message with is queued. -/
def Unmerged (msg : Msg P) (route : Route) (w : World P ω) : Prop :=
  ∀ mb, w.mailbox route.targetActor = some mb → route.qos.merges = true →
    ∀ queued ∈ mb.queued, queued.eventId ≠ msg.eventId

/-- As long as the mailboxes accept the message, the routes whose QoS allows the loss do, and
store it as a new message. -/
def NothingDropped (ports : DeliveryPorts P ω) (msg : Msg P) : List Route → World P ω → Prop
  | [], _ => True
  | route :: rest, w =>
    (qosFailureIsDropAllowed route.qos = true → Accepts ports msg route w ∧ Unmerged msg route w) ∧
      (Accepts ports msg route w → NothingDropped ports msg rest (attempt ports msg route w).2)

theorem stamp_alike (hby : ports.KeptBy f) (w : World P ω) :
    World.Alike f (traceTimestampUs ports w).2 w := by
  unfold traceTimestampUs
  cases hclock : ports.clock with
  | none => exact ⟨rfl, rfl⟩
  | some now => exact ⟨rfl, hby.clock now hclock w.outside⟩

theorem attempt_push (msg : Msg P) (hby : ports.KeptBy f) {w : World P ω} {route : Route} {mb : Mailbox P}
    (h : w.mailbox route.targetActor = some mb) :
    (attempt ports msg route w).1 =
        (mb.pushQos ports.callbacks (sent msg route) route.qos w.outside).1 ∧
      (attempt ports msg route w).2.mailbox = Function.update w.mailbox route.targetActor
        (some (mb.pushQos ports.callbacks (sent msg route) route.qos w.outside).2.2.1) ∧
      f (attempt ports msg route w).2.outside =
        f (mb.pushQos ports.callbacks (sent msg route) route.qos w.outside).2.2.2 := by
  obtain ⟨hrc, hmailbox, houtside⟩ :=
    World.deliver_mailbox ports.callbacks h (sent msg route) route.qos true
  have hstamp := stamp_alike hby
    (w.deliver ports.callbacks route.targetActor (sent msg route) route.qos true).2.2
  exact ⟨hrc, hstamp.mailbox.trans hmailbox, hstamp.outside.trans (congrArg f houtside)⟩

theorem attempt_arrives (msg : Msg P) (hby : ports.KeptBy f) {w : World P ω} (hready : w.Ready) {route : Route}
    (hbound : (w.mailbox route.targetActor).isSome = true) :
    ∃ diverted, w.Arrives (attempt ports msg route w).2 [route.targetActor] diverted := by
  obtain ⟨mb, hmb⟩ := Option.isSome_iff_exists.mp hbound
  obtain ⟨hwf, hfifo⟩ := hready _ _ hmb
  obtain ⟨_, hmailbox, _⟩ := attempt_push msg hby hmb
  obtain ⟨harrived, hdiverted⟩ := Mailbox.pushQos_counts ports.callbacks ⟨hwf, rfl⟩ hfifo
    (sent msg route) route.qos w.outside
  obtain ⟨hkind, hwf'⟩ := Mailbox.push_kind ports.callbacks ⟨hwf, rfl⟩ (sent msg route) route.qos
    w.outside
  rcases hdiverted with hsame | hmore
  · exact ⟨[], .of_update hmb hwf' hkind hmailbox harrived (by simpa using hsame) (Or.inl rfl)⟩
  · exact ⟨[route.targetActor],
      .of_update hmb hwf' hkind hmailbox harrived (by simpa using hmore) (Or.inr rfl)⟩

theorem plain_push (ports : DeliveryPorts P ω) (msg : Msg P) {w : World P ω} {route : Route} {mb : Mailbox P}
    (h : w.mailbox route.targetActor = some mb) :
    (w.deliver ports.callbacks route.targetActor (sent msg route) .critical false).1 =
        (mb.push ports.callbacks (sent msg route) w.outside).1 ∧
      (w.deliver ports.callbacks route.targetActor (sent msg route) .critical false).2.2.mailbox =
        Function.update w.mailbox route.targetActor
          (some (mb.push ports.callbacks (sent msg route) w.outside).2.1) ∧
      (w.deliver ports.callbacks route.targetActor (sent msg route) .critical false).2.2.outside =
        (mb.push ports.callbacks (sent msg route) w.outside).2.2 := by
  have hplain := Mailbox.pushQos_of_not_merges ports.callbacks (rfl : RouteQos.merges .critical = false) mb
    (sent msg route) w.outside
  obtain ⟨hrc, hmailbox, houtside⟩ :=
    World.deliver_mailbox ports.callbacks h (sent msg route) .critical false
  rw [← hplain]
  exact ⟨hrc, hmailbox, houtside⟩

theorem plain_arrives (ports : DeliveryPorts P ω) (msg : Msg P) {w : World P ω} (hready : w.Ready) {route : Route}
    (hbound : (w.mailbox route.targetActor).isSome = true) :
    w.Arrives (w.deliver ports.callbacks route.targetActor (sent msg route) .critical false).2.2
      [route.targetActor] [] := by
  obtain ⟨mb, hmb⟩ := Option.isSome_iff_exists.mp hbound
  obtain ⟨hwf, hfifo⟩ := hready _ _ hmb
  obtain ⟨_, hmailbox, _⟩ := plain_push ports msg hmb
  have hcounts : (mb.push ports.callbacks (sent msg route) w.outside).2.1.stats.arrivals =
        mb.stats.arrivals + 1 ∧
      (mb.push ports.callbacks (sent msg route) w.outside).2.1.stats.diverted = mb.stats.diverted :=
    Mailbox.push_counts hwf hfifo (sent msg route) w.outside
  have hplain := Mailbox.pushQos_of_not_merges ports.callbacks (rfl : RouteQos.merges .critical = false) mb
    (sent msg route) w.outside
  obtain ⟨hkind, hwf'⟩ := Mailbox.push_kind ports.callbacks ⟨hwf, rfl⟩ (sent msg route) .critical
    w.outside
  have hmb' : (mb.pushQos ports.callbacks (sent msg route) .critical w.outside).2.2.1 =
      (mb.push ports.callbacks (sent msg route) w.outside).2.1 :=
    congrArg (fun out => out.2.1) hplain
  rw [hmb'] at hkind hwf'
  exact .of_update hmb hwf' hkind hmailbox hcounts.1 (by simpa using hcounts.2) (Or.inl rfl)

theorem bound_of_arrives {w w' : World P ω} {targets diverted : List ActorId}
    (h : w.Arrives w' targets diverted) {routes : List Route}
    (hbound : ∀ route ∈ routes, (w.mailbox route.targetActor).isSome = true) :
    ∀ route ∈ routes, (w'.mailbox route.targetActor).isSome = true :=
  fun route hmem => (h.bound route.targetActor).trans (hbound route hmem)

theorem qosWalk_arrives (msg : Msg P) (hby : ports.KeptBy f) (routes : List Route) : ∀ {w : World P ω}, w.Ready →
    (∀ route ∈ routes, (w.mailbox route.targetActor).isSome = true) →
    ∃ targets diverted, w.Arrives (qosWalk ports msg routes w).2 targets diverted ∧
      targets.length ≤ routes.length ∧ ((qosWalk ports msg routes w).1 ≠ .ok → targets ≠ []) := by
  induction routes with
  | nil => exact fun _ _ => ⟨[], [], .of_mailbox rfl, Nat.le_refl _, fun h => absurd rfl h⟩
  | cons route rest ih =>
    intro w hready hbound
    obtain ⟨hhead, hrest⟩ := List.forall_mem_cons.mp hbound
    obtain ⟨diverted, hfirst⟩ := attempt_arrives msg hby hready hhead
    simp only [qosWalk]
    split
    · exact ⟨_, diverted, hfirst, by simp, fun _ => List.cons_ne_nil _ _⟩
    · obtain ⟨targets, diverted', hlater, hlength, _⟩ :=
        ih (hfirst.ready hready) (bound_of_arrives hfirst hrest)
      refine ⟨_, _, hfirst.trans hlater, ?_, fun _ => List.cons_ne_nil _ _⟩
      simpa using hlength

theorem plainWalk_arrives (ports : DeliveryPorts P ω) (msg : Msg P) (routes : List Route) :
    ∀ {w : World P ω}, w.Ready → (∀ route ∈ routes, (w.mailbox route.targetActor).isSome = true) →
      ∃ targets, w.Arrives (plainWalk ports msg routes w).2 targets [] ∧
        targets.length ≤ routes.length := by
  induction routes with
  | nil => exact fun _ _ => ⟨[], .of_mailbox rfl, Nat.le_refl _⟩
  | cons route rest ih =>
    intro w hready hbound
    obtain ⟨hhead, hrest⟩ := List.forall_mem_cons.mp hbound
    have hfirst := plain_arrives ports msg hready hhead
    simp only [plainWalk]
    split
    · exact ⟨_, hfirst, by simp⟩
    · obtain ⟨targets, hlater, hlength⟩ := ih (hfirst.ready hready) (bound_of_arrives hfirst hrest)
      refine ⟨_, hfirst.trans hlater, ?_⟩
      simpa using hlength

theorem step_alike (hby : ports.KeptBy f) {wq wp : World P ω} (halike : World.Alike f wq wp)
    (hready : wq.Ready) {route : Route} {mb : Mailbox P}
    (hmb : wq.mailbox route.targetActor = some mb)
    (hplain : Mailbox.unreported
      (mb.pushQos ports.callbacks (sent msg route) route.qos wq.outside) =
        mb.push ports.callbacks (sent msg route) wq.outside) :
    (wp.deliver ports.callbacks route.targetActor (sent msg route) .critical false).1 =
        (attempt ports msg route wq).1 ∧
      World.Alike f (attempt ports msg route wq).2
        (wp.deliver ports.callbacks route.targetActor (sent msg route) .critical false).2.2 := by
  obtain ⟨hwf, hfifo⟩ := hready _ _ hmb
  obtain ⟨hrc, hmailbox, houtside⟩ := attempt_push msg hby hmb
  obtain ⟨hrc', hmailbox', houtside'⟩ :=
    plain_push ports msg (halike.mailbox ▸ hmb : wp.mailbox route.targetActor = some mb)
  obtain ⟨hsame, hsame', hsamef⟩ :=
    Mailbox.push_by hby.retain hwf hfifo (sent msg route) halike.outside
  have hq : (mb.pushQos ports.callbacks (sent msg route) route.qos wq.outside).1 =
      (mb.push ports.callbacks (sent msg route) wq.outside).1 := congrArg (fun out => out.1) hplain
  have hq' : (mb.pushQos ports.callbacks (sent msg route) route.qos wq.outside).2.2.1 =
      (mb.push ports.callbacks (sent msg route) wq.outside).2.1 :=
    congrArg (fun out => out.2.1) hplain
  have hqf : (mb.pushQos ports.callbacks (sent msg route) route.qos wq.outside).2.2.2 =
      (mb.push ports.callbacks (sent msg route) wq.outside).2.2 :=
    congrArg (fun out => out.2.2) hplain
  refine ⟨?_, ?_, ?_⟩
  · rw [hrc', hrc, hq, hsame]
  · rw [hmailbox, hmailbox', hq', hsame', halike.mailbox]
  · rw [houtside, houtside', hqf, hsamef]

theorem merges_of_strict {qos : RouteQos} (h : qosFailureIsStrict qos = true) :
    qos.merges = false := by
  revert h
  cases qos <;> decide

theorem push_ok_iff_accepts {w : World P ω} (hready : w.Ready) {route : Route} {mb : Mailbox P}
    (hmb : w.mailbox route.targetActor = some mb) (hv : (sent msg route).validate = .ok) :
    (mb.push ports.callbacks (sent msg route) w.outside).1 = .ok ↔ Accepts ports msg route w := by
  obtain ⟨hwf, hfifo⟩ := hready _ _ hmb
  rw [Mailbox.push_ok_iff hwf hfifo]
  refine ⟨fun h other hother => ?_, fun h => ⟨hv, h mb hmb⟩⟩
  rw [hmb] at hother
  cases hother
  exact h.2

theorem push_of_unmerged {w : World P ω} (hready : w.Ready) {route : Route} {mb : Mailbox P}
    (hmb : w.mailbox route.targetActor = some mb) (haccepts : Accepts ports msg route w)
    (hunmerged : Unmerged msg route w) :
    Mailbox.unreported (mb.pushQos ports.callbacks (sent msg route) route.qos w.outside) =
      mb.push ports.callbacks (sent msg route) w.outside := by
  by_cases hmerges : route.qos.merges = true
  · exact Mailbox.pushQos_of_fresh ports.callbacks ⟨(hready _ _ hmb).1, rfl⟩ _ _ _
      (haccepts mb hmb).1 (hunmerged mb hmb hmerges)
  · exact Mailbox.pushQos_of_not_merges ports.callbacks (Bool.eq_false_iff.mpr hmerges) _ _ _

/-- A message that is accepted but merged is diverted by its QoS. -/
theorem diverts_of_merged {w : World P ω} (hready : w.Ready) {route : Route} {mb : Mailbox P}
    (hmb : w.mailbox route.targetActor = some mb) (hv : (sent msg route).validate = .ok)
    (haccepts : Accepts ports msg route w) (hmerged : ¬Unmerged msg route w) :
    (mb.pushQos ports.callbacks (sent msg route) route.qos w.outside).1 = .ok ∧
      mb.Diverts (mb.pushQos ports.callbacks (sent msg route) route.qos w.outside).2.2.1 := by
  have hmatch : route.qos.merges = true ∧ ∃ queued ∈ mb.queued, queued.eventId = msg.eventId := by
    by_contra hno
    refine hmerged fun other hother hmerges queued hmem hevent => ?_
    rw [hmb] at hother
    cases hother
    exact hno ⟨hmerges, queued, hmem, hevent⟩
  rcases Mailbox.pushQos_of_match ports.callbacks ⟨(hready _ _ hmb).1, rfl⟩ hv hmatch.1 w.outside
    hmatch.2 with hdiverts | ⟨hfailed, _⟩
  · exact hdiverts
  · exact absurd (haccepts mb hmb).2 hfailed

/-- The two walks agree: they succeed together and leave the same mailboxes. -/
def WalksAgree (ports : DeliveryPorts P ω) (msg : Msg P) (routes : List Route)
    (wq wp : World P ω) : Prop :=
  ((plainWalk ports msg routes wp).1 = .ok ↔ (qosWalk ports msg routes wq).1 = .ok) ∧
    (plainWalk ports msg routes wp).2.mailbox = (qosWalk ports msg routes wq).2.mailbox

/-- After a message that the delivery service diverts and the actor stores, the mailboxes differ. -/
theorem not_agree_of_diverts (hby : ports.KeptBy f) {route : Route} {rest : List Route}
    {wq wp : World P ω} (halike : World.Alike f wq wp) (hready : wq.Ready)
    (hbound : ∀ other ∈ route :: rest, (wq.mailbox other.targetActor).isSome = true)
    (hshort : (route :: rest).length < 2 ^ 32) {mb : Mailbox P}
    (hmb : wq.mailbox route.targetActor = some mb)
    (hok : (mb.pushQos ports.callbacks (sent msg route) route.qos wq.outside).1 = .ok)
    (hdiverts : mb.Diverts
      (mb.pushQos ports.callbacks (sent msg route) route.qos wq.outside).2.2.1) :
    ¬WalksAgree ports msg (route :: rest) wq wp := by
  intro ⟨_, hend⟩
  obtain ⟨hwf, _⟩ := hready _ _ hmb
  obtain ⟨hrc, hmailbox, _⟩ := attempt_push msg hby hmb
  obtain ⟨hkind, hwf'⟩ := Mailbox.push_kind ports.callbacks ⟨hwf, rfl⟩ (sent msg route) route.qos
    wq.outside
  have hfirst : wq.Arrives (attempt ports msg route wq).2 [route.targetActor] [route.targetActor] :=
    .of_update hmb hwf' hkind hmailbox hdiverts.1 (by simpa using hdiverts.2) (Or.inr rfl)
  obtain ⟨targets, diverted, hlater, hlength, _⟩ := qosWalk_arrives msg hby rest
    (hfirst.ready hready) (bound_of_arrives hfirst (List.forall_mem_cons.mp hbound).2)
  have hwalk : qosWalk ports msg (route :: rest) wq =
      qosWalk ports msg rest (attempt ports msg route wq).2 := by
    simp only [qosWalk]
    rw [if_neg fun h => h.1 (hrc.trans hok)]
  have hready' : wp.Ready := fun actor other hother =>
    hready actor other (by rw [halike.mailbox]; exact hother)
  obtain ⟨targets', hplain, hlength'⟩ := plainWalk_arrives ports msg (route :: rest) hready'
    (by rw [← halike.mailbox]; exact hbound)
  rw [hwalk] at hend
  have hsame := ((hfirst.trans hlater).lengths hplain halike.mailbox.symm hend (by
    simp only [List.length_append, List.length_cons, List.length_nil] at hshort ⊢
    omega) (by omega)).2
  simp at hsame

/-- When the actor fails where the loss is allowed, it fails alone or leaves other mailboxes. -/
theorem not_agree_of_failure (hby : ports.KeptBy f) {route : Route} {rest : List Route}
    {wq wp : World P ω} (halike : World.Alike f wq wp) (hready : wq.Ready)
    (hbound : ∀ other ∈ route :: rest, (wq.mailbox other.targetActor).isSome = true)
    (hshort : (route :: rest).length < 2 ^ 32)
    (hdrop : qosFailureIsDropAllowed route.qos = true)
    (hfails : (wp.deliver ports.callbacks route.targetActor (sent msg route) .critical false).1 ≠ .ok) :
    ¬WalksAgree ports msg (route :: rest) wq wp := by
  intro ⟨hiff, hend⟩
  obtain ⟨hhead, hrest⟩ := List.forall_mem_cons.mp hbound
  have hplain : plainWalk ports msg (route :: rest) wp =
      ((wp.deliver ports.callbacks route.targetActor (sent msg route) .critical false).1,
        (wp.deliver ports.callbacks route.targetActor (sent msg route) .critical false).2.2) := by
    simp only [plainWalk]
    rw [if_pos hfails]
  have hlax : ¬qosFailureIsStrict route.qos = true := by
    rw [dropAllowed_eq_not_strict] at hdrop
    simpa using hdrop
  have hwalk : qosWalk ports msg (route :: rest) wq =
      qosWalk ports msg rest (attempt ports msg route wq).2 := by
    simp only [qosWalk]
    rw [if_neg fun h => hlax h.2]
  obtain ⟨diverted, hfirst⟩ := attempt_arrives msg hby hready hhead
  obtain ⟨targets, diverted', hlater, hlength, hmore⟩ := qosWalk_arrives msg hby rest
    (hfirst.ready hready) (bound_of_arrives hfirst hrest)
  have hready' : wp.Ready := fun actor other hother =>
    hready actor other (by rw [halike.mailbox]; exact hother)
  have hhead' : (wp.mailbox route.targetActor).isSome = true := by rwa [← halike.mailbox]
  have hone := plain_arrives ports msg hready' hhead'
  rw [hplain, hwalk] at hiff hend
  have htargets := hmore fun hok => hfails (hiff.mpr hok)
  have hsame := ((hfirst.trans hlater).lengths hone halike.mailbox.symm hend (by
    simp only [List.length_append, List.length_cons, List.length_nil] at hshort ⊢
    omega) (by simp)).1
  simp only [List.length_append, List.length_cons, List.length_nil] at hsame
  exact htargets (List.eq_nil_of_length_eq_zero (by omega))

theorem walks_agree_iff (hby : ports.KeptBy f) (hv : msg.validate = .ok) (routes : List Route) :
    ∀ {wq wp : World P ω}, World.Alike f wq wp → wq.Ready →
      (∀ route ∈ routes, (wq.mailbox route.targetActor).isSome = true) → routes.length < 2 ^ 32 →
      (WalksAgree ports msg routes wq wp ↔ NothingDropped ports msg routes wq) := by
  induction routes with
  | nil => exact fun halike _ _ _ => ⟨fun _ => trivial, fun _ => ⟨Iff.rfl, halike.mailbox.symm⟩⟩
  | cons route rest ih =>
    intro wq wp halike hready hbound hshort
    obtain ⟨hhead, hrest⟩ := List.forall_mem_cons.mp hbound
    obtain ⟨mb, hmb⟩ := Option.isSome_iff_exists.mp hhead
    obtain ⟨hwf, hfifo⟩ := hready _ _ hmb
    have hv' : (sent msg route).validate = .ok := Msg.validate_toTarget hv (World.mailbox_valid hmb)
    obtain ⟨hprc, _, _⟩ :=
      plain_push ports msg (halike.mailbox ▸ hmb : wp.mailbox route.targetActor = some mb)
    have hpby := (Mailbox.push_by hby.retain hwf hfifo (sent msg route) halike.outside).1
    have hgo : (attempt ports msg route wq).1 = .ok →
        (wp.deliver ports.callbacks route.targetActor (sent msg route) .critical false).1 =
          (attempt ports msg route wq).1 →
        World.Alike f (attempt ports msg route wq).2
          (wp.deliver ports.callbacks route.targetActor (sent msg route) .critical false).2.2 →
        (WalksAgree ports msg (route :: rest) wq wp ↔
          NothingDropped ports msg rest (attempt ports msg route wq).2) := by
      intro hok hsame hnext
      obtain ⟨diverted, hfirst⟩ := attempt_arrives msg hby hready hhead
      have hshort' : rest.length < 2 ^ 32 := by
        rw [List.length_cons] at hshort
        omega
      rw [← ih hnext (hfirst.ready hready) (bound_of_arrives hfirst hrest) hshort']
      unfold WalksAgree
      simp only [qosWalk, plainWalk]
      rw [if_neg fun h => h (hsame.trans hok), if_neg fun h => h.1 hok]
    have hpush : (mb.push ports.callbacks (sent msg route) wq.outside).1 = .ok ↔
        Accepts ports msg route wq := push_ok_iff_accepts hready hmb hv'
    by_cases hdrop : qosFailureIsDropAllowed route.qos = true
    · by_cases haccepts : Accepts ports msg route wq
      · by_cases hunmerged : Unmerged msg route wq
        · obtain ⟨hsame, hnext⟩ :=
            step_alike hby halike hready hmb (push_of_unmerged hready hmb haccepts hunmerged)
          have hok : (attempt ports msg route wq).1 = .ok := by
            rw [← hsame, hprc, ← hpby, hpush.mpr haccepts]
          rw [hgo hok hsame hnext]
          exact ⟨fun h => ⟨fun _ => ⟨haccepts, hunmerged⟩, fun _ => h⟩, fun h => h.2 haccepts⟩
        · obtain ⟨hok, hdiverts⟩ := diverts_of_merged hready hmb hv' haccepts hunmerged
          have hnot := not_agree_of_diverts hby halike hready hbound hshort hmb hok hdiverts
          exact ⟨fun hagree => absurd hagree hnot, fun h => absurd (h.1 hdrop).2 hunmerged⟩
      · have hfails : (wp.deliver ports.callbacks route.targetActor (sent msg route) .critical
            false).1 ≠ .ok := by
          rw [hprc, ← hpby]
          exact mt hpush.mp haccepts
        have hnot := not_agree_of_failure hby halike hready hbound hshort hdrop hfails
        exact ⟨fun hagree => absurd hagree hnot, fun h => absurd (h.1 hdrop).1 haccepts⟩
    · have hstrict : qosFailureIsStrict route.qos = true := by
        rw [dropAllowed_eq_not_strict] at hdrop
        simpa using hdrop
      obtain ⟨hsame, hnext⟩ := step_alike hby halike hready hmb
        (Mailbox.pushQos_of_not_merges ports.callbacks (merges_of_strict hstrict) mb _ _)
      have hok_iff : (attempt ports msg route wq).1 = .ok ↔ Accepts ports msg route wq := by
        rw [← hsame, hprc, ← hpby]
        exact hpush
      by_cases hok : (attempt ports msg route wq).1 = .ok
      · rw [hgo hok hsame hnext]
        exact ⟨fun h => ⟨fun h' => absurd h' hdrop, fun _ => h⟩, fun h => h.2 (hok_iff.mp hok)⟩
      · refine ⟨fun _ => ⟨fun h' => absurd h' hdrop, fun h' => absurd (hok_iff.mpr h') hok⟩,
          fun _ => ?_⟩
        unfold WalksAgree
        simp only [qosWalk, plainWalk]
        rw [if_pos (by rw [hsame]; exact hok), if_pos ⟨hok, hstrict⟩]
        exact ⟨by rw [hsame], hnext.mailbox.symm⟩

end Delivery

end EventFramework
