import EventFramework.Core.Mailbox

/-!
# What a mailbox is for

A mailbox is a bounded queue of messages, each holding one share of its payload. This
module states that queue on plain lists, without slots: where an arriving message goes
depends on the mailbox kind, the route QoS and the queued messages only.
-/

namespace EventFramework
set_option autoImplicit false

variable {P ω : Type}

/-- The place of an arriving message in the queue. -/
inductive Arrival where
  | reject (rc : Result)
  | keep
  | append
  | evictOldest
  | replaceAt (index : Nat)
  deriving DecidableEq, Repr

namespace Arrival

def place {α : Type} (msg : α) (queued : List α) : Arrival → List α
  | .append => queued ++ [msg]
  | .evictOldest => queued.tail ++ [msg]
  | .replaceAt index => queued.set index msg
  | .reject _ | .keep => queued

def removed {α : Type} (queued : List α) : Arrival → Option α
  | .evictOldest => queued.head?
  | .replaceAt index => queued[index]?
  | .append | .reject _ | .keep => none

end Arrival

/-- Position of the newest queued message of an event. -/
def newestOf (eventId : EventId) : List (Msg P) → Option Nat
  | [] => none
  | msg :: rest =>
    match newestOf eventId rest with
    | some index => some (index + 1)
    | none => if msg.eventId = eventId then some 0 else none

def MailboxKind.arrival (kind : MailboxKind) (queued : List (Msg P)) (msg : Msg P) : Arrival :=
  match kind with
  | .fifo8 | .fifo16 => if kind.capacity ≤ queued.length then .reject .errFull else .append
  | .mailbox1 => if queued.isEmpty then .append else .replaceAt 0
  | .lossyRing8 => if kind.capacity ≤ queued.length then .evictOldest else .append
  | .coalescedFlag =>
    if msg.storage ≠ .none ∨ msg.payloadSize ≠ 0 then .reject .errContract
    else match queued with
      | [] => .append
      | first :: _ => if first.eventId = msg.eventId then .keep else .reject .errContract

def RouteQos.arrival (qos : RouteQos) (kind : MailboxKind) (queued : List (Msg P)) (msg : Msg P) :
    Arrival :=
  match qos with
  | .coalesced =>
    if (newestOf msg.eventId queued).isSome then .keep
    else if kind.capacity ≤ queued.length then .keep
    else kind.arrival queued msg
  | .latestOnly =>
    match newestOf msg.eventId queued with
    | some index => .replaceAt index
    | none => if kind.capacity ≤ queued.length then .keep else kind.arrival queued msg
  | _ => kind.arrival queued msg

structure QueueState (P ω : Type) where
  queued : List (Msg P)
  owners : ω

/-- A stored arrival takes one share of its payload; the message it removes gives its
share back afterwards. -/
def QueueState.offer (cb : Callbacks P ω) (s : QueueState P ω) (arrival : Arrival) (msg : Msg P) :
    Result × QueueState P ω :=
  if msg.validate ≠ .ok then (msg.validate, s)
  else match arrival with
    | .reject rc => (rc, s)
    | .keep => (.ok, s)
    | .append | .evictOldest | .replaceAt _ =>
      let retained := Mailbox.retainForQueue cb msg s.owners
      if retained.1 ≠ .ok then (retained.1, ⟨s.queued, retained.2⟩)
      else
        (.ok, ⟨arrival.place msg s.queued,
          (arrival.removed s.queued).elim retained.2 (Msg.releasePayload cb · retained.2)⟩)

inductive MailboxOp (P : Type) where
  | push (msg : Msg P)
  | pushQos (msg : Msg P) (qos : RouteQos)
  | pop
  | reset

/-- The result code of an operation and the message `pop` moved out. -/
abbrev MailboxOutput (P : Type) : Type := Result × Option (Msg P)

/-- One operation on the bounded queue. A reset gives back every queued share, in an
order that the queue does not fix. -/
inductive QueueStep (cb : Callbacks P ω) (kind : MailboxKind) :
    QueueState P ω → MailboxOp P → MailboxOutput P → QueueState P ω → Prop where
  | push (s : QueueState P ω) (msg : Msg P) :
      QueueStep cb kind s (.push msg)
        ((s.offer cb (kind.arrival s.queued msg) msg).1, none)
        (s.offer cb (kind.arrival s.queued msg) msg).2
  | pushQos (s : QueueState P ω) (msg : Msg P) (qos : RouteQos) :
      QueueStep cb kind s (.pushQos msg qos)
        ((s.offer cb (qos.arrival kind s.queued msg) msg).1, none)
        (s.offer cb (qos.arrival kind s.queued msg) msg).2
  | popEmpty (w : ω) : QueueStep cb kind ⟨[], w⟩ .pop (.errEmpty, none) ⟨[], w⟩
  | pop (msg : Msg P) (rest : List (Msg P)) (w : ω) :
      QueueStep cb kind ⟨msg :: rest, w⟩ .pop (.ok, some msg) ⟨rest, w⟩
  | reset (s : QueueState P ω) (released : List (Msg P)) (h : released.Perm s.queued) :
      QueueStep cb kind s .reset (.ok, none)
        ⟨[], released.foldl (fun w msg => msg.releasePayload cb w) s.owners⟩

/-- A run of the bounded queue: operations, their outputs and the state they lead to. -/
inductive QueueRun (cb : Callbacks P ω) (kind : MailboxKind) :
    QueueState P ω → List (MailboxOp P) → List (MailboxOutput P) → QueueState P ω → Prop where
  | nil (s : QueueState P ω) : QueueRun cb kind s [] [] s
  | cons {s t u : QueueState P ω} {op : MailboxOp P} {ops : List (MailboxOp P)}
      {out : MailboxOutput P} {outs : List (MailboxOutput P)} :
      QueueStep cb kind s op out t → QueueRun cb kind t ops outs u →
      QueueRun cb kind s (op :: ops) (out :: outs) u

theorem newestOf_eq_none_iff {eventId : EventId} {queued : List (Msg P)} :
    newestOf eventId queued = none ↔ ∀ msg ∈ queued, msg.eventId ≠ eventId := by
  induction queued with
  | nil => simp [newestOf]
  | cons msg rest ih =>
    simp only [newestOf, List.forall_mem_cons, ← ih]
    cases hrest : newestOf eventId rest <;> simp

theorem newestOf_spec {eventId : EventId} {queued : List (Msg P)} {index : Nat}
    (h : newestOf eventId queued = some index) :
    (∃ msg, queued[index]? = some msg ∧ msg.eventId = eventId) ∧
      ∀ j later, index < j → queued[j]? = some later → later.eventId ≠ eventId := by
  induction queued generalizing index with
  | nil => simp [newestOf] at h
  | cons msg rest ih =>
    cases hrest : newestOf eventId rest with
    | some k =>
      have hk : k + 1 = index := by simpa [newestOf, hrest] using h
      subst hk
      obtain ⟨hfound, hlast⟩ := ih hrest
      refine ⟨by simpa using hfound, ?_⟩
      intro j later hj hget
      cases j with
      | zero => omega
      | succ j => exact hlast j later (by omega) (by simpa using hget)
    | none =>
      simp only [newestOf, hrest] at h
      split at h
      · rename_i he
        have hi : index = 0 := by simpa using h.symm
        subst hi
        refine ⟨⟨msg, rfl, he⟩, ?_⟩
        intro j later hj hget
        cases j with
        | zero => omega
        | succ j =>
          have hmem : later ∈ rest := List.mem_of_getElem? (by simpa using hget)
          exact newestOf_eq_none_iff.mp hrest later hmem
      · simp at h

theorem newestOf_lt {eventId : EventId} {queued : List (Msg P)} {index : Nat}
    (h : newestOf eventId queued = some index) : index < queued.length := by
  obtain ⟨⟨msg, hget, _⟩, _⟩ := newestOf_spec h
  exact (List.getElem?_eq_some_iff.mp hget).1

end EventFramework
