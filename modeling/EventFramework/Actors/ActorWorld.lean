import EventFramework.Core.Publish
import EventFramework.Library.Machine

/-!
# The world of one actor

What an actor's handler sees and does. `ω` is the state of everything outside the actor:
publications and the calls of its ports act on it and may return anything. The history is
read by no handler: it records the messages handled, what was published and called, and
what the handler returned. `C` is the type of an actor's own port calls.
-/

namespace EventFramework
set_option autoImplicit false

variable {A P C ω : Type}

/-- What a handler reads of a message. `payload` is the memory from the address of the payload
on, `none` for a null pointer. -/
structure Inbound where
  eventId : EventId
  payload : Option (Nat → UInt8) := none
  payloadSize : Nat := 0

inductive ActorEvent (P C : Type) where
  | received (msg : Inbound)
  | published (msg : Msg P) (result : Result)
  | called (call : C)
  | returned (result : Result)

structure ActorWorld (P C ω : Type) where
  outside : ω
  history : List (ActorEvent P C) := []

/-- The delivery callback of an actor and the static routes `ev_publish` reads. -/
structure ActorPort (P ω : Type) where
  routes : RouteTable
  deliver : DeliveryFn P ω

/-- The little-endian bytes of a `uint32_t`. -/
def wordBytes (word : UInt32) : List UInt8 :=
  [word.toUInt8, (word >>> 8).toUInt8, (word >>> 16).toUInt8, (word >>> 24).toUInt8]

/-- The `uint32_t` at an offset. -/
def wordAt (memory : Nat → UInt8) (offset : Nat) : UInt32 :=
  UInt32.ofNat ((memory offset).toNat + 256 * (memory (offset + 1)).toNat +
    65536 * (memory (offset + 2)).toNat + 16777216 * (memory (offset + 3)).toNat)

def Msg.inlineMemory (msg : Msg P) : Nat → UInt8 := fun i => msg.inlineBytes.getD i 0

theorem wordAt_wordBytes (word : UInt32) : wordAt (fun i => (wordBytes word).getD i 0) 0 = word := by
  apply UInt32.toNat_inj.mp
  have hlt := word.toNat_lt
  simp [wordAt, wordBytes, UInt32.toNat_ofNat', Nat.shiftRight_eq_div_pow]
  omega

namespace ActorWorld

def note (w : ActorWorld P C ω) (event : ActorEvent P C) : ActorWorld P C ω :=
  { w with history := w.history ++ [event] }

/-- `ev_publish`, recorded. -/
def publish (port : ActorPort P ω) (msg : Msg P) (w : ActorWorld P C ω) :
    Result × ActorWorld P C ω :=
  let out := EventFramework.publish port.routes port.deliver msg w.outside
  (out.1, { outside := out.2.2, history := w.history ++ [.published msg out.1] })

/-- The body that the publish functions of the actors share: a message on the stack, an inline
payload where there is one, the publication and the disposal. -/
def publishEvent (port : ActorPort P ω) (eventId : EventId) (source : ActorId)
    (payload : Option (List UInt8)) (w : ActorWorld P C ω) : Result × ActorWorld P C ω :=
  let started := (Msg.zeroed (P := P)).initPublish eventId source
  let filled : Result × Msg P :=
    if started.1 = .ok then
      match payload with
      | none => started
      | some bytes =>
        let out := started.2.setInlinePayload Callbacks.none (some bytes) bytes.length ()
        (out.1, out.2.1)
    else started
  let sent := if filled.1 = .ok then publish port filled.2 w else (filled.1, w)
  let disposed := (filled.2.dispose Callbacks.none ()).1
  (if sent.1 = .ok ∧ disposed ≠ .ok then disposed else sent.1, sent.2)

/-- The message that `publishEvent` publishes. -/
def outgoing (eventId : EventId) (source : ActorId) (payload : Option (List UInt8)) : Msg P :=
  let blank : Msg P := { Msg.blank with eventId := eventId, sourceActor := source, targetActor := .none }
  match payload with
  | none => blank
  | some bytes => { blank with inlineBytes := bytes, storage := .inline, payloadSize := bytes.length }

/-- The catalogs know the event and the actor, and the payload fits inline. -/
def publishable (eventId : EventId) (source : ActorId) : Option Nat → Bool
  | none => eventId.isValid && source.isValid
  | some size =>
    source.isValid && 0 < size && size ≤ msgInlineCapacity &&
      (eventMeta eventId).any fun info => Msg.allowsInline info.payloadKind

theorem publishEvent_eq (port : ActorPort P ω) {eventId : EventId} {source : ActorId}
    {payload : Option (List UInt8)} (h : publishable eventId source (payload.map List.length) = true)
    (w : ActorWorld P C ω) :
    publishEvent port eventId source payload w = publish port (outgoing eventId source payload) w := by
  have hsent (out : Result × ActorWorld P C ω) (msg : Msg P) :
      (if out.1 = .ok ∧ (msg.dispose Callbacks.none ()).1 ≠ .ok then
        (msg.dispose Callbacks.none ()).1 else out.1, out.2) = out := by
    simp
  cases payload with
  | none =>
    simp only [publishable, Option.map_none, Bool.and_eq_true] at h
    have hstart : (Msg.zeroed (P := P)).initPublish eventId source =
        (.ok, outgoing eventId source none) := by
      simp [Msg.initPublish, h.1, h.2, outgoing]
    simp only [publishEvent, hstart, ↓reduceIte, hsent]
  | some bytes =>
    simp only [publishable, Option.map_some, Bool.and_eq_true, decide_eq_true_eq] at h
    obtain ⟨⟨⟨hsource, hpos⟩, hfits⟩, hkind⟩ := h
    obtain ⟨info, hinfo, hallows⟩ : ∃ info, eventMeta eventId = some info ∧
        Msg.allowsInline info.payloadKind = true := by
      cases hmeta : eventMeta eventId with
      | none => simp [hmeta] at hkind
      | some info => exact ⟨info, rfl, by simpa [hmeta] using hkind⟩
    have hevent : eventId.isValid = true := by simp [EventId.isValid, hinfo]
    have hstart : (Msg.zeroed (P := P)).initPublish eventId source =
        (.ok, outgoing eventId source none) := by
      simp [Msg.initPublish, hevent, hsource, outgoing]
    have hfill : (outgoing eventId source none : Msg P).setInlinePayload Callbacks.none (some bytes)
        bytes.length () = (.ok, outgoing eventId source (some bytes), ()) := by
      simp [Msg.setInlinePayload, outgoing, Msg.blank, Msg.hasCookie, Msg.isDisposed, hinfo, hallows,
        hpos, Nat.not_lt.mpr hfits, Msg.releaseAttachedPayload, Msg.clearPayload]
    simp only [publishEvent, hstart, hfill, ↓reduceIte, hsent]

end ActorWorld

/-- A publication among the events of a history. -/
def ActorEvent.publication? : ActorEvent P C → Option (Msg P × Result)
  | .published msg result => some (msg, result)
  | _ => none

/-- The context of an actor and its world. -/
structure Running (A P C ω : Type) where
  ctx : A
  world : ActorWorld P C ω

namespace Running

def note (s : Running A P C ω) (event : ActorEvent P C) : Running A P C ω :=
  { s with world := s.world.note event }

def setCtx (s : Running A P C ω) (ctx : A) : Running A P C ω := { s with ctx := ctx }

def publishEvent (port : ActorPort P ω) (eventId : EventId) (source : ActorId)
    (payload : Option (List UInt8)) (s : Running A P C ω) : Result × Running A P C ω :=
  let out := s.world.publishEvent port eventId source payload
  (out.1, { s with world := out.2 })

def step (handle : Running A P C ω → Inbound → Result × Running A P C ω) (s : Running A P C ω)
    (msg : Inbound) : Running A P C ω :=
  let out := handle (s.note (.received msg)) msg
  out.2.note (.returned out.1)

/-- A publication is one event of the history, with any result. -/
theorem publishEvent_spec (port : ActorPort P ω) (eventId : EventId) (source : ActorId)
    (payload : Option (List UInt8))
    (h : ActorWorld.publishable eventId source (payload.map List.length) = true)
    (s : Running A P C ω) :
    ∃ rc outside, s.publishEvent port eventId source payload =
      (rc, ⟨s.ctx, outside,
        s.world.history ++ [.published (ActorWorld.outgoing eventId source payload) rc]⟩) := by
  rw [publishEvent, ActorWorld.publishEvent_eq port h]
  exact ⟨_, _, rfl⟩

def publications (s : Running A P C ω) : List (Msg P × Result) :=
  s.world.history.filterMap ActorEvent.publication?

theorem publications_note (s : Running A P C ω) (event : ActorEvent P C) :
    (s.note event).publications = s.publications ++ [event].filterMap ActorEvent.publication? :=
  List.filterMap_append

theorem publications_publishEvent (port : ActorPort P ω) (eventId : EventId) (source : ActorId)
    (payload : Option (List UInt8))
    (h : ActorWorld.publishable eventId source (payload.map List.length) = true)
    (s : Running A P C ω) :
    (s.publishEvent port eventId source payload).2.publications = s.publications ++
      [(ActorWorld.outgoing eventId source payload,
        (s.publishEvent port eventId source payload).1)] := by
  obtain ⟨rc, outside, heq⟩ := publishEvent_spec port eventId source payload h s
  rw [heq]
  exact List.filterMap_append

end Running

end EventFramework
