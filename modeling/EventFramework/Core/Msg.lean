import EventFramework.Core.Catalog

/-!
# The runtime envelope

`ev_msg_t` and the functions of `ev_msg.c` and `ev_dispose.c`. `P` is the type of the
addresses a message carries: payload data, lifecycle callbacks and their context.
A null pointer is `none`. The callbacks themselves live outside the core; `Callbacks`
says what calling one does to the state `ω` of the payload owners. The two members of
the payload union are separate fields, told apart by `storage` as in the source.
-/

namespace EventFramework
set_option autoImplicit false

variable {P ω : Type}

inductive MsgStorage where
  | none
  | inline
  | external
  deriving DecidableEq, Repr

structure ExternalPayload (P : Type) where
  data : Option P := none
  size : Nat := 0
  retainFn : Option P := none
  releaseFn : Option P := none
  lifecycleCtx : Option P := none
  deriving DecidableEq, Repr

structure Msg (P : Type) where
  cookie : UInt32 := 0
  eventId : EventId := .bootStarted
  sourceActor : ActorId := .boot
  targetActor : ActorId := .boot
  flags : UInt32 := 0
  storage : MsgStorage := .none
  payloadSize : Nat := 0
  inlineBytes : List UInt8 := []
  external : ExternalPayload P := {}
  deriving DecidableEq, Repr

/-- What `retain_fn` and `release_fn` do: callback, context, data and size, then the
state of the payload owners. -/
structure Callbacks (P ω : Type) where
  retain : P → Option P → Option P → Nat → ω → Result × ω
  release : P → Option P → Option P → Nat → ω → ω

def Callbacks.none : Callbacks P Unit where
  retain := fun _ _ _ _ w => (.ok, w)
  release := fun _ _ _ _ w => w

def msgInlineCapacity : Nat := 24

def msgCookie : UInt32 := 0x45564D53

def msgFlagDisposed : UInt32 := 1

namespace Msg

/-- `EV_MSG_INITIALIZER`: all bytes zero. -/
def zeroed : Msg P := {}

def hasCookie (msg : Msg P) : Bool := msg.cookie == msgCookie

def isDisposed (msg : Msg P) : Bool := msg.hasCookie && (msg.flags &&& msgFlagDisposed != 0)

/-- `ev_msg_reset`: zero bytes and the cookie. -/
def blank : Msg P := { cookie := msgCookie }

/-- `memset(&msg->payload, 0, ..)`, size and storage cleared. -/
def clearPayload (msg : Msg P) : Msg P :=
  { msg with inlineBytes := [], external := {}, payloadSize := 0, storage := .none }

def initPublish (msg : Msg P) (eventId : EventId) (sourceActor : ActorId) : Result × Msg P :=
  if !eventId.isValid || !sourceActor.isValid then (.errOutOfRange, msg)
  else (.ok, { blank with eventId := eventId, sourceActor := sourceActor, targetActor := .none })

def initSend (msg : Msg P) (eventId : EventId) (sourceActor targetActor : ActorId) :
    Result × Msg P :=
  if targetActor == .none || !eventId.isValid || !sourceActor.isValid || !targetActor.isValid then
    (.errOutOfRange, msg)
  else
    (.ok, { blank with eventId := eventId, sourceActor := sourceActor, targetActor := targetActor })

/-- The release call shared by `ev_msg_release_attached_payload` and `ev_msg_dispose`. -/
def releasePayload (cb : Callbacks P ω) (msg : Msg P) (w : ω) : ω :=
  if msg.storage = .external ∧ 0 < msg.payloadSize then
    match msg.external.releaseFn with
    | some fn => cb.release fn msg.external.lifecycleCtx msg.external.data msg.payloadSize w
    | none => w
  else w

def releaseAttachedPayload (cb : Callbacks P ω) (msg : Msg P) (w : ω) : Msg P × ω :=
  (msg.clearPayload, msg.releasePayload cb w)

def allowsInline (kind : PayloadKind) : Bool := kind == .inline || kind == .copyFixed

def allowsExternal (kind : PayloadKind) : Bool := kind == .lease || kind == .streamView

def setInlinePayload (cb : Callbacks P ω) (msg : Msg P) (data : Option (List UInt8)) (size : Nat)
    (w : ω) : Result × Msg P × ω :=
  if !msg.hasCookie then (.errState, msg, w)
  else if msg.isDisposed then (.errState, msg, w)
  else if 0 < size ∧ data = none then (.errInvalidArg, msg, w)
  else if msgInlineCapacity < size then (.errOutOfRange, msg, w)
  else match eventMeta msg.eventId with
    | none => (.errOutOfRange, msg, w)
    | some info =>
      if !allowsInline info.payloadKind then (.errContract, msg, w)
      else
        let (cleared, w) := msg.releaseAttachedPayload cb w
        if 0 < size then
          (.ok, { cleared with
            inlineBytes := (data.getD []).take size, storage := .inline, payloadSize := size }, w)
        else (.ok, cleared, w)

def setExternalPayload (cb : Callbacks P ω) (msg : Msg P) (data : Option P) (size : Nat)
    (retainFn releaseFn lifecycleCtx : Option P) (w : ω) : Result × Msg P × ω :=
  if !msg.hasCookie then (.errState, msg, w)
  else if msg.isDisposed then (.errState, msg, w)
  else if 0 < size ∧ data.isNone then (.errInvalidArg, msg, w)
  else match eventMeta msg.eventId with
    | none => (.errOutOfRange, msg, w)
    | some info =>
      if !allowsExternal info.payloadKind then (.errContract, msg, w)
      else if info.payloadKind = .lease ∧ 0 < size ∧ (retainFn.isNone ∨ releaseFn.isNone) then
        (.errContract, msg, w)
      else if info.payloadKind = .streamView ∧
          (retainFn.isSome ∨ releaseFn.isSome ∨ lifecycleCtx.isSome) then (.errContract, msg, w)
      else
        let (cleared, w) := msg.releaseAttachedPayload cb w
        if 0 < size then
          (.ok, { cleared with
            storage := .external
            external := ⟨data, size, retainFn, releaseFn, lifecycleCtx⟩
            payloadSize := size }, w)
        else (.ok, cleared, w)

def retain (cb : Callbacks P ω) (msg : Msg P) (w : ω) : Result × ω :=
  if !msg.hasCookie then (.errState, w)
  else match eventMeta msg.eventId with
    | none => (.errOutOfRange, w)
    | some info =>
      if msg.storage ≠ .external ∨ msg.payloadSize = 0 then (.ok, w)
      else match info.payloadKind with
        | .lease =>
          match msg.external.retainFn with
          | none => (.errUnsupported, w)
          | some fn => cb.retain fn msg.external.lifecycleCtx msg.external.data msg.payloadSize w
        | .streamView => (.errUnsupported, w)
        | _ => (.errContract, w)

def validate (msg : Msg P) : Result :=
  if !msg.hasCookie then .errState
  else if msg.isDisposed then .errState
  else if !msg.eventId.isValid || !msg.sourceActor.isValid then .errOutOfRange
  else if msg.targetActor ≠ .none ∧ !msg.targetActor.isValid then .errOutOfRange
  else if msg.storage = .none ∧ msg.payloadSize ≠ 0 then .errContract
  else if msg.storage ≠ .none ∧ msg.payloadSize = 0 then .errContract
  else match eventMeta msg.eventId with
    | none => .errOutOfRange
    | some info => match info.payloadKind with
      | .inline | .copyFixed =>
        if msg.storage = .external then .errContract
        else if msgInlineCapacity < msg.payloadSize then .errOutOfRange
        else .ok
      | .lease =>
        if msg.storage = .inline then .errContract
        else if msg.storage = .external ∧ 0 < msg.payloadSize ∧
            (msg.external.data.isNone ∨ msg.external.size ≠ msg.payloadSize ∨
              msg.external.retainFn.isNone ∨ msg.external.releaseFn.isNone) then .errContract
        else .ok
      | .streamView =>
        if msg.storage = .inline then .errContract
        else if msg.storage = .external ∧ (msg.external.retainFn.isSome ∨
            msg.external.releaseFn.isSome ∨ msg.external.lifecycleCtx.isSome) then .errContract
        else if msg.storage = .external ∧ 0 < msg.payloadSize ∧
            (msg.external.data.isNone ∨ msg.external.size ≠ msg.payloadSize) then .errContract
        else .ok

/-- `ev_msg_dispose`. A message without the cookie is stamped, never released. -/
def dispose (cb : Callbacks P ω) (msg : Msg P) (w : ω) : Result × Msg P × ω :=
  if !msg.hasCookie then
    let stamped : Msg P := blank
    (.ok, { stamped with flags := stamped.flags ||| msgFlagDisposed }, w)
  else if msg.isDisposed then (.ok, msg, w)
  else
    (.ok, { msg.clearPayload with flags := msg.flags ||| msgFlagDisposed }, msg.releasePayload cb w)

/-- A message that owns nothing: neither inline bytes nor an external payload. -/
def Empty (msg : Msg P) : Prop := msg.storage = .none ∧ msg.payloadSize = 0

@[simp] theorem blank_empty : (blank : Msg P).Empty := ⟨rfl, rfl⟩

@[simp] theorem zeroed_empty : (zeroed : Msg P).Empty := ⟨rfl, rfl⟩

@[simp] theorem clearPayload_empty (msg : Msg P) : msg.clearPayload.Empty := ⟨rfl, rfl⟩

theorem releasePayload_of_empty (cb : Callbacks P ω) {msg : Msg P} (h : msg.Empty) (w : ω) :
    msg.releasePayload cb w = w := by
  simp [releasePayload, h.1]

@[simp] theorem dispose_result (cb : Callbacks P ω) (msg : Msg P) (w : ω) :
    (msg.dispose cb w).1 = .ok := by
  unfold dispose
  split
  · rfl
  · split <;> rfl

theorem dispose_empty (cb : Callbacks P ω) {msg : Msg P} (h : msg.Empty) (w : ω) :
    (msg.dispose cb w).2.2 = w := by
  unfold dispose
  split
  · rfl
  · split
    · rfl
    · exact releasePayload_of_empty cb h w

theorem dispose_live (cb : Callbacks P ω) {msg : Msg P} (hc : msg.hasCookie = true)
    (hd : msg.isDisposed = false) (w : ω) :
    (msg.dispose cb w).2.2 = msg.releasePayload cb w := by
  simp [dispose, hc, hd]

theorem validate_live {msg : Msg P} (h : msg.validate = .ok) :
    msg.hasCookie = true ∧ msg.isDisposed = false := by
  have hcookie : msg.hasCookie = true := by
    by_contra hnone
    have hrefused : msg.validate = .errState := if_pos (by simpa using hnone)
    rw [hrefused] at h
    cases h
  refine ⟨hcookie, ?_⟩
  by_contra hdisposed
  have hrefused : msg.validate = .errState :=
    (if_neg (by simp [hcookie])).trans (if_pos (by simpa using hdisposed))
  rw [hrefused] at h
  cases h

/-- `ev_msg_retain` fails without a call, has nothing to retain, or is its callback. -/
theorem retain_cases (cb : Callbacks P ω) (msg : Msg P) (w : ω) :
    (∃ rc, rc ≠ .ok ∧ msg.retain cb w = (rc, w)) ∨
    ((msg.storage ≠ .external ∨ msg.payloadSize = 0) ∧ msg.retain cb w = (.ok, w)) ∨
    ∃ fn, msg.storage = .external ∧ 0 < msg.payloadSize ∧ msg.external.retainFn = some fn ∧
      msg.retain cb w =
        cb.retain fn msg.external.lifecycleCtx msg.external.data msg.payloadSize w := by
  by_cases hcookie : msg.hasCookie = true
  · cases hmeta : eventMeta msg.eventId with
    | none => exact Or.inl ⟨.errOutOfRange, by decide, by simp [retain, hcookie, hmeta]⟩
    | some info =>
      by_cases hplain : msg.storage ≠ .external ∨ msg.payloadSize = 0
      · exact Or.inr (Or.inl ⟨hplain, by simp [retain, hcookie, hmeta, hplain]⟩)
      · obtain ⟨hstorage, hsize⟩ := not_or.mp hplain
        cases hkind : info.payloadKind with
        | lease =>
          cases hfn : msg.external.retainFn with
          | none =>
            refine Or.inl ⟨.errUnsupported, by decide, ?_⟩
            simp [retain, hcookie, hmeta, hplain, hkind, hfn]
          | some fn =>
            refine Or.inr (Or.inr ⟨fn, not_not.mp hstorage, Nat.pos_of_ne_zero hsize, rfl, ?_⟩)
            simp [retain, hcookie, hmeta, hplain, hkind, hfn]
        | streamView =>
          exact Or.inl ⟨.errUnsupported, by decide, by simp [retain, hcookie, hmeta, hplain, hkind]⟩
        | inline | copyFixed =>
          exact Or.inl ⟨.errContract, by decide, by simp [retain, hcookie, hmeta, hplain, hkind]⟩
  · exact Or.inl ⟨.errState, by decide, by simp [retain, hcookie]⟩

/-- A refused inline payload changes nothing; an accepted one replaces the old payload. -/
theorem setInlinePayload_cases (cb : Callbacks P ω) (msg : Msg P) (data : Option (List UInt8))
    (size : Nat) (w : ω) :
    (∃ rc, rc ≠ .ok ∧ msg.setInlinePayload cb data size w = (rc, msg, w)) ∨
    ∃ msg' : Msg P, msg'.storage ≠ .external ∧
      msg.setInlinePayload cb data size w = (.ok, msg', msg.releasePayload cb w) := by
  unfold setInlinePayload
  by_cases hcookie : (!msg.hasCookie) = true
  · rw [if_pos hcookie]
    exact Or.inl ⟨_, by decide, rfl⟩
  rw [if_neg hcookie]
  by_cases hdisposed : msg.isDisposed = true
  · rw [if_pos hdisposed]
    exact Or.inl ⟨_, by decide, rfl⟩
  rw [if_neg hdisposed]
  by_cases hdata : 0 < size ∧ data = none
  · rw [if_pos hdata]
    exact Or.inl ⟨_, by decide, rfl⟩
  rw [if_neg hdata]
  by_cases hlong : msgInlineCapacity < size
  · rw [if_pos hlong]
    exact Or.inl ⟨_, by decide, rfl⟩
  rw [if_neg hlong]
  cases eventMeta msg.eventId with
  | none => exact Or.inl ⟨_, by decide, rfl⟩
  | some info =>
    simp only
    split
    · exact Or.inl ⟨_, by decide, rfl⟩
    · right
      simp only [releaseAttachedPayload]
      split
      · exact ⟨_, by simp, rfl⟩
      · exact ⟨_, by simp [clearPayload], rfl⟩

theorem setExternalPayload_cases (cb : Callbacks P ω) (msg : Msg P) (data : Option P) (size : Nat)
    (retainFn releaseFn lifecycleCtx : Option P) (w : ω) :
    (∃ rc, rc ≠ .ok ∧
      msg.setExternalPayload cb data size retainFn releaseFn lifecycleCtx w = (rc, msg, w)) ∨
    msg.hasCookie = true ∧ msg.isDisposed = false ∧
      msg.setExternalPayload cb data size retainFn releaseFn lifecycleCtx w =
        (.ok, if 0 < size then
            { msg.clearPayload with
              storage := .external
              external := ⟨data, size, retainFn, releaseFn, lifecycleCtx⟩
              payloadSize := size }
          else msg.clearPayload, msg.releasePayload cb w) := by
  unfold setExternalPayload
  by_cases hcookie : (!msg.hasCookie) = true
  · rw [if_pos hcookie]
    exact Or.inl ⟨_, by decide, rfl⟩
  rw [if_neg hcookie]
  by_cases hdisposed : msg.isDisposed = true
  · rw [if_pos hdisposed]
    exact Or.inl ⟨_, by decide, rfl⟩
  rw [if_neg hdisposed]
  by_cases hdata : 0 < size ∧ data.isNone = true
  · rw [if_pos hdata]
    exact Or.inl ⟨_, by decide, rfl⟩
  rw [if_neg hdata]
  cases eventMeta msg.eventId with
  | none => exact Or.inl ⟨_, by decide, rfl⟩
  | some info =>
    simp only
    split
    · exact Or.inl ⟨_, by decide, rfl⟩
    · split
      · exact Or.inl ⟨_, by decide, rfl⟩
      · split
        · exact Or.inl ⟨_, by decide, rfl⟩
        · right
          refine ⟨by simpa using hcookie, by simpa using hdisposed, ?_⟩
          simp only [releaseAttachedPayload]
          split <;> rfl

end Msg

end EventFramework
