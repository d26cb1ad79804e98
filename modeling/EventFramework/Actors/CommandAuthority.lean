import EventFramework.Actors.CommandActor

/-!
# The authority of remote commands

Only a message whose payload carries the configured token can publish a command or change the
actor. All others leave everything but the statistics as it was, so that leaving them out or
putting others in their place changes nothing that can be seen.
-/

namespace EventFramework
set_option autoImplicit false

variable {P ω : Type}

namespace CommandActor

open ActorEvent (publication?)
open Running (publications publications_note)

/-- What can be seen of the actor: the context but for its statistics, the publications and the
world outside. -/
structure Visible (P ω : Type) where
  ctx : CommandActor
  published : List (Msg P × Result)
  outside : ω

def visible (s : CommandState P ω) : Visible P ω where
  ctx := { s.ctx with stats := {} }
  published := publications s
  outside := s.world.outside

def mqttRecord (msg : Inbound) : Option (List UInt8 × List UInt8) :=
  match msg.eventId with
  | .netMqttMsgRx => readRecord netMaxTopicBytes netMaxInlinePayloadBytes msg
  | .netMqttMsgRxLease => readRecord netMaxTopicStorageBytes netMaxPayloadStorageBytes msg
  | _ => none

/-- A message on the topic with a well-formed payload whose last token segment is the configured
token. -/
structure Authentic (token : Option (List UInt8)) (msg : Inbound) (topic : List UInt8)
    (segments : List CommandKvView) : Prop where
  parsed : ∃ payload, mqttRecord msg = some (topic, payload) ∧
    CommandParser.WellFormed payload segments
  carries : ∃ secret, token = some secret ∧ secret ≠ [] ∧
    CommandParser.lastValue CommandKey.token.bytes segments = some secret

/-- A message that carries no authority. -/
def Unauthenticated (token : Option (List UInt8)) (msg : Inbound) : Prop :=
  msg.eventId ≠ .tick1s ∧ ∀ topic segments, ¬Authentic token msg topic segments

/-- The topic and the capability that a command belongs to. -/
def grant : EventId → Option (List UInt8 × UInt32)
  | .panelLedSetCmd => some (commandTopicLed, commandCapLed)
  | .oledDisplayTextCmd => some (commandTopicDisplay, commandCapDisplay)
  | .sysGotoSleepCmd => some (commandTopicSleep, commandCapSleep)
  | _ => none

/-- Every publication of the step answers an authentic message on the topic of its command, and
the actor has the capability. -/
def Responds (port : Option (ActorPort P ω)) (s : CommandState P ω) (msg : Inbound) : Prop :=
  ∃ published, publications (step port s msg) = publications s ++ published ∧
    ∀ out ∈ published, ∃ topic capability segments,
      grant out.1.eventId = some (topic, capability) ∧
        s.ctx.capabilities &&& capability ≠ 0 ∧ Authentic s.ctx.token msg topic segments

@[simp] theorem visible_count (update : CommandActorStats → CommandActorStats) (s : CommandState P ω) :
    visible (count update s) = visible s := rfl

@[simp] theorem visible_rejectCapability (s : CommandState P ω) :
    visible (rejectCapability s) = visible s := visible_count _ s

@[simp] theorem visible_rejectRate (s : CommandState P ω) :
    visible (rejectRate s) = visible s := visible_count _ s

@[simp] theorem visible_rejectParse (s : CommandState P ω) :
    visible (rejectParse s) = visible s := visible_count _ s

section Visible

variable (port : Option (ActorPort P ω)) {s t : CommandState P ω}

/-- `ev_command_publish_inline` on what can be seen. -/
def sent (eventId : EventId) (payload : List UInt8) (seen : Visible P ω) : Result × Visible P ω :=
  match port with
  | none => (.errInvalidArg, seen)
  | some port =>
    let msg := ActorWorld.outgoing eventId .command (some payload)
    let out := publish port.routes port.deliver msg seen.outside
    (out.1, { seen with published := seen.published ++ [(msg, out.1)], outside := out.2.2 })

theorem publishInline_visible {eventId : EventId} {payload : List UInt8}
    (hpublishable : ActorWorld.publishable eventId .command (some payload.length) = true)
    (s : CommandState P ω) :
    (publishInline port eventId payload s).1 = (sent port eventId payload (visible s)).1 ∧
      visible (publishInline port eventId payload s).2 =
        (sent port eventId payload (visible s)).2 := by
  cases port with
  | none => exact ⟨rfl, rfl⟩
  | some port =>
    have heq : s.publishEvent port eventId .command (some payload) =
        ((publish port.routes port.deliver (ActorWorld.outgoing eventId .command (some payload))
            s.world.outside).1,
          { s with world := (ActorWorld.publish port
            (ActorWorld.outgoing eventId .command (some payload)) s.world).2 }) := by
      rw [Running.publishEvent, ActorWorld.publishEvent_eq port (by exact hpublishable)]
      rfl
    have hseen : visible { s with world := (ActorWorld.publish port
          (ActorWorld.outgoing eventId .command (some payload)) s.world).2 } =
        (sent (some port) eventId payload (visible s)).2 := by
      simp [visible, publications, sent, ActorWorld.publish, publication?, List.filterMap_append]
    unfold publishInline
    simp only [heq]
    split
    · exact ⟨rfl, (visible_count _ _).trans hseen⟩
    · exact ⟨rfl, hseen⟩

def StatsOnly (update : CommandActor → CommandActor) : Prop :=
  ∀ ctx stats, ({ update { ctx with stats := stats } with stats := {} } : CommandActor) =
    { update ctx with stats := {} }

theorem ledExecuted_same : StatsOnly ledExecuted := fun _ _ => rfl

theorem displayExecuted_same : StatsOnly displayExecuted := fun _ _ => rfl

theorem sleepExecuted_same : StatsOnly sleepExecuted := fun _ _ => rfl

theorem armed_same (nonce : List UInt8) (durationMs : UInt32) :
    StatsOnly fun ctx => ctx.armed nonce durationMs := fun _ _ => rfl

theorem disarmed_same : StatsOnly disarmed := fun _ _ => rfl

theorem armExpired_same : StatsOnly armExpired := fun _ _ => rfl

theorem ticked_same : StatsOnly ticked := fun _ _ => rfl

theorem setCtx_same {update : CommandActor → CommandActor} (hupdate : StatsOnly update)
    (h : visible s = visible t) :
    visible (s.setCtx (update s.ctx)) = visible (t.setCtx (update t.ctx)) := by
  have hctx : ({ s.ctx with stats := {} } : CommandActor) = { t.ctx with stats := {} } :=
    congrArg Visible.ctx h
  have hpublished : publications s = publications t := congrArg Visible.published h
  have houtside : s.world.outside = t.world.outside := congrArg Visible.outside h
  have hnext : ({ update s.ctx with stats := {} } : CommandActor) = { update t.ctx with stats := {} } := by
    rw [← hupdate s.ctx {}, ← hupdate t.ctx {}, hctx]
  unfold visible
  congr 1

theorem publish_same {eventId : EventId} {payload : List UInt8}
    (hpublishable : ActorWorld.publishable eventId .command (some payload.length) = true)
    (h : visible s = visible t) :
    (publishInline port eventId payload s).1 = (publishInline port eventId payload t).1 ∧
      visible (publishInline port eventId payload s).2 =
        visible (publishInline port eventId payload t).2 := by
  obtain ⟨hresult, hseen⟩ := publishInline_visible port hpublishable s
  obtain ⟨hresult', hseen'⟩ := publishInline_visible port hpublishable t
  rw [hresult, hresult', hseen, hseen', h]
  exact ⟨rfl, rfl⟩

theorem ledPublishable (value valid : UInt8) :
    ActorWorld.publishable .panelLedSetCmd .command (some [value, valid].length) = true := rfl

theorem displayPublishable {text : List UInt8} (htext : text.length < oledTextMaxChars) :
    ActorWorld.publishable .oledDisplayTextCmd .command (some (displayTextBytes text).length) =
      true := by
  have hlength : (displayTextBytes text).length = 24 := by
    unfold displayTextBytes
    simp only [List.length_cons, List.length_append, List.length_replicate]
    unfold oledTextMaxChars at htext ⊢
    omega
  rw [hlength]
  rfl

theorem sleepPublishable (durationMs : UInt32) :
    ActorWorld.publishable .sysGotoSleepCmd .command (some (wordBytes durationMs).length) = true :=
  rfl

structure SameFields (ctx ctx' : CommandActor) : Prop where
  token : ctx.token = ctx'.token
  capabilities : ctx.capabilities = ctx'.capabilities
  tickCounter : ctx.tickCounter = ctx'.tickCounter
  lastLedTick : ctx.lastLedTick = ctx'.lastLedTick
  lastDisplayTick : ctx.lastDisplayTick = ctx'.lastDisplayTick
  lastSleepTick : ctx.lastSleepTick = ctx'.lastSleepTick
  sleepArmed : ctx.sleepArmed = ctx'.sleepArmed
  sleepDurationMs : ctx.sleepDurationMs = ctx'.sleepDurationMs
  sleepExpiryTick : ctx.sleepExpiryTick = ctx'.sleepExpiryTick
  sleepNonceLen : ctx.sleepNonceLen = ctx'.sleepNonceLen
  sleepNonce : ctx.sleepNonce = ctx'.sleepNonce

theorem sameFields_of_visible (h : visible s = visible t) : SameFields s.ctx t.ctx := by
  have hctx : ({ s.ctx with stats := {} } : CommandActor) = { t.ctx with stats := {} } :=
    congrArg Visible.ctx h
  obtain ⟨h1, h2, h3, h4, h5, h6, h7, h8, h9, h10, h11, _⟩ := CommandActor.mk.inj hctx
  exact ⟨h1, h2, h3, h4, h5, h6, h7, h8, h9, h10, h11⟩

theorem SameFields.expired_eq {ctx ctx' : CommandActor} (h : SameFields ctx ctx') :
    expired ctx = expired ctx' := by
  rw [expired, expired, h.tickCounter, h.sleepExpiryTick]

theorem SameFields.confirms_eq {ctx ctx' : CommandActor} (h : SameFields ctx ctx')
    (state : CommandParseState) : confirms ctx state = confirms ctx' state := by
  rw [confirms, confirms, h.sleepArmed, h.sleepNonceLen, h.sleepNonce]

theorem SameFields.authorized_eq {ctx ctx' : CommandActor} (h : SameFields ctx ctx')
    (state : CommandParseState) : authorized ctx state = authorized ctx' state := by
  rw [authorized, authorized, h.token]

theorem handleLed_same (state : CommandParseState) (h : visible s = visible t) :
    visible (handleLed port state s).2 = visible (handleLed port state t).2 := by
  have hfields := sameFields_of_visible h
  have hlimited : tickLimited s.ctx s.ctx.lastLedTick = tickLimited t.ctx t.ctx.lastLedTick := by
    rw [tickLimited, tickLimited, hfields.tickCounter, hfields.lastLedTick]
  unfold handleLed
  rw [hfields.capabilities, hlimited]
  by_cases hcapable : t.ctx.capabilities &&& commandCapLed = 0
  · simpa only [if_pos hcapable, visible_rejectCapability] using h
  by_cases hrate : tickLimited t.ctx t.ctx.lastLedTick = true
  · simpa only [if_neg hcapable, if_pos hrate, visible_rejectRate] using h
  simp only [if_neg hcapable, if_neg hrate]
  split
  · rename_i mask valid _ _
    obtain ⟨hresult, hseen⟩ := publish_same port
      (ledPublishable (mask &&& mcp23008LedMask) (valid &&& mcp23008LedMask)) h
    rw [hresult]
    by_cases hok : (publishInline port .panelLedSetCmd
        [mask &&& mcp23008LedMask, valid &&& mcp23008LedMask] t).1 = .ok
    · simp only [if_pos hok]
      exact setCtx_same ledExecuted_same hseen
    · simp only [if_neg hok]
      exact hseen
  · simpa only [visible_rejectParse] using h

theorem handleDisplay_same (state : CommandParseState) (h : visible s = visible t) :
    visible (handleDisplay port state s).2 = visible (handleDisplay port state t).2 := by
  have hfields := sameFields_of_visible h
  have hlimited :
      tickLimited s.ctx s.ctx.lastDisplayTick = tickLimited t.ctx t.ctx.lastDisplayTick := by
    rw [tickLimited, tickLimited, hfields.tickCounter, hfields.lastDisplayTick]
  unfold handleDisplay
  rw [hfields.capabilities, hlimited]
  by_cases hcapable : t.ctx.capabilities &&& commandCapDisplay = 0
  · simpa only [if_pos hcapable, visible_rejectCapability] using h
  by_cases hrate : tickLimited t.ctx t.ctx.lastDisplayTick = true
  · simpa only [if_neg hcapable, if_pos hrate, visible_rejectRate] using h
  simp only [if_neg hcapable, if_neg hrate]
  cases state.text with
  | none => simpa only [visible_rejectParse] using h
  | some text =>
    simp only
    by_cases hguard : text.length = 0 ∨ oledTextMaxChars ≤ text.length ∨
        (!CommandParser.asciiPrintable text) = true
    · simpa only [if_pos hguard, visible_rejectParse] using h
    · have hshort : text.length < oledTextMaxChars := by
        simp only [not_or, Nat.not_le] at hguard
        exact hguard.2.1
      obtain ⟨hresult, hseen⟩ := publish_same port (displayPublishable hshort) h
      simp only [if_neg hguard]
      rw [hresult]
      by_cases hok : (publishInline port .oledDisplayTextCmd (displayTextBytes text) t).1 = .ok
      · simp only [if_pos hok]
        exact setCtx_same displayExecuted_same hseen
      · simp only [if_neg hok]
        exact hseen

theorem handleSleepArm_same (state : CommandParseState) (h : visible s = visible t) :
    visible (handleSleepArm state s).2 = visible (handleSleepArm state t).2 := by
  have hfields := sameFields_of_visible h
  have hlimited :
      tickLimited s.ctx s.ctx.lastSleepTick = tickLimited t.ctx t.ctx.lastSleepTick := by
    rw [tickLimited, tickLimited, hfields.tickCounter, hfields.lastSleepTick]
  unfold handleSleepArm
  rw [hfields.capabilities, hlimited]
  by_cases hcapable : t.ctx.capabilities &&& commandCapSleep = 0
  · simpa only [if_pos hcapable, visible_rejectCapability] using h
  by_cases hrate : tickLimited t.ctx t.ctx.lastSleepTick = true
  · simpa only [if_neg hcapable, if_pos hrate, visible_rejectRate] using h
  simp only [if_neg hcapable, if_neg hrate]
  cases parseArm state with
  | none => simpa only [visible_rejectParse] using h
  | some arming => exact setCtx_same (armed_same arming.1 arming.2) h

theorem handleSleepConfirm_same (state : CommandParseState) (h : visible s = visible t) :
    visible (handleSleepConfirm port state s).2 = visible (handleSleepConfirm port state t).2 := by
  unfold handleSleepConfirm
  simp only
  have hcounted := (visible_count
    (fun stats => { stats with sleepConfirmRequests := stats.sleepConfirmRequests + 1 }) s).trans
    (h.trans (visible_count
      (fun stats => { stats with sleepConfirmRequests := stats.sleepConfirmRequests + 1 }) t).symm)
  generalize count (fun stats =>
    { stats with sleepConfirmRequests := stats.sleepConfirmRequests + 1 }) s = s' at hcounted ⊢
  generalize count (fun stats =>
    { stats with sleepConfirmRequests := stats.sleepConfirmRequests + 1 }) t = t' at hcounted ⊢
  have hfields := sameFields_of_visible hcounted
  rw [hfields.capabilities, hfields.confirms_eq, hfields.expired_eq, hfields.sleepDurationMs]
  by_cases hcapable : t'.ctx.capabilities &&& commandCapSleep = 0
  · simpa only [if_pos hcapable, visible_rejectCapability] using hcounted
  by_cases hmismatch : (!confirms t'.ctx state) = true
  · simpa only [if_neg hcapable, if_pos hmismatch, visible_count] using hcounted
  by_cases hlate : expired t'.ctx = true
  · simp only [if_neg hcapable, if_neg hmismatch, if_pos hlate]
    exact setCtx_same armExpired_same hcounted
  obtain ⟨hresult, hseen⟩ := publish_same port (sleepPublishable t'.ctx.sleepDurationMs)
    (setCtx_same disarmed_same hcounted)
  simp only [if_neg hcapable, if_neg hmismatch, if_neg hlate]
  rw [hresult]
  by_cases hok : (publishInline port .sysGotoSleepCmd (wordBytes t'.ctx.sleepDurationMs)
      (t'.setCtx t'.ctx.disarmed)).1 = .ok
  · simp only [if_pos hok]
    exact setCtx_same sleepExecuted_same hseen
  · simp only [if_neg hok]
    exact hseen

theorem execute_same (topic : List UInt8) (state : CommandParseState) (h : visible s = visible t) :
    visible (execute port topic state s).2 = visible (execute port topic state t).2 := by
  unfold execute
  split
  · exact handleLed_same port state h
  · split
    · exact handleDisplay_same port state h
    · split
      · split
        · exact handleSleepArm_same state h
        · split
          · exact handleSleepConfirm_same port state h
          · simpa only [visible_rejectParse] using h
      · simpa only [visible_count] using h

theorem dispatch_same (topic payload : List UInt8) (h : visible s = visible t) :
    visible (dispatch port topic payload s).2 = visible (dispatch port topic payload t).2 := by
  have hcounted := (visible_count (fun stats => { stats with rxSeen := stats.rxSeen + 1 }) s).trans
    (h.trans (visible_count (fun stats => { stats with rxSeen := stats.rxSeen + 1 }) t).symm)
  unfold dispatch
  simp only
  generalize count (fun stats => { stats with rxSeen := stats.rxSeen + 1 }) s = s' at hcounted ⊢
  generalize count (fun stats => { stats with rxSeen := stats.rxSeen + 1 }) t = t' at hcounted ⊢
  by_cases hsize : topic.length = 0 ∨ commandTopicMaxBytes < topic.length ∨ payload.length = 0 ∨
      commandPayloadMaxBytes < payload.length
  · simpa only [if_pos hsize, visible_rejectParse] using hcounted
  simp only [if_neg hsize]
  cases CommandParser.parsePayload payload with
  | none => simpa only [visible_rejectParse] using hcounted
  | some state =>
    have hfields := sameFields_of_visible hcounted
    simp only
    rw [hfields.authorized_eq, hfields.token]
    by_cases hauthorized : (!authorized t'.ctx state) = true
    · simp only [if_pos hauthorized]
      by_cases hdisabled : (t'.ctx.token.getD []).length = 0
      · simpa only [if_pos hdisabled, visible_count] using hcounted
      · simpa only [if_neg hdisabled, visible_count] using hcounted
    · simp only [if_neg hauthorized]
      exact execute_same port topic state hcounted

theorem expireSleepArm_same (h : visible s = visible t) :
    visible (expireSleepArm s) = visible (expireSleepArm t) := by
  have hfields := sameFields_of_visible h
  unfold expireSleepArm
  rw [hfields.sleepArmed, hfields.expired_eq]
  by_cases hlate : (t.ctx.sleepArmed && expired t.ctx) = true
  · simp only [if_pos hlate]
    exact setCtx_same armExpired_same h
  · simpa only [if_neg hlate] using h

theorem visible_note {event : ActorEvent P Empty} (hevent : publication? event = none)
    (s : CommandState P ω) : visible (s.note event) = visible s := by
  have hpublications : publications (s.note event) = publications s := by
    rw [publications_note, List.filterMap_cons_none hevent]
    exact List.append_nil _
  unfold visible
  rw [hpublications]
  rfl

theorem handle_same (msg : Inbound) (h : visible s = visible t) :
    visible (handle port s msg).2 = visible (handle port t msg).2 := by
  unfold handle
  split
  · exact expireSleepArm_same (setCtx_same ticked_same h)
  · unfold handleInline
    split
    · simpa only [visible_rejectParse] using h
    · apply dispatch_same
      simpa only [visible_count] using h
  · unfold handleLease
    split
    · simpa only [visible_rejectParse] using h
    · apply dispatch_same
      simpa only [visible_count] using h
  · simpa only [visible_count] using h

theorem step_same (msg : Inbound) (h : visible s = visible t) :
    visible (step port s msg) = visible (step port t msg) := by
  have hreceived : visible (s.note (.received msg)) = visible (t.note (.received msg)) := by
    rw [visible_note rfl, visible_note rfl, h]
  have hhandled := handle_same port msg hreceived
  unfold step Running.step
  simp only
  rw [visible_note rfl, visible_note rfl]
  exact hhandled

end Visible

section Authority

variable (port : Option (ActorPort P ω)) (s : CommandState P ω)

theorem authorized_iff (ctx : CommandActor) (segments : List CommandKvView) :
    authorized ctx (segments.foldl CommandParser.recordKv {}) = true ↔
      ∃ secret, ctx.token = some secret ∧ secret ≠ [] ∧
        CommandParser.lastValue CommandKey.token.bytes segments = some secret := by
  have hvalue : (segments.foldl CommandParser.recordKv {}).token =
      CommandParser.lastValue CommandKey.token.bytes segments :=
    CommandParser.valueOf_eq_lastValue segments .token
  unfold authorized
  rw [hvalue]
  cases htoken : ctx.token with
  | none => simp
  | some secret =>
    cases hlast : CommandParser.lastValue CommandKey.token.bytes segments with
    | none => simp
    | some value =>
      simp only [Bool.and_eq_true, decide_eq_true_eq, beq_iff_eq, List.length_pos_iff,
        Option.some.injEq]
      constructor
      · rintro ⟨hnonempty, rfl⟩
        exact ⟨value, rfl, hnonempty, rfl⟩
      · rintro ⟨secret', rfl, hnonempty, rfl⟩
        exact ⟨hnonempty, rfl⟩

/-- A message without authority changes nothing but statistics. -/
theorem dispatch_unauthorized {topic payload : List UInt8}
    (h : ∀ segments, CommandParser.WellFormed payload segments →
      ¬∃ secret, s.ctx.token = some secret ∧ secret ≠ [] ∧
        CommandParser.lastValue CommandKey.token.bytes segments = some secret) :
    visible (dispatch port topic payload s).2 = visible s := by
  have hcounted := visible_count (fun stats => { stats with rxSeen := stats.rxSeen + 1 }) s
  have htoken : (count (fun stats => { stats with rxSeen := stats.rxSeen + 1 }) s).ctx.token =
      s.ctx.token := rfl
  unfold dispatch
  simp only
  generalize count (fun stats => { stats with rxSeen := stats.rxSeen + 1 }) s = s'
    at hcounted htoken ⊢
  by_cases hsize : topic.length = 0 ∨ commandTopicMaxBytes < topic.length ∨ payload.length = 0 ∨
      commandPayloadMaxBytes < payload.length
  · simpa only [if_pos hsize, visible_rejectParse] using hcounted
  simp only [if_neg hsize]
  cases hparse : CommandParser.parsePayload payload with
  | none => simpa only [visible_rejectParse] using hcounted
  | some state =>
    obtain ⟨segments, hwellFormed, rfl⟩ := CommandParser.parsePayload_iff.mp hparse
    have hrefused : (!authorized s'.ctx (segments.foldl CommandParser.recordKv {})) = true := by
      rw [Bool.not_eq_true', Bool.eq_false_iff]
      intro hauthorized
      apply h segments hwellFormed
      rw [← htoken]
      exact (authorized_iff _ _).mp hauthorized
    simp only [if_pos hrefused]
    by_cases hdisabled : (s'.ctx.token.getD []).length = 0
    · simpa only [if_pos hdisabled, visible_count] using hcounted
    · simpa only [if_neg hdisabled, visible_count] using hcounted

theorem step_unauthenticated {msg : Inbound} (h : Unauthenticated s.ctx.token msg) :
    visible (step port s msg) = visible s := by
  obtain ⟨htick, hnone⟩ := h
  have hreceived : visible (s.note (.received msg)) = visible s := visible_note rfl s
  -- a record that carries no authority, after either count of its kind
  have hdispatch {topic payload : List UInt8} (update : CommandActorStats → CommandActorStats)
      (hrecord : mqttRecord msg = some (topic, payload)) :
      visible (dispatch port topic payload (count update (s.note (.received msg)))).2 = visible s := by
    rw [dispatch_unauthorized]
    · simpa only [visible_count] using hreceived
    · intro segments hwellFormed hcarries
      exact hnone topic segments ⟨⟨payload, hrecord, hwellFormed⟩, hcarries⟩
  unfold step Running.step
  simp only
  rw [visible_note rfl]
  unfold handle
  split
  · rename_i hevent
    exact absurd hevent htick
  · rename_i hevent
    unfold handleInline
    split
    · simpa only [visible_rejectParse] using hreceived
    · rename_i hrecord
      refine hdispatch _ ?_
      rw [mqttRecord, hevent]
      exact hrecord
  · rename_i hevent
    unfold handleLease
    split
    · simpa only [visible_rejectParse] using hreceived
    · rename_i hrecord
      refine hdispatch _ ?_
      rw [mqttRecord, hevent]
      exact hrecord
  · simpa only [visible_count] using hreceived

/-- The handler published nothing, or one command that the topic and a capability grant. -/
def Grants (topic : List UInt8) (s s' : CommandState P ω) : Prop :=
  ∃ published, publications s' = publications s ++ published ∧
    ∀ out ∈ published, ∃ capability, grant out.1.eventId = some (topic, capability) ∧
      s.ctx.capabilities &&& capability ≠ 0

theorem grants_of_visible {topic : List UInt8} {s s' : CommandState P ω}
    (h : visible s' = visible s) : Grants topic s s' := by
  refine ⟨[], ?_, fun _ hmem => absurd hmem List.not_mem_nil⟩
  rw [List.append_nil]
  exact congrArg Visible.published h

theorem grants_setCtx {topic : List UInt8} {s s' : CommandState P ω} (ctx : CommandActor)
    (h : Grants topic s s') : Grants topic s (s'.setCtx ctx) := h

theorem publishInline_grants {topic : List UInt8} {eventId : EventId} {capability : UInt32}
    {payload : List UInt8} {s : CommandState P ω}
    (hpublishable : ActorWorld.publishable eventId .command (some payload.length) = true)
    (hgrant : grant eventId = some (topic, capability))
    (hcapable : s.ctx.capabilities &&& capability ≠ 0) :
    Grants topic s (publishInline port eventId payload s).2 := by
  have hseen : publications (publishInline port eventId payload s).2 =
      (sent port eventId payload (visible s)).2.published :=
    congrArg Visible.published (publishInline_visible port hpublishable s).2
  cases port with
  | none => exact grants_of_visible rfl
  | some port =>
    rw [sent] at hseen
    refine ⟨_, hseen, ?_⟩
    intro out hmem
    rw [List.mem_singleton.mp hmem]
    exact ⟨capability, hgrant, hcapable⟩

theorem handleLed_grants (state : CommandParseState) (s : CommandState P ω) :
    Grants commandTopicLed s (handleLed port state s).2 := by
  unfold handleLed
  split
  · exact grants_of_visible (visible_rejectCapability s)
  · rename_i hcapable
    split
    · exact grants_of_visible (visible_rejectRate s)
    · split
      · rename_i mask valid _ _
        have hgrants := publishInline_grants port
          (ledPublishable (mask &&& mcp23008LedMask) (valid &&& mcp23008LedMask)) rfl hcapable
        simp only
        split
        · exact grants_setCtx _ hgrants
        · exact hgrants
      · exact grants_of_visible (visible_rejectParse s)

theorem handleDisplay_grants (state : CommandParseState) (s : CommandState P ω) :
    Grants commandTopicDisplay s (handleDisplay port state s).2 := by
  unfold handleDisplay
  split
  · exact grants_of_visible (visible_rejectCapability s)
  · rename_i hcapable
    split
    · exact grants_of_visible (visible_rejectRate s)
    · split
      · exact grants_of_visible (visible_rejectParse s)
      · split
        · exact grants_of_visible (visible_rejectParse s)
        · rename_i text _ hguard
          have hshort : text.length < oledTextMaxChars := by
            simp only [not_or, Nat.not_le] at hguard
            exact hguard.2.1
          have hgrants := publishInline_grants port (displayPublishable hshort) rfl hcapable
          simp only
          split
          · exact grants_setCtx _ hgrants
          · exact hgrants

theorem handleSleepArm_grants (state : CommandParseState) (s : CommandState P ω) :
    Grants commandTopicSleep s (handleSleepArm state s).2 := by
  have hnothing (ctx : CommandActor) : Grants commandTopicSleep s (s.setCtx ctx) :=
    grants_setCtx ctx (grants_of_visible rfl)
  unfold handleSleepArm
  split
  · exact grants_of_visible (visible_rejectCapability s)
  · split
    · exact grants_of_visible (visible_rejectRate s)
    · split
      · exact grants_of_visible (visible_rejectParse s)
      · exact hnothing _

theorem handleSleepConfirm_grants (state : CommandParseState) (s : CommandState P ω) :
    Grants commandTopicSleep s (handleSleepConfirm port state s).2 := by
  unfold handleSleepConfirm
  simp only
  have hcounted := visible_count
    (fun stats => { stats with sleepConfirmRequests := stats.sleepConfirmRequests + 1 }) s
  have hcapabilities : (count (fun stats =>
      { stats with sleepConfirmRequests := stats.sleepConfirmRequests + 1 }) s).ctx.capabilities =
      s.ctx.capabilities := rfl
  generalize count (fun stats =>
    { stats with sleepConfirmRequests := stats.sleepConfirmRequests + 1 }) s = s'
    at hcounted hcapabilities ⊢
  split
  · exact grants_of_visible ((visible_rejectCapability s').trans hcounted)
  · rename_i hcapable
    split
    · exact grants_of_visible ((visible_count _ s').trans hcounted)
    · split
      · exact grants_setCtx _ (grants_of_visible hcounted)
      · have hgrants : Grants commandTopicSleep (s'.setCtx s'.ctx.disarmed) _ :=
          publishInline_grants port (sleepPublishable s'.ctx.sleepDurationMs) rfl hcapable
        have hsame : Grants commandTopicSleep s (publishInline port .sysGotoSleepCmd
            (wordBytes s'.ctx.sleepDurationMs) (s'.setCtx s'.ctx.disarmed)).2 := by
          obtain ⟨published, hpublished, hall⟩ := hgrants
          refine ⟨published, hpublished.trans ?_, ?_⟩
          · exact congrArg (· ++ published) (congrArg Visible.published hcounted)
          · intro out hmem
            obtain ⟨capability, hgrant, hset⟩ := hall out hmem
            exact ⟨capability, hgrant, hcapabilities ▸ hset⟩
        split
        · exact grants_setCtx _ hsame
        · exact hsame

theorem execute_grants (topic : List UInt8) (state : CommandParseState) (s : CommandState P ω) :
    Grants topic s (execute port topic state s).2 := by
  unfold execute
  split
  · rename_i htopic
    rw [htopic]
    exact handleLed_grants port state s
  · split
    · rename_i htopic
      rw [htopic]
      exact handleDisplay_grants port state s
    · split
      · rename_i htopic
        rw [htopic]
        split
        · exact handleSleepArm_grants state s
        · split
          · exact handleSleepConfirm_grants port state s
          · exact grants_of_visible (visible_rejectParse s)
      · exact grants_of_visible (visible_count _ s)

theorem dispatch_grants (topic payload : List UInt8) (s : CommandState P ω) :
    Grants topic s (dispatch port topic payload s).2 := by
  have hcounted := visible_count (fun stats => { stats with rxSeen := stats.rxSeen + 1 }) s
  unfold dispatch
  simp only
  split
  · exact grants_of_visible ((visible_rejectParse _).trans hcounted)
  · split
    · exact grants_of_visible ((visible_rejectParse _).trans hcounted)
    · split
      · split
        · exact grants_of_visible ((visible_count _ _).trans hcounted)
        · exact grants_of_visible ((visible_count _ _).trans hcounted)
      · exact execute_grants port topic _
          (count (fun stats => { stats with rxSeen := stats.rxSeen + 1 }) s)

def config (s : CommandState P ω) : Option (List UInt8) × UInt32 :=
  (s.ctx.token, s.ctx.capabilities)

section Frame

variable {α : Type} (read : CommandActor → α)
  (hstats : ∀ ctx stats, read { ctx with stats := stats } = read ctx)

include hstats

theorem publishInline_read (eventId : EventId) (payload : List UInt8) (s : CommandState P ω) :
    read (publishInline port eventId payload s).2.ctx = read s.ctx := by
  cases port with
  | none => rfl
  | some port =>
    unfold publishInline
    simp only
    split
    · exact hstats s.ctx _
    · rfl

theorem handleLed_read (hled : ∀ ctx, read ctx.ledExecuted = read ctx) (state : CommandParseState)
    (s : CommandState P ω) : read (handleLed port state s).2.ctx = read s.ctx := by
  unfold handleLed
  split
  · exact hstats s.ctx _
  · split
    · exact hstats s.ctx _
    · split
      · rename_i mask valid _ _
        have hsent := publishInline_read port read hstats .panelLedSetCmd
          [mask &&& mcp23008LedMask, valid &&& mcp23008LedMask] s
        simp only
        split
        · exact (hled _).trans hsent
        · exact hsent
      · exact hstats s.ctx _

theorem handleDisplay_read (hdisplay : ∀ ctx, read ctx.displayExecuted = read ctx)
    (state : CommandParseState) (s : CommandState P ω) :
    read (handleDisplay port state s).2.ctx = read s.ctx := by
  unfold handleDisplay
  split
  · exact hstats s.ctx _
  · split
    · exact hstats s.ctx _
    · split
      · exact hstats s.ctx _
      · split
        · exact hstats s.ctx _
        · rename_i text _ _
          have hsent := publishInline_read port read hstats .oledDisplayTextCmd (displayTextBytes text) s
          simp only
          split
          · exact (hdisplay _).trans hsent
          · exact hsent

end Frame

theorem handleSleepArm_config (state : CommandParseState) (s : CommandState P ω) :
    config (handleSleepArm state s).2 = config s := by
  unfold handleSleepArm
  split
  · rfl
  · split
    · rfl
    · split <;> rfl

theorem handleSleepConfirm_config (state : CommandParseState) (s : CommandState P ω) :
    config (handleSleepConfirm port state s).2 = config s := by
  unfold handleSleepConfirm
  simp only
  split
  · rfl
  · split
    · rfl
    · split
      · rfl
      · have hsent (s : CommandState P ω) : config (publishInline port .sysGotoSleepCmd
            (wordBytes s.ctx.sleepDurationMs) (s.setCtx s.ctx.disarmed)).2 = config s :=
          publishInline_read port (fun ctx => (ctx.token, ctx.capabilities)) (fun _ _ => rfl) _ _ _
        split
        · exact hsent _
        · exact hsent _

theorem execute_config (topic : List UInt8) (state : CommandParseState) (s : CommandState P ω) :
    config (execute port topic state s).2 = config s := by
  unfold execute
  split
  · exact handleLed_read port (fun ctx => (ctx.token, ctx.capabilities)) (fun _ _ => rfl)
      (fun _ => rfl) state s
  · split
    · exact handleDisplay_read port (fun ctx => (ctx.token, ctx.capabilities)) (fun _ _ => rfl)
        (fun _ => rfl) state s
    · split
      · split
        · exact handleSleepArm_config state s
        · split
          · exact handleSleepConfirm_config port state s
          · rfl
      · rfl

theorem dispatch_config (topic payload : List UInt8) (s : CommandState P ω) :
    config (dispatch port topic payload s).2 = config s := by
  unfold dispatch
  simp only
  split
  · rfl
  · split
    · rfl
    · split
      · split <;> rfl
      · exact execute_config port topic _ _

theorem step_config (msg : Inbound) (s : CommandState P ω) :
    config (step port s msg) = config s := by
  have hhandled : config (handle port (s.note (.received msg)) msg).2 = config s := by
    unfold handle
    split
    · unfold expireSleepArm
      split <;> rfl
    · unfold handleInline
      split
      · rfl
      · exact dispatch_config port _ _ _
    · unfold handleLease
      split
      · rfl
      · exact dispatch_config port _ _ _
    · rfl
  exact hhandled

/-- What a handler published, from the state before and after it. -/
theorem responds_of_record {s s' : CommandState P ω} {msg : Inbound} {topic payload : List UInt8}
    (hrecord : mqttRecord msg = some (topic, payload)) (hs' : visible s' = visible s)
    (hconfig : config s' = config s) :
    ∃ published, publications (dispatch port topic payload s').2 = publications s ++ published ∧
      ∀ out ∈ published, ∃ topic capability segments,
        grant out.1.eventId = some (topic, capability) ∧
          s.ctx.capabilities &&& capability ≠ 0 ∧ Authentic s.ctx.token msg topic segments := by
  have htoken : s'.ctx.token = s.ctx.token := congrArg Prod.fst hconfig
  have hcapabilities : s'.ctx.capabilities = s.ctx.capabilities := congrArg Prod.snd hconfig
  have hpublications : publications s' = publications s := congrArg Visible.published hs'
  by_cases hauthority : ∃ segments, CommandParser.WellFormed payload segments ∧
      ∃ secret, s'.ctx.token = some secret ∧ secret ≠ [] ∧
        CommandParser.lastValue CommandKey.token.bytes segments = some secret
  · obtain ⟨segments, hwellFormed, hcarries⟩ := hauthority
    obtain ⟨published, hpublished, hall⟩ := dispatch_grants port topic payload s'
    refine ⟨published, hpublished.trans (congrArg (· ++ published) hpublications), ?_⟩
    intro out hmem
    obtain ⟨capability, hgrant, hcapable⟩ := hall out hmem
    refine ⟨topic, capability, segments, hgrant, hcapabilities ▸ hcapable, ?_⟩
    exact ⟨⟨payload, hrecord, hwellFormed⟩, htoken ▸ hcarries⟩
  · have hquiet : visible (dispatch port topic payload s').2 = visible s' :=
      dispatch_unauthorized port s' fun segments hwellFormed hcarries =>
        hauthority ⟨segments, hwellFormed, hcarries⟩
    refine ⟨[], ?_, fun _ hmem => absurd hmem List.not_mem_nil⟩
    rw [List.append_nil, ← hpublications]
    exact congrArg Visible.published hquiet

theorem step_responds (s : CommandState P ω) (msg : Inbound) : Responds port s msg := by
  have hnothing {s' : CommandState P ω} (h : publications s' = publications s) :
      ∃ published, publications s' = publications s ++ published ∧
        ∀ out ∈ published, ∃ topic capability segments,
          grant out.1.eventId = some (topic, capability) ∧
            s.ctx.capabilities &&& capability ≠ 0 ∧ Authentic s.ctx.token msg topic segments :=
    ⟨[], by rw [h, List.append_nil], fun _ hmem => absurd hmem List.not_mem_nil⟩
  have hreceived : visible (s.note (.received msg)) = visible s := visible_note rfl s
  have hreturned : publications (step port s msg) =
      publications (handle port (s.note (.received msg)) msg).2 :=
    congrArg Visible.published (visible_note rfl _)
  unfold Responds
  rw [hreturned]
  unfold handle
  split
  · apply hnothing
    refine Eq.trans ?_ (congrArg Visible.published hreceived)
    unfold expireSleepArm
    split <;> rfl
  · rename_i hevent
    unfold handleInline
    split
    · exact hnothing (congrArg Visible.published hreceived)
    · rename_i topic payload hrecord
      refine responds_of_record port ?_ ((visible_count _ _).trans hreceived) rfl
      rw [mqttRecord, hevent]
      exact hrecord
  · rename_i hevent
    unfold handleLease
    split
    · exact hnothing (congrArg Visible.published hreceived)
    · rename_i topic payload hrecord
      refine responds_of_record port ?_ ((visible_count _ _).trans hreceived) rfl
      rw [mqttRecord, hevent]
      exact hrecord
  · exact hnothing (congrArg Visible.published hreceived)

theorem step_disabled {s : CommandState P ω} (hdisabled : s.ctx.token.getD [] = []) (msg : Inbound) :
    publications (step port s msg) = publications s := by
  obtain ⟨published, hpublished, hall⟩ := step_responds port s msg
  cases published with
  | nil => rw [hpublished, List.append_nil]
  | cons out rest =>
    obtain ⟨_, _, _, _, _, hauthentic⟩ := hall out List.mem_cons_self
    obtain ⟨secret, hsecret, hnonempty, _⟩ := hauthentic.carries
    rw [hsecret] at hdisabled
    exact absurd hdisabled hnonempty

end Authority

/-- Messages without authority are inert: a run without them, or with others in their place, has
the same context but for the statistics and the same publications at every point. Every
publication answers an authentic message on its topic, and there is none without a token. -/
theorem unauthenticated_inert (port : Option (ActorPort P ω)) (token : Option (Nat → UInt8))
    (capabilities : UInt32) (outside : ω) (msgs : List Inbound) :
    (∀ msgs', Machine.Altered (Unauthenticated (init token capabilities).token) msgs msgs' →
      ∀ earlier, earlier <+: msgs → ∃ earlier', earlier' <+: msgs' ∧
        Machine.Altered (Unauthenticated (init token capabilities).token) earlier earlier' ∧
        visible (Machine.run (step port) (start token capabilities outside) earlier) =
          visible (Machine.run (step port) (start token capabilities outside) earlier')) ∧
      Machine.Each (step port) (Responds port) (start token capabilities outside) msgs ∧
      ((init token capabilities).token.getD [] = [] →
        publications (Machine.run (step port) (start token capabilities outside) msgs) = []) := by
  refine ⟨?_, ?_, ?_⟩
  · intro msgs' haltered earlier hpre
    obtain ⟨earlier', hpre', hsame⟩ := haltered.points earlier hpre
    refine ⟨earlier', hpre', hsame, ?_⟩
    apply hsame.observe_eq visible fun s => s.ctx.token = (init token capabilities).token
    · intro s msg htoken
      exact (congrArg Prod.fst (step_config port msg s)).trans htoken
    · intro s msg htoken hinert
      exact step_unauthenticated port s (htoken ▸ hinert)
    · exact fun s t msg h => step_same port msg h
    · rfl
    · rfl
    · rfl
  · intro earlier msg _
    exact step_responds port _ msg
  · intro hdisabled
    have hkeep (s : CommandState P ω) (msg : Inbound)
        (h : s.ctx.token.getD [] = [] ∧ publications s = []) :
        (step port s msg).ctx.token.getD [] = [] ∧ publications (step port s msg) = [] := by
      have htoken : (step port s msg).ctx.token = s.ctx.token :=
        congrArg Prod.fst (step_config port msg s)
      constructor
      · rw [htoken]
        exact h.1
      · exact (step_disabled port h.1 msg).trans h.2
    exact (Machine.always_of_step hkeep ⟨hdisabled, rfl⟩ msgs).last.2

end CommandActor

end EventFramework
