import EventFramework.Actors.CommandParser
import EventFramework.Actors.Mcp23008Actor
import EventFramework.Actors.OledActor
import EventFramework.Actors.PowerActor
import EventFramework.Core.PortNet

/-!
# The command actor

`ev_command_actor.c`: remote commands that arrive over MQTT. A command needs the configured
token; the sleep command needs an arming with a nonce and, within a window of ticks, a
confirmation with the same nonce.
-/

namespace EventFramework
set_option autoImplicit false

variable {P ω : Type}

def commandCapLed : UInt32 := 0x1

def commandCapDisplay : UInt32 := 0x2

def commandCapSleep : UInt32 := 0x4

def commandTokenMaxBytes : Nat := 32

def commandTopicMaxBytes : Nat := 16

def commandSleepNonceMaxBytes : Nat := 16

def commandMinIntervalTicks : UInt32 := 1

def commandSleepConfirmWindowTicks : UInt32 := 30

def commandDisplayPage : UInt8 := 0

def commandDisplayColumn : UInt8 := 0

def commandTopicLed : List UInt8 := asciiBytes ['c', 'm', 'd', '/', 'l', 'e', 'd']

def commandTopicDisplay : List UInt8 :=
  asciiBytes ['c', 'm', 'd', '/', 'd', 'i', 's', 'p', 'l', 'a', 'y']

def commandTopicSleep : List UInt8 := asciiBytes ['c', 'm', 'd', '/', 's', 'l', 'e', 'e', 'p']

structure CommandActorStats where
  ticksSeen : UInt32 := 0
  rxSeen : UInt32 := 0
  rxInlineSeen : UInt32 := 0
  rxLeaseSeen : UInt32 := 0
  unknownTopic : UInt32 := 0
  authRejects : UInt32 := 0
  disabledRejects : UInt32 := 0
  capabilityRejects : UInt32 := 0
  parseErrors : UInt32 := 0
  rateLimited : UInt32 := 0
  commandsExecuted : UInt32 := 0
  ledCommands : UInt32 := 0
  displayCommands : UInt32 := 0
  sleepArmRequests : UInt32 := 0
  sleepConfirmRequests : UInt32 := 0
  sleepCommands : UInt32 := 0
  sleepExpired : UInt32 := 0
  sleepConfirmMismatch : UInt32 := 0
  publishFailures : UInt32 := 0
  deriving DecidableEq, Repr

/-- `token` holds `token_len` bytes and is `none` for a null pointer. -/
structure CommandActor where
  token : Option (List UInt8)
  capabilities : UInt32
  tickCounter : UInt32 := 0
  lastLedTick : UInt32 := 0xFFFFFFFF
  lastDisplayTick : UInt32 := 0xFFFFFFFF
  lastSleepTick : UInt32 := 0xFFFFFFFF
  sleepArmed : Bool := false
  sleepDurationMs : UInt32 := 0
  sleepExpiryTick : UInt32 := 0
  sleepNonceLen : UInt8 := 0
  sleepNonce : List UInt8 := List.replicate commandSleepNonceMaxBytes 0
  stats : CommandActorStats := {}
  deriving DecidableEq, Repr

/-- A command actor calls no port but its delivery callback. -/
abbrev CommandState (P ω : Type) := Running CommandActor P Empty ω

namespace CommandActor

/-- The bytes of a C string before its terminator, at most `maxLen`. -/
def boundedCstr (text : Nat → UInt8) (maxLen : Nat) : List UInt8 :=
  ((List.range maxLen).map text).takeWhile fun ch => ch != 0

/-- `ev_command_actor_init`. A token that is too long leaves none. -/
def init (token : Option (Nat → UInt8)) (capabilities : UInt32) : CommandActor where
  token := (token.map fun text => boundedCstr text (commandTokenMaxBytes + 1)).filter fun bytes =>
    bytes.length ≤ commandTokenMaxBytes
  capabilities := capabilities

def authorized (ctx : CommandActor) (state : CommandParseState) : Bool :=
  match ctx.token, state.token with
  | some expected, some token => 0 < expected.length && token == expected
  | _, _ => false

def tickLimited (ctx : CommandActor) (lastTick : UInt32) : Bool :=
  ctx.tickCounter - lastTick < commandMinIntervalTicks

def expired (ctx : CommandActor) : Bool :=
  ctx.tickCounter - ctx.sleepExpiryTick < 0xFFFFFFFF / 2

def ledExecuted (ctx : CommandActor) : CommandActor :=
  { ctx with
    lastLedTick := ctx.tickCounter
    stats := { ctx.stats with
      commandsExecuted := ctx.stats.commandsExecuted + 1
      ledCommands := ctx.stats.ledCommands + 1 } }

def displayExecuted (ctx : CommandActor) : CommandActor :=
  { ctx with
    lastDisplayTick := ctx.tickCounter
    stats := { ctx.stats with
      commandsExecuted := ctx.stats.commandsExecuted + 1
      displayCommands := ctx.stats.displayCommands + 1 } }

def sleepExecuted (ctx : CommandActor) : CommandActor :=
  { ctx with
    lastSleepTick := ctx.tickCounter
    stats := { ctx.stats with
      commandsExecuted := ctx.stats.commandsExecuted + 1
      sleepCommands := ctx.stats.sleepCommands + 1 } }

def armed (ctx : CommandActor) (nonce : List UInt8) (durationMs : UInt32) : CommandActor :=
  { ctx with
    sleepNonce := nonce ++ List.replicate (commandSleepNonceMaxBytes - nonce.length) 0
    sleepNonceLen := UInt8.ofNat nonce.length
    sleepDurationMs := durationMs
    sleepExpiryTick := ctx.tickCounter + commandSleepConfirmWindowTicks
    sleepArmed := true
    stats := { ctx.stats with sleepArmRequests := ctx.stats.sleepArmRequests + 1 } }

def disarmed (ctx : CommandActor) : CommandActor := { ctx with sleepArmed := false }

def armExpired (ctx : CommandActor) : CommandActor :=
  { ctx with
    sleepArmed := false
    stats := { ctx.stats with sleepExpired := ctx.stats.sleepExpired + 1 } }

def ticked (ctx : CommandActor) : CommandActor :=
  { ctx with
    tickCounter := ctx.tickCounter + 1
    stats := { ctx.stats with ticksSeen := ctx.stats.ticksSeen + 1 } }

def count (update : CommandActorStats → CommandActorStats) (s : CommandState P ω) :
    CommandState P ω :=
  s.setCtx { s.ctx with stats := update s.ctx.stats }

def rejectCapability (s : CommandState P ω) : CommandState P ω :=
  count (fun stats => { stats with capabilityRejects := stats.capabilityRejects + 1 }) s

def rejectRate (s : CommandState P ω) : CommandState P ω :=
  count (fun stats => { stats with rateLimited := stats.rateLimited + 1 }) s

def rejectParse (s : CommandState P ω) : CommandState P ω :=
  count (fun stats => { stats with parseErrors := stats.parseErrors + 1 }) s

def publishInline (port : Option (ActorPort P ω)) (eventId : EventId) (payload : List UInt8)
    (s : CommandState P ω) : Result × CommandState P ω :=
  match port with
  | none => (.errInvalidArg, s)
  | some port =>
    let out := s.publishEvent port eventId .command (some payload)
    if out.1 ≠ .ok then
      (out.1,
        count (fun stats => { stats with publishFailures := stats.publishFailures + 1 }) out.2)
    else out

def handleLed (port : Option (ActorPort P ω)) (state : CommandParseState) (s : CommandState P ω) :
    Result × CommandState P ω :=
  if s.ctx.capabilities &&& commandCapLed = 0 then (.ok, rejectCapability s)
  else if tickLimited s.ctx s.ctx.lastLedTick then (.ok, rejectRate s)
  else
    match state.mask.bind CommandParser.parseU8Hex, state.valid.bind CommandParser.parseU8Hex with
    | some mask, some valid =>
      let out := publishInline port .panelLedSetCmd
        [mask &&& mcp23008LedMask, valid &&& mcp23008LedMask] s
      if out.1 = .ok then (.ok, out.2.setCtx out.2.ctx.ledExecuted) else (.ok, out.2)
    | _, _ => (.ok, rejectParse s)

/-- The bytes of `ev_oled_display_text_cmd_t`. -/
def displayTextBytes (text : List UInt8) : List UInt8 :=
  commandDisplayPage :: commandDisplayColumn ::
    (text ++ List.replicate (oledTextMaxChars - text.length) 0)

def handleDisplay (port : Option (ActorPort P ω)) (state : CommandParseState)
    (s : CommandState P ω) : Result × CommandState P ω :=
  if s.ctx.capabilities &&& commandCapDisplay = 0 then (.ok, rejectCapability s)
  else if tickLimited s.ctx s.ctx.lastDisplayTick then (.ok, rejectRate s)
  else
    match state.text with
    | none => (.ok, rejectParse s)
    | some text =>
      if text.length = 0 ∨ oledTextMaxChars ≤ text.length ∨ !CommandParser.asciiPrintable text then
        (.ok, rejectParse s)
      else
        let out := publishInline port .oledDisplayTextCmd (displayTextBytes text) s
        if out.1 = .ok then (.ok, out.2.setCtx out.2.ctx.displayExecuted) else (.ok, out.2)

/-- The nonce and the duration of an arming that passes the checks on its values. -/
def parseArm (state : CommandParseState) : Option (List UInt8 × UInt32) :=
  match state.arm, state.ms.bind CommandParser.parseUint32Dec with
  | some nonce, some durationMs =>
    if nonce.length = 0 ∨ commandSleepNonceMaxBytes ≤ nonce.length ∨
        !CommandParser.asciiPrintable nonce ∨ durationMs = 0 ∨
        powerMaxSleepDurationMs < durationMs then
      none
    else some (nonce, durationMs)
  | _, _ => none

def handleSleepArm (state : CommandParseState) (s : CommandState P ω) :
    Result × CommandState P ω :=
  if s.ctx.capabilities &&& commandCapSleep = 0 then (.ok, rejectCapability s)
  else if tickLimited s.ctx s.ctx.lastSleepTick then (.ok, rejectRate s)
  else
    match parseArm state with
    | none => (.ok, rejectParse s)
    | some (nonce, durationMs) => (.ok, s.setCtx (s.ctx.armed nonce durationMs))

def confirms (ctx : CommandActor) (state : CommandParseState) : Bool :=
  match state.confirm with
  | none => false
  | some confirm =>
    ctx.sleepArmed && confirm.length == ctx.sleepNonceLen.toNat &&
      confirm == ctx.sleepNonce.take confirm.length

def handleSleepConfirm (port : Option (ActorPort P ω)) (state : CommandParseState)
    (s : CommandState P ω) : Result × CommandState P ω :=
  let s := count (fun stats =>
    { stats with sleepConfirmRequests := stats.sleepConfirmRequests + 1 }) s
  if s.ctx.capabilities &&& commandCapSleep = 0 then (.ok, rejectCapability s)
  else if !confirms s.ctx state then
    (.ok, count (fun stats =>
      { stats with sleepConfirmMismatch := stats.sleepConfirmMismatch + 1 }) s)
  else if expired s.ctx then (.ok, s.setCtx s.ctx.armExpired)
  else
    let out := publishInline port .sysGotoSleepCmd (wordBytes s.ctx.sleepDurationMs)
      (s.setCtx s.ctx.disarmed)
    if out.1 = .ok then (.ok, out.2.setCtx out.2.ctx.sleepExecuted) else (.ok, out.2)

/-- The handlers behind the authorization. -/
def execute (port : Option (ActorPort P ω)) (topic : List UInt8) (state : CommandParseState)
    (s : CommandState P ω) : Result × CommandState P ω :=
  if topic = commandTopicLed then handleLed port state s
  else if topic = commandTopicDisplay then handleDisplay port state s
  else if topic = commandTopicSleep then
    if state.arm.isSome then handleSleepArm state s
    else if state.confirm.isSome then handleSleepConfirm port state s
    else (.ok, rejectParse s)
  else (.ok, count (fun stats => { stats with unknownTopic := stats.unknownTopic + 1 }) s)

def dispatch (port : Option (ActorPort P ω)) (topic payload : List UInt8) (s : CommandState P ω) :
    Result × CommandState P ω :=
  let s := count (fun stats => { stats with rxSeen := stats.rxSeen + 1 }) s
  if topic.length = 0 ∨ commandTopicMaxBytes < topic.length ∨ payload.length = 0 ∨
      commandPayloadMaxBytes < payload.length then
    (.ok, rejectParse s)
  else
    match CommandParser.parsePayload payload with
    | none => (.ok, rejectParse s)
    | some state =>
      if !authorized s.ctx state then
        if (s.ctx.token.getD []).length = 0 then
          (.ok, count (fun stats => { stats with disabledRejects := stats.disabledRejects + 1 }) s)
        else (.ok, count (fun stats => { stats with authRejects := stats.authRejects + 1 }) s)
      else execute port topic state s

/-- The topic and the payload of a message record: four bytes of header, then the topic in
`topicStorage` bytes, then the payload in `payloadStorage` bytes. -/
def readRecord (topicStorage payloadStorage : Nat) (msg : Inbound) :
    Option (List UInt8 × List UInt8) :=
  msg.payload.bind fun memory =>
    if msg.payloadSize ≠ 4 + topicStorage + payloadStorage then none
    else
      some ((List.range' 4 (memory 0).toNat).map memory,
        (List.range' (4 + topicStorage) (memory 1).toNat).map memory)

def handleInline (port : Option (ActorPort P ω)) (s : CommandState P ω) (msg : Inbound) :
    Result × CommandState P ω :=
  match readRecord netMaxTopicBytes netMaxInlinePayloadBytes msg with
  | none => (.errContract, rejectParse s)
  | some (topic, payload) =>
    dispatch port topic payload
      (count (fun stats => { stats with rxInlineSeen := stats.rxInlineSeen + 1 }) s)

def handleLease (port : Option (ActorPort P ω)) (s : CommandState P ω) (msg : Inbound) :
    Result × CommandState P ω :=
  match readRecord netMaxTopicStorageBytes netMaxPayloadStorageBytes msg with
  | none => (.errContract, rejectParse s)
  | some (topic, payload) =>
    dispatch port topic payload
      (count (fun stats => { stats with rxLeaseSeen := stats.rxLeaseSeen + 1 }) s)

def expireSleepArm (s : CommandState P ω) : CommandState P ω :=
  if s.ctx.sleepArmed && expired s.ctx then s.setCtx s.ctx.armExpired else s

def handle (port : Option (ActorPort P ω)) (s : CommandState P ω) (msg : Inbound) :
    Result × CommandState P ω :=
  match msg.eventId with
  | .tick1s => (.ok, expireSleepArm (s.setCtx s.ctx.ticked))
  | .netMqttMsgRx => handleInline port s msg
  | .netMqttMsgRxLease => handleLease port s msg
  | _ => (.ok, count (fun stats => { stats with unknownTopic := stats.unknownTopic + 1 }) s)

def step (port : Option (ActorPort P ω)) : CommandState P ω → Inbound → CommandState P ω :=
  Running.step (handle port)

def start (token : Option (Nat → UInt8)) (capabilities : UInt32) (outside : ω) :
    CommandState P ω where
  ctx := init token capabilities
  world := { outside := outside }

end CommandActor

end EventFramework
