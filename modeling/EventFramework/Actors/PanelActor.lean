import EventFramework.Actors.Mcp23008Actor

/-!
# The panel actor

`ev_panel_actor.c`: debounce and hold counters for four buttons. The actor samples the last input
mask on every tick of 100 ms and publishes what a button did.
-/

namespace EventFramework
set_option autoImplicit false

variable {P ω : Type}

def panelButtonCount : Nat := 4

def panelDebounceTicks : UInt8 := 1

def panelLongPressTicks : UInt16 := 10

inductive ButtonAction where
  | press
  | release
  | short
  | long
  deriving DecidableEq, Repr

/-- `EV_BUTTON_ACTION_*`. -/
def ButtonAction.code : ButtonAction → UInt8
  | .press => 1
  | .release => 2
  | .short => 3
  | .long => 4

/-- `ev_panel_actor_ctx_t`, with its port left out. The counters are by button. -/
structure PanelActor where
  rawMask : UInt8 := 0
  stableMask : UInt8 := 0
  longReportedMask : UInt8 := 0
  debounceTicks : Nat → UInt8 := fun _ => 0
  holdTicks : Nat → UInt16 := fun _ => 0
  rawValid : Bool := false

/-- The panel actor calls no port but its delivery callback. -/
abbrev PanelState (P ω : Type) := Running PanelActor P Empty ω

namespace PanelActor

def bit (buttonId : Nat) : UInt8 := 1 <<< UInt8.ofNat buttonId

def publishButtonEvent (port : ActorPort P ω) (buttonId : Nat) (action : ButtonAction)
    (s : PanelState P ω) : Result × PanelState P ω :=
  s.publishEvent port .buttonEvent .panel (some [UInt8.ofNat buttonId, action.code])

def handleInputsChanged (s : PanelState P ω) (msg : Inbound) : Result × PanelState P ω :=
  match msg.payload with
  | none => (.errContract, s)
  | some payload =>
    if msg.payloadSize ≠ 2 then (.errContract, s)
    else
      (.ok, s.setCtx { s.ctx with rawMask := payload 0 &&& mcp23008ButtonMask, rawValid := true })

def setDebounce (ctx : PanelActor) (buttonId : Nat) (ticks : UInt8) : PanelActor :=
  { ctx with debounceTicks := Function.update ctx.debounceTicks buttonId ticks }

def pressed (ctx : PanelActor) (buttonId : Nat) : PanelActor :=
  { ctx with
    stableMask := ctx.stableMask ||| bit buttonId
    holdTicks := Function.update ctx.holdTicks buttonId 0
    longReportedMask := ctx.longReportedMask &&& ~~~bit buttonId }

def released (ctx : PanelActor) (buttonId : Nat) : PanelActor :=
  { ctx with stableMask := ctx.stableMask &&& ~~~bit buttonId }

def forgotten (ctx : PanelActor) (buttonId : Nat) : PanelActor :=
  { ctx with
    holdTicks := Function.update ctx.holdTicks buttonId 0
    longReportedMask := ctx.longReportedMask &&& ~~~bit buttonId }

def held (ctx : PanelActor) (buttonId : Nat) : PanelActor :=
  if ctx.holdTicks buttonId < 0xFFFF then
    { ctx with
      holdTicks := Function.update ctx.holdTicks buttonId (ctx.holdTicks buttonId + 1) }
  else ctx

def longReported (ctx : PanelActor) (buttonId : Nat) : PanelActor :=
  { ctx with longReportedMask := ctx.longReportedMask ||| bit buttonId }

/-- The branch of a button whose raw and stable states differ for long enough. -/
def changeButton (port : ActorPort P ω) (buttonId : Nat) (rawPressed : Bool) (s : PanelState P ω) :
    Result × PanelState P ω :=
  if rawPressed then publishButtonEvent port buttonId .press (s.setCtx (s.ctx.pressed buttonId))
  else
    let release := publishButtonEvent port buttonId .release (s.setCtx (s.ctx.released buttonId))
    if release.1 ≠ .ok then release
    else
      let short :=
        if release.2.ctx.longReportedMask &&& bit buttonId = 0 then
          publishButtonEvent port buttonId .short release.2
        else release
      (short.1, short.2.setCtx (short.2.ctx.forgotten buttonId))

/-- The branch of a button whose raw and stable states agree. -/
def keepButton (port : ActorPort P ω) (buttonId : Nat) (s : PanelState P ω) :
    Result × PanelState P ω :=
  let s := s.setCtx (s.ctx.setDebounce buttonId 0)
  if s.ctx.stableMask &&& bit buttonId ≠ 0 then
    let s := s.setCtx (s.ctx.held buttonId)
    if panelLongPressTicks ≤ s.ctx.holdTicks buttonId ∧
        s.ctx.longReportedMask &&& bit buttonId = 0 then
      let long := publishButtonEvent port buttonId .long s
      if long.1 ≠ .ok then long else (.ok, long.2.setCtx (long.2.ctx.longReported buttonId))
    else (.ok, s)
  else (.ok, s)

/-- The body of the loop of `ev_panel_actor_handle_tick`. -/
def scanButton (port : ActorPort P ω) (buttonId : Nat) (s : PanelState P ω) :
    Result × PanelState P ω :=
  let rawPressed := decide (s.ctx.rawMask &&& bit buttonId ≠ 0)
  let stablePressed := decide (s.ctx.stableMask &&& bit buttonId ≠ 0)
  if rawPressed ≠ stablePressed then
    let debounced :=
      if s.ctx.debounceTicks buttonId < 0xFF then s.ctx.debounceTicks buttonId + 1
      else s.ctx.debounceTicks buttonId
    if panelDebounceTicks ≤ debounced then
      changeButton port buttonId rawPressed (s.setCtx (s.ctx.setDebounce buttonId 0))
    else (.ok, s.setCtx (s.ctx.setDebounce buttonId debounced))
  else keepButton port buttonId s

/-- The loop over the buttons, up to the first publication that fails. -/
def scanButtons (port : ActorPort P ω) : List Nat → PanelState P ω → Result × PanelState P ω
  | [], s => (.ok, s)
  | buttonId :: rest, s =>
    let out := scanButton port buttonId s
    if out.1 ≠ .ok then out else scanButtons port rest out.2

def handleTick (port : ActorPort P ω) (s : PanelState P ω) : Result × PanelState P ω :=
  if !s.ctx.rawValid then (.ok, s) else scanButtons port (List.range panelButtonCount) s

def handle (port : ActorPort P ω) (s : PanelState P ω) (msg : Inbound) : Result × PanelState P ω :=
  match msg.eventId with
  | .mcp23008InputChanged => handleInputsChanged s msg
  | .tick100ms => handleTick port s
  | _ => (.errContract, s)

def step (port : ActorPort P ω) : PanelState P ω → Inbound → PanelState P ω :=
  Running.step (handle port)

def start (outside : ω) : PanelState P ω where
  ctx := {}
  world := { outside := outside }

end PanelActor

end EventFramework
