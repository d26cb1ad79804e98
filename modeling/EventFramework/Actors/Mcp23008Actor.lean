import EventFramework.Actors.DevicePorts

/-!
# The MCP23008 actor

`ev_mcp23008_actor.c`: four buttons and four LEDs on an I2C expander. The actor configures the
expander, reads the buttons on every tick of 100 ms and publishes the changes.
-/

namespace EventFramework
set_option autoImplicit false

variable {P ω : Type}

def mcp23008ButtonMask : UInt8 := 0x0F

def mcp23008LedMask : UInt8 := 0x0F

def mcp23008RegIodir : UInt8 := 0x00

def mcp23008RegIocon : UInt8 := 0x05

def mcp23008RegGppu : UInt8 := 0x06

def mcp23008RegGpio : UInt8 := 0x09

def mcp23008RegOlat : UInt8 := 0x0A

/-- `ev_mcp23008_actor_ctx_t`, with its ports left out. -/
structure Mcp23008Actor where
  device : I2cDevice
  inputShadow : UInt8 := 0
  outputShadow : UInt8 := 0
  configured : Bool := false
  inputsValid : Bool := false
  deriving DecidableEq, Repr

structure Mcp23008Ports (P ω : Type) where
  i2c : I2cPort ω
  delivery : ActorPort P ω

abbrev Mcp23008State (P ω : Type) := DeviceState Mcp23008Actor P ω

namespace Mcp23008Actor

def normalizeButtons (rawGpio : UInt8) : UInt8 := ~~~rawGpio &&& mcp23008ButtonMask

def buildOlat (logicalLedMask : UInt8) : UInt8 := (logicalLedMask &&& mcp23008LedMask) <<< 4

def writeReg (ports : Mcp23008Ports P ω) (reg value : UInt8) (s : Mcp23008State P ω) :
    Bool × Mcp23008State P ω :=
  let out := DeviceState.writeRegs ports.i2c s.ctx.device reg [value] s
  (out.1 == .ok, out.2)

def readGpio (ports : Mcp23008Ports P ω) (s : Mcp23008State P ω) :
    Option UInt8 × Mcp23008State P ω :=
  let out := DeviceState.readRegs ports.i2c s.ctx.device mcp23008RegGpio 1 s
  (if out.1.1 = .ok then some (out.1.2 0) else none, out.2)

def publishInputChanged (ports : Mcp23008Ports P ω) (pressedMask changedMask : UInt8)
    (s : Mcp23008State P ω) : Result × Mcp23008State P ω :=
  s.publishEvent ports.delivery .mcp23008InputChanged .mcp23008
    (some [pressedMask &&& mcp23008ButtonMask, changedMask &&& mcp23008ButtonMask])

def publishReady (ports : Mcp23008Ports P ω) (s : Mcp23008State P ω) :
    Result × Mcp23008State P ω :=
  s.publishEvent ports.delivery .mcp23008Ready .mcp23008 none

def unconfigured (ctx : Mcp23008Actor) : Mcp23008Actor :=
  { ctx with configured := false, inputsValid := false }

def configuration (ctx : Mcp23008Actor) : List (UInt8 × UInt8) :=
  [(mcp23008RegIocon, 0x04), (mcp23008RegIodir, 0x0F), (mcp23008RegGppu, 0x0F),
    (mcp23008RegOlat, buildOlat ctx.outputShadow)]

def writeRegisters (ports : Mcp23008Ports P ω) : List (UInt8 × UInt8) → Mcp23008State P ω →
    Bool × Mcp23008State P ω
  | [], s => (true, s)
  | (reg, value) :: registers, s =>
    let out := writeReg ports reg value s
    if out.1 then writeRegisters ports registers out.2 else (false, out.2)

/-- The bus transactions of `ev_mcp23008_actor_try_configure` and the inputs they end with. -/
def configureBus (ports : Mcp23008Ports P ω) (s : Mcp23008State P ω) :
    Option UInt8 × Mcp23008State P ω :=
  let written := writeRegisters ports s.ctx.configuration s
  if written.1 then readGpio ports written.2 else (none, written.2)

def tryConfigure (ports : Mcp23008Ports P ω) (s : Mcp23008State P ω) :
    Result × Mcp23008State P ω :=
  let bus := configureBus ports (s.setCtx s.ctx.unconfigured)
  match bus.1 with
  | none => (.ok, bus.2)
  | some rawGpio =>
    let ready := publishReady ports (bus.2.setCtx { bus.2.ctx with
      inputShadow := normalizeButtons rawGpio, inputsValid := true, configured := true })
    if ready.1 ≠ .ok then (ready.1, ready.2.setCtx ready.2.ctx.unconfigured) else (.ok, ready.2)

def handleBoot (ports : Mcp23008Ports P ω) (s : Mcp23008State P ω) : Result × Mcp23008State P ω :=
  tryConfigure ports s

/-- The part of `ev_mcp23008_actor_handle_tick` on a configured expander. -/
def sampleInputs (ports : Mcp23008Ports P ω) (s : Mcp23008State P ω) :
    Result × Mcp23008State P ω :=
  let gpio := readGpio ports s
  match gpio.1 with
  | none => (.ok, gpio.2.setCtx gpio.2.ctx.unconfigured)
  | some rawGpio =>
    let s := gpio.2
    let pressedMask := normalizeButtons rawGpio
    if !s.ctx.inputsValid then
      (.ok, s.setCtx { s.ctx with inputShadow := pressedMask, inputsValid := true })
    else
      let changedMask := pressedMask ^^^ s.ctx.inputShadow
      if changedMask = 0 then (.ok, s)
      else
        publishInputChanged ports pressedMask changedMask
          (s.setCtx { s.ctx with inputShadow := pressedMask })

def handleTick (ports : Mcp23008Ports P ω) (s : Mcp23008State P ω) :
    Result × Mcp23008State P ω :=
  if !s.ctx.configured then
    let configured := tryConfigure ports s
    if configured.1 ≠ .ok then configured
    else if !configured.2.ctx.configured then (.ok, configured.2)
    else sampleInputs ports configured.2
  else sampleInputs ports s

/-- The outputs after an LED command: the valid bits take the values of the command. -/
def applyLedCmd (outputShadow valueMask cmdValidMask : UInt8) : UInt8 :=
  let validMask := cmdValidMask &&& mcp23008LedMask
  (outputShadow &&& ~~~validMask) ||| (valueMask &&& validMask &&& mcp23008LedMask)

def handleLedCmd (ports : Mcp23008Ports P ω) (s : Mcp23008State P ω) (msg : Inbound) :
    Result × Mcp23008State P ω :=
  match msg.payload with
  | none => (.errContract, s)
  | some cmd =>
    if msg.payloadSize ≠ 2 then (.errContract, s)
    else
      let s := s.setCtx { s.ctx with
        outputShadow := applyLedCmd s.ctx.outputShadow (cmd 0) (cmd 1) }
      if !s.ctx.configured then (.ok, s)
      else
        let out := writeReg ports mcp23008RegOlat (buildOlat s.ctx.outputShadow) s
        if out.1 then (.ok, out.2) else (.ok, out.2.setCtx out.2.ctx.unconfigured)

/-- The context that `ev_mcp23008_actor_init` leaves. -/
def fresh (device : I2cDevice) : Mcp23008Actor where
  device := device

def init (device : I2cDevice) : Result × Option Mcp23008Actor :=
  if 0x7F < device.address7bit then (.errInvalidArg, none) else (.ok, some (fresh device))

def handle (ports : Mcp23008Ports P ω) (s : Mcp23008State P ω) (msg : Inbound) :
    Result × Mcp23008State P ω :=
  match msg.eventId with
  | .bootCompleted => handleBoot ports s
  | .tick100ms => handleTick ports s
  | .panelLedSetCmd => handleLedCmd ports s msg
  | _ => (.errContract, s)

def step (ports : Mcp23008Ports P ω) : Mcp23008State P ω → Inbound → Mcp23008State P ω :=
  Running.step (handle ports)

end Mcp23008Actor

end EventFramework
