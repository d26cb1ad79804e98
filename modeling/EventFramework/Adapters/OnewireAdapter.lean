import EventFramework.Actors.DevicePorts

/-!
# The 1-Wire adapter

`ev_onewire_adapter.c`: a software master on one open-drain pin. Every slot and every reset is timed
with the scheduler suspended; the pin, the timer and the scheduler are those of an `OnewireHal` and may
do anything.
-/

namespace EventFramework
set_option autoImplicit false

variable {ε α : Type}

inductive GpioMode where
  | outputOd
  | defInput
  deriving DecidableEq, Repr

/-- The configuration that `ev_esp8266_onewire_port_init` hands to `gpio_config`. -/
structure OnewirePinConfig where
  pinBitMask : UInt32
  mode : GpioMode
  pullUpEn : Bool
  intrEnabled : Bool
  deriving DecidableEq, Repr

/-- The functions of the SDK that the adapter calls; `gpioConfig` returns whether it succeeded. -/
structure OnewireHal (ε : Type) where
  gpioConfig : OnewirePinConfig → ε → Bool × ε
  setDirection : Int → GpioMode → ε → ε
  setLevel : Int → Bool → ε → ε
  getLevel : Int → ε → Bool × ε
  delayUs : Nat → ε → ε
  getTime : ε → Int × ε
  suspendAll : ε → ε
  resumeAll : ε → ε

/-- `ev_esp8266_onewire_adapter_ctx_t`. -/
structure OnewireCtx where
  dataPin : Int := -1
  configured : Bool := false
  busy : Bool := false
  operationsStarted : UInt32 := 0
  sleepPrepareAttempts : UInt32 := 0
  sleepPrepareFailures : UInt32 := 0
  busErrors : UInt32 := 0
  criticalSections : UInt32 := 0
  resetCriticalSections : UInt32 := 0
  bitCriticalSections : UInt32 := 0
  maxCriticalSectionUs : UInt32 := 0
  maxResetCriticalSectionUs : UInt32 := 0
  maxBitCriticalSectionUs : UInt32 := 0
  criticalSectionBudgetViolations : UInt32 := 0
  maxResetLowHoldUs : UInt32 := 0
  deriving DecidableEq, Repr

structure OnewireState (ε : Type) where
  ctx : OnewireCtx
  env : ε

/-- `ev_esp8266_onewire_diag_snapshot_t`: the context without its pin, and the level of the line. -/
structure OnewireDiag where
  operationsStarted : UInt32
  sleepPrepareAttempts : UInt32
  sleepPrepareFailures : UInt32
  busErrors : UInt32
  criticalSections : UInt32
  resetCriticalSections : UInt32
  bitCriticalSections : UInt32
  maxCriticalSectionUs : UInt32
  maxResetCriticalSectionUs : UInt32
  maxBitCriticalSectionUs : UInt32
  criticalSectionBudgetViolations : UInt32
  maxResetLowHoldUs : UInt32
  configured : Bool
  busy : Bool
  dqHigh : Bool
  deriving DecidableEq, Repr

def onewireResetLowUs : Nat := 480
def onewirePresenceSampleUs : Nat := 70
def onewireResetReleaseUs : Nat := 410
def onewireWrite1LowUs : Nat := 6
def onewireWrite1ReleaseUs : Nat := 64
def onewireWrite0LowUs : Nat := 60
def onewireWrite0ReleaseUs : Nat := 10
def onewireReadInitLowUs : Nat := 6
def onewireReadSampleUs : Nat := 9
def onewireReadReleaseUs : Nat := 55
def onewireReleaseSettleUs : Nat := 4
def onewireResetTimingSectionBudgetUs : UInt32 := 1250
def onewireBitTimingSectionBudgetUs : UInt32 := 120

namespace OnewireCtx

def elapsedUs (startUs endUs : Int) : UInt32 :=
  if endUs ≤ startUs then 0
  else if endUs - startUs > 4294967295 then 4294967295
  else UInt32.ofNat (endUs - startUs).toNat

def recordTimingSection (elapsedUs : UInt32) (resetSection : Bool) (ctx : OnewireCtx) : OnewireCtx :=
  let budgetUs :=
    if resetSection then onewireResetTimingSectionBudgetUs else onewireBitTimingSectionBudgetUs
  let ctx := { ctx with criticalSections := ctx.criticalSections + 1 }
  let ctx :=
    if elapsedUs > budgetUs then
      { ctx with criticalSectionBudgetViolations := ctx.criticalSectionBudgetViolations + 1 }
    else ctx
  let ctx :=
    if elapsedUs > ctx.maxCriticalSectionUs then { ctx with maxCriticalSectionUs := elapsedUs }
    else ctx
  if resetSection then
    let ctx := { ctx with resetCriticalSections := ctx.resetCriticalSections + 1 }
    if elapsedUs > ctx.maxResetCriticalSectionUs then
      { ctx with maxResetCriticalSectionUs := elapsedUs }
    else ctx
  else
    let ctx := { ctx with bitCriticalSections := ctx.bitCriticalSections + 1 }
    if elapsedUs > ctx.maxBitCriticalSectionUs then { ctx with maxBitCriticalSectionUs := elapsedUs }
    else ctx

def recordResetLowHold (elapsedUs : UInt32) (ctx : OnewireCtx) : OnewireCtx :=
  if elapsedUs > ctx.maxResetLowHoldUs then { ctx with maxResetLowHoldUs := elapsedUs } else ctx

def countBusError (ctx : OnewireCtx) : OnewireCtx := { ctx with busErrors := ctx.busErrors + 1 }

def pinIsValid (pin : Int) : Bool := decide (0 ≤ pin) && decide (pin ≤ 16)

def isValid (ctx : OnewireCtx) : Bool := ctx.configured && pinIsValid ctx.dataPin

def beginOperation (ctx : OnewireCtx) : OnewireCtx :=
  { ctx with busy := true, operationsStarted := ctx.operationsStarted + 1 }

def endOperation (ctx : OnewireCtx) : OnewireCtx := { ctx with busy := false }

end OnewireCtx

namespace OnewireAdapter

open OnewireCtx

def updateCtx (f : OnewireCtx → OnewireCtx) (s : OnewireState ε) : OnewireState ε :=
  { s with ctx := f s.ctx }

def act (f : ε → ε) (s : OnewireState ε) : OnewireState ε := { s with env := f s.env }

def ask (f : ε → α × ε) (s : OnewireState ε) : α × OnewireState ε :=
  ((f s.env).1, { s with env := (f s.env).2 })

variable (hal : OnewireHal ε)

def driveLow (s : OnewireState ε) : OnewireState ε :=
  act (hal.setLevel s.ctx.dataPin false) (act (hal.setDirection s.ctx.dataPin .outputOd) s)

def releaseBus (s : OnewireState ε) : OnewireState ε :=
  act (hal.setDirection s.ctx.dataPin .defInput) s

def sampleBus (s : OnewireState ε) : Bool × OnewireState ε := ask (hal.getLevel s.ctx.dataPin) s

def delayUs (us : Nat) : OnewireState ε → OnewireState ε := act (hal.delayUs us)

/-- The time section from `startUs` on ends here. -/
def recordSection (startUs : Int) (resetSection : Bool) (s : OnewireState ε) : OnewireState ε :=
  let stop := ask hal.getTime s
  updateCtx (recordTimingSection (elapsedUs startUs stop.1) resetSection) stop.2

theorem updateCtx_ctx (f : OnewireCtx → OnewireCtx) (s : OnewireState ε) :
    (updateCtx f s).ctx = f s.ctx := rfl

theorem ask_ctx (f : ε → α × ε) (s : OnewireState ε) : (ask f s).2.ctx = s.ctx := rfl

theorem recordSection_ctx (startUs : Int) (resetSection : Bool) (s : OnewireState ε) :
    (recordSection hal startUs resetSection s).ctx =
      recordTimingSection (elapsedUs startUs (ask hal.getTime s).1) resetSection s.ctx := by
  unfold recordSection
  rw [updateCtx_ctx, ask_ctx]

/-- `ev_esp8266_onewire_bit_io_unlocked` with what it sampled. -/
def bitIo (bitValue : UInt8) (s : OnewireState ε) : UInt8 × OnewireState ε :=
  let start := ask hal.getTime s
  let s := delayUs hal onewireReadInitLowUs (driveLow hal start.2)
  let s := if bitValue ≠ 0 then releaseBus hal s else s
  let sampled := sampleBus hal (delayUs hal onewireReadSampleUs s)
  let s := releaseBus hal (delayUs hal onewireReadReleaseUs sampled.2)
  (if sampled.1 then 1 else 0, recordSection hal start.1 false s)

/-- The body of the loop of `ev_esp8266_onewire_write_byte`. -/
def writeBit (value : UInt8) (s : OnewireState ε) : OnewireState ε :=
  let start := ask hal.getTime s
  let s := driveLow hal start.2
  let s :=
    if value &&& 0x01 ≠ 0 then
      delayUs hal onewireWrite1ReleaseUs (releaseBus hal (delayUs hal onewireWrite1LowUs s))
    else delayUs hal onewireWrite0ReleaseUs (releaseBus hal (delayUs hal onewireWrite0LowUs s))
  recordSection hal start.1 false s

/-- The loop of `ev_esp8266_onewire_write_byte` with so many bits left. -/
def writeBits : Nat → UInt8 → OnewireState ε → OnewireState ε
  | 0, _, s => s
  | left + 1, value, s => writeBits left (value >>> 1) (writeBit hal value s)

/-- The loop of `ev_esp8266_onewire_read_byte` with so many bits left. -/
def readBits : Nat → UInt8 → OnewireState ε → UInt8 × OnewireState ε
  | 0, value, s => (value, s)
  | left + 1, value, s =>
    let sampled := bitIo hal 1 s
    let value := value >>> 1
    readBits left (if sampled.1 ≠ 0 then value ||| 0x80 else value) sampled.2

/-- An operation between the suspension of the scheduler and its resumption, or the refusal of
one. -/
def operation (refused : α) (body : OnewireState ε → α × OnewireState ε) (s : OnewireState ε) :
    α × OnewireState ε :=
  let s := act hal.suspendAll s
  if !s.ctx.isValid || s.ctx.busy then (refused, act hal.resumeAll (updateCtx countBusError s))
  else
    let out := body (updateCtx beginOperation s)
    (out.1, act hal.resumeAll (updateCtx endOperation out.2))

/-- The waveform of a reset: the level in the presence window and the level at its end. -/
def resetPulse (s : OnewireState ε) : (Bool × Bool) × OnewireState ε :=
  let resetStart := ask hal.getTime s
  let lowStart := ask hal.getTime resetStart.2
  let lowEnd := ask hal.getTime (delayUs hal onewireResetLowUs (driveLow hal lowStart.2))
  let s := updateCtx (recordResetLowHold (elapsedUs lowStart.1 lowEnd.1)) lowEnd.2
  let presence := sampleBus hal (delayUs hal onewirePresenceSampleUs (releaseBus hal s))
  let idle := sampleBus hal (delayUs hal onewireResetReleaseUs presence.2)
  ((presence.1, idle.1), recordSection hal resetStart.1 true idle.2)

/-- The levels of a reset, if it was admitted. -/
def reset (s : OnewireState ε) : OnewireStatus × OnewireState ε :=
  let out := operation hal none (fun s => ((some (resetPulse hal s).1), (resetPulse hal s).2)) s
  match out.1 with
  | none => (.errBus, out.2)
  | some (presenceHigh, idleHigh) =>
    let stuckLow := !idleHigh
    if stuckLow then (.errBus, updateCtx countBusError out.2)
    else if presenceHigh then (.errNoDevice, out.2)
    else (.ok, out.2)

def writeByte (value : UInt8) (s : OnewireState ε) : OnewireStatus × OnewireState ε :=
  operation hal .errBus (fun s => (.ok, writeBits hal 8 value s)) s

/-- A refused call leaves the caller's byte as it was, here `0`. -/
def readByte (s : OnewireState ε) : (OnewireStatus × UInt8) × OnewireState ε :=
  operation hal (.errBus, 0)
    (fun s => ((.ok, (readBits hal 8 0 s).1), (readBits hal 8 0 s).2)) s

def getDiag (s : OnewireState ε) : OnewireDiag × OnewireState ε :=
  let ctx := s.ctx
  let level := if ctx.isValid then sampleBus hal s else (false, s)
  ({ operationsStarted := ctx.operationsStarted
     sleepPrepareAttempts := ctx.sleepPrepareAttempts
     sleepPrepareFailures := ctx.sleepPrepareFailures
     busErrors := ctx.busErrors
     criticalSections := ctx.criticalSections
     resetCriticalSections := ctx.resetCriticalSections
     bitCriticalSections := ctx.bitCriticalSections
     maxCriticalSectionUs := ctx.maxCriticalSectionUs
     maxResetCriticalSectionUs := ctx.maxResetCriticalSectionUs
     maxBitCriticalSectionUs := ctx.maxBitCriticalSectionUs
     criticalSectionBudgetViolations := ctx.criticalSectionBudgetViolations
     maxResetLowHoldUs := ctx.maxResetLowHoldUs
     configured := ctx.configured
     busy := ctx.busy
     dqHigh := level.1 }, level.2)

def prepareForSleep (s : OnewireState ε) : Result × OnewireState ε :=
  if !s.ctx.isValid then (.errState, s)
  else
    let s := updateCtx (fun ctx =>
      { ctx with sleepPrepareAttempts := ctx.sleepPrepareAttempts + 1 }) s
    if s.ctx.busy then
      (.errState, updateCtx (fun ctx =>
        { ctx with sleepPrepareFailures := ctx.sleepPrepareFailures + 1 }) s)
    else
      let level := sampleBus hal (delayUs hal onewireReleaseSettleUs (releaseBus hal s))
      if !level.1 then
        (.errState, updateCtx (fun ctx =>
          { ctx with
            sleepPrepareFailures := ctx.sleepPrepareFailures + 1
            busErrors := ctx.busErrors + 1 }) level.2)
      else (.ok, level.2)

def portInit (dataPin : Int) (s : OnewireState ε) : Result × OnewireState ε :=
  if !pinIsValid dataPin then (.errInvalidArg, s)
  else
    let configured := ask (hal.gpioConfig
      { pinBitMask := UInt32.ofNat (1 <<< dataPin.toNat)
        mode := .outputOd
        pullUpEn := false
        intrEnabled := false }) s
    if !configured.1 then (.errState, configured.2)
    else
      let s := act (hal.setLevel dataPin true) configured.2
      (.ok, { s with ctx := { dataPin := dataPin, configured := true } })

/-- The port that `ev_esp8266_onewire_port_init` binds. -/
def port : OnewirePort (OnewireState ε) where
  reset := reset hal
  writeByte := writeByte hal
  readByte := readByte hal

end OnewireAdapter

end EventFramework
