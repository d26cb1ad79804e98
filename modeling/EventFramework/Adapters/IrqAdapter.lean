import EventFramework.Core.Catalog
import EventFramework.Library.BitMask
import Mathlib.Logic.Function.Basic

/-!
# The interrupt adapter

`ev_irq_adapter.c`: an interrupt routine queues the status words of the GPIO hardware in a ring, and
the runtime decodes them into samples of single lines. Before a sleep the lines are disabled, and a
refused sleep enables them again.
-/

namespace EventFramework
set_option autoImplicit false

/-- `EV_ESP8266_IRQ_MAX_LINES`. -/
def irqMaxLines : Nat := 4

/-- `EV_ESP8266_IRQ_RING_CAPACITY`. -/
def irqRingCapacity : UInt32 := 64

def irqRingMask : UInt32 := irqRingCapacity - 1

def gpioIrqTriggerRising : UInt8 := 1
def gpioIrqTriggerFalling : UInt8 := 2
def gpioIrqTriggerAnyedge : UInt8 := 3

def gpioIrqPullNone : UInt8 := 0
def gpioIrqPullUp : UInt8 := 1

inductive IrqEdge where
  | rising
  | falling
  deriving DecidableEq, Repr

/-- `gpio_int_type_t`, as far as the adapter sets it. -/
inductive GpioIntr where
  | disable
  | posedge
  | negedge
  | anyedge
  deriving DecidableEq, Repr

/-- `ev_gpio_irq_line_config_t`. -/
structure IrqLineConfig where
  lineId : UInt8
  gpioNum : UInt8
  trigger : UInt8
  pullMode : UInt8
  deriving DecidableEq, Repr

structure IrqSample where
  lineId : UInt8
  edge : IrqEdge
  level : Bool
  timestampUs : UInt32
  deriving DecidableEq, Repr

namespace IrqLineConfig

def gpioMask (line : IrqLineConfig) : UInt32 := 1 <<< line.gpioNum.toUInt32

/-- `ev_esp8266_gpio_intr_type_from_cfg`. -/
def intrType (line : IrqLineConfig) : GpioIntr :=
  if line.trigger = gpioIrqTriggerRising then .posedge
  else if line.trigger = gpioIrqTriggerFalling then .negedge
  else .anyedge

/-- `ev_esp8266_irq_edge_from_sample`: the last level makes no difference. -/
def edge (line : IrqLineConfig) (level : Bool) : IrqEdge :=
  if line.trigger = gpioIrqTriggerRising then .rising
  else if line.trigger = gpioIrqTriggerFalling then .falling
  else if level then .rising
  else .falling

def isIn (line : IrqLineConfig) (mask : UInt32) : Bool := mask &&& line.gpioMask ≠ 0

def isValid (line : IrqLineConfig) : Bool :=
  decide (line.gpioNum ≤ 15) &&
    (line.trigger == gpioIrqTriggerRising || line.trigger == gpioIrqTriggerFalling ||
      line.trigger == gpioIrqTriggerAnyedge) &&
    (line.pullMode == gpioIrqPullNone || line.pullMode == gpioIrqPullUp)

/-- Two lines that may stand in one configuration. -/
def apart (line other : IrqLineConfig) : Bool :=
  !(line.lineId == other.lineId || line.gpioNum == other.gpioNum)

/-- The loops of `ev_esp8266_irq_line_configs_are_valid`. -/
def allValid : List IrqLineConfig → Bool
  | [] => true
  | line :: rest => line.isValid && rest.all line.apart && allValid rest

end IrqLineConfig

/-- `ev_esp8266_irq_line_configs_are_valid`. -/
def irqLineConfigsAreValid (lines : List IrqLineConfig) : Bool :=
  decide (lines.length ≠ 0) && decide (lines.length ≤ irqMaxLines) && IrqLineConfig.allValid lines

def irqLinesMask (lines : List IrqLineConfig) : UInt32 :=
  lines.foldl (fun mask line => mask ||| line.gpioMask) 0

/-- `ev_esp8266_irq_adapter_ctx_t` once it is configured, without its semaphore. The flags and
levels of the lines are by GPIO number, which no two lines share. -/
structure IrqAdapter where
  lines : List IrqLineConfig
  valid : irqLineConfigsAreValid lines = true
  ring : Nat → UInt32 := fun _ => 0
  writeSeq : UInt32 := 0
  readSeq : UInt32 := 0
  droppedSamples : UInt32 := 0
  decodeStatus : UInt32 := 0
  highWatermark : UInt32 := 0
  activeGpioMask : UInt32 := irqLinesMask lines
  active_eq : activeGpioMask = irqLinesMask lines := by rfl
  enabledGpioMask : UInt32 := 0
  sleepPrepareAttempts : UInt32 := 0
  sleepPrepareFailures : UInt32 := 0
  sleepPreparedGpioMask : UInt32 := 0
  sleepPrepared : Bool := false
  lastLevel : UInt8 → Bool
  armed : UInt8 → Bool := fun _ => false

/-- What the SDK answers during the initialisation. -/
structure IrqInitAnswers where
  semaphore : Bool
  gpioConfig : UInt8 → Bool
  level : UInt8 → Bool
  isrRegister : Bool

/-- What the hardware and the SDK do during one call: the results of `gpio_set_intr_type`, the
levels of the pins, and before each look at the ring and at the status register the words the
interrupt routine runs on and the status found. -/
structure IrqAnswers where
  setIntrType : UInt8 → GpioIntr → Bool
  level : UInt8 → Bool
  arrivals : Nat → List UInt32
  status : Nat → UInt32

namespace IrqAdapter

/-- `ev_esp8266_irq_port_init`. -/
def portInit (answers : IrqInitAnswers) (lines : List IrqLineConfig) : Except Result IrqAdapter :=
  if hvalid : irqLineConfigsAreValid lines = true then
    if !answers.semaphore then .error .errState
    else if !lines.all (fun line => answers.gpioConfig line.gpioNum) then .error .errState
    else if !answers.isrRegister then .error .errState
    else .ok { lines := lines, valid := hvalid, lastLevel := answers.level }
  else .error .errInvalidArg

/-- `ev_esp8266_irq_pending_count_unsafe`. -/
def pendingCount (adapter : IrqAdapter) : UInt32 :=
  let pending := adapter.writeSeq - adapter.readSeq
  if adapter.decodeStatus ≠ 0 then pending + 1 else pending

/-- `ev_esp8266_irq_push_isr`. -/
def pushIsr (adapter : IrqAdapter) (gpioStatus : UInt32) : IrqAdapter :=
  if gpioStatus = 0 then adapter
  else if adapter.writeSeq - adapter.readSeq < irqRingCapacity then
    let pendingAfter := adapter.writeSeq + 1 - adapter.readSeq
    { adapter with
      ring := Function.update adapter.ring (adapter.writeSeq &&& irqRingMask).toNat gpioStatus
      writeSeq := adapter.writeSeq + 1
      highWatermark :=
        if adapter.highWatermark < pendingAfter then pendingAfter else adapter.highWatermark }
  else { adapter with droppedSamples := adapter.droppedSamples + 1 }

/-- `ev_esp8266_irq_isr` on the interrupt bits of the status register. -/
def isr (adapter : IrqAdapter) (status : UInt32) : IrqAdapter :=
  let status := status &&& adapter.activeGpioMask
  if status = 0 then adapter else pushIsr adapter status

def selectLine (adapter : IrqAdapter) : Option IrqLineConfig :=
  adapter.lines.find? fun line => line.isIn adapter.decodeStatus

def decodeLine (adapter : IrqAdapter) (level : UInt8 → Bool) (timestampUs : UInt32) :
    Except Result IrqSample × IrqAdapter :=
  match adapter.selectLine with
  | none => (.error .errEmpty, adapter)
  | some line =>
    (.ok ⟨line.lineId, line.edge (level line.gpioNum), level line.gpioNum, timestampUs⟩,
      { adapter with
        decodeStatus := adapter.decodeStatus &&& ~~~line.gpioMask
        lastLevel := Function.update adapter.lastLevel line.gpioNum (level line.gpioNum) })

/-- `ev_esp8266_irq_pop`. -/
def pop (adapter : IrqAdapter) (level : UInt8 → Bool) (timestampUs : UInt32) :
    Except Result IrqSample × IrqAdapter :=
  if adapter.decodeStatus = 0 then
    if adapter.readSeq = adapter.writeSeq then (.error .errEmpty, adapter)
    else
      { adapter with
        decodeStatus :=
          adapter.ring (adapter.readSeq &&& irqRingMask).toNat &&& adapter.activeGpioMask
        readSeq := adapter.readSeq + 1 }.decodeLine level timestampUs
  else adapter.decodeLine level timestampUs

/-- `pending_samples` of `ev_esp8266_irq_get_stats`. -/
def pendingSamples (adapter : IrqAdapter) : UInt32 :=
  adapter.writeSeq - adapter.readSeq + if adapter.decodeStatus ≠ 0 then 1 else 0

/-- An adapter that was just initialised has nothing queued, nothing enabled and nothing prepared. -/
structure Fresh (lines : List IrqLineConfig) (adapter : IrqAdapter) : Prop where
  lines : adapter.lines = lines
  seqs : adapter.readSeq = adapter.writeSeq
  decode : adapter.decodeStatus = 0
  enabled : adapter.enabledGpioMask = 0
  prepared : adapter.sleepPreparedGpioMask = 0 ∧ adapter.sleepPrepared = false
  armed : ∀ gpioNum, adapter.armed gpioNum = false

theorem portInit_fresh {answers : IrqInitAnswers} {lines : List IrqLineConfig} {adapter : IrqAdapter}
    (h : portInit answers lines = .ok adapter) : adapter.Fresh lines := by
  unfold portInit at h
  split at h
  · split at h
    · cases h
    · split at h
      · cases h
      · split at h
        · cases h
        · obtain rfl := Except.ok.inj h
          exact ⟨rfl, rfl, rfl, rfl, ⟨rfl, rfl⟩, fun _ => rfl⟩
  · cases h

end IrqAdapter

end EventFramework
