import EventFramework.Adapters.IrqRing

/-!
# Sleep preparation of the interrupt lines

The part of `ev_irq_adapter.c` that enables lines and takes them down before a sleep, and the
system port of `ev_platform_ports.c` that calls it.
-/

namespace EventFramework
set_option autoImplicit false

namespace IrqAdapter

/-- `ev_esp8266_irq_enable`. -/
def enable (adapter : IrqAdapter) (answers : IrqAnswers) (lineId : UInt8) (enabled : Bool) :
    Result × IrqAdapter :=
  match adapter.lines.find? fun line => line.lineId == lineId with
  | none => (.errNotFound, adapter)
  | some line =>
    let adapter := { adapter with
      lastLevel := Function.update adapter.lastLevel line.gpioNum (answers.level line.gpioNum) }
    if answers.setIntrType line.gpioNum (if enabled then line.intrType else .disable) then
      (.ok, { adapter with
        armed := Function.update adapter.armed line.gpioNum enabled
        enabledGpioMask :=
          if enabled then adapter.enabledGpioMask ||| line.gpioMask
          else adapter.enabledGpioMask &&& ~~~line.gpioMask })
    else (.errState, adapter)

/-- The body of the loop of `ev_esp8266_irq_restore_mask`. -/
def restoreLine (answers : IrqAnswers) (gpioMask : UInt32) (out : Result × IrqAdapter)
    (line : IrqLineConfig) : Result × IrqAdapter :=
  if line.isIn gpioMask then
    if answers.setIntrType line.gpioNum line.intrType then
      (out.1, { out.2 with
        armed := Function.update out.2.armed line.gpioNum true
        enabledGpioMask := out.2.enabledGpioMask ||| line.gpioMask })
    else (.errState, out.2)
  else out

/-- `ev_esp8266_irq_restore_mask`: the lines are forgotten whether they were restored or not. -/
def restoreMask (adapter : IrqAdapter) (answers : IrqAnswers) (gpioMask : UInt32) :
    Result × IrqAdapter :=
  let out := adapter.lines.foldl (restoreLine answers gpioMask) (.ok, adapter)
  let prepared := out.2.sleepPreparedGpioMask &&& ~~~gpioMask
  (out.1, { out.2 with sleepPreparedGpioMask := prepared, sleepPrepared := decide (prepared ≠ 0) })

def isQuiet (adapter : IrqAdapter) (status : UInt32) : Bool :=
  decide (adapter.pendingCount = 0) && decide (status &&& adapter.activeGpioMask = 0)

def arrive (adapter : IrqAdapter) (words : List UInt32) : IrqAdapter := words.foldl isr adapter

def recordFailure (adapter : IrqAdapter) : IrqAdapter :=
  { adapter with sleepPrepareFailures := adapter.sleepPrepareFailures + 1 }

/-- `ev_esp8266_irq_confirm_sleep_ready`. -/
def confirmSleepReady (adapter : IrqAdapter) (answers : IrqAnswers) (look : Nat) :
    Result × IrqAdapter :=
  let adapter := adapter.arrive (answers.arrivals look)
  if adapter.isQuiet (answers.status look) then (.ok, adapter) else (.errState, adapter.recordFailure)

/-- `ev_esp8266_irq_abort_sleep_prepare`. -/
def abortSleepPrepare (adapter : IrqAdapter) (answers : IrqAnswers) : Result × IrqAdapter :=
  if adapter.sleepPrepared then adapter.restoreMask answers adapter.sleepPreparedGpioMask
  else (.ok, adapter)

/-- `ev_esp8266_irq_commit_sleep_prepare`. -/
def commitSleepPrepare (adapter : IrqAdapter) (answers : IrqAnswers) : Result × IrqAdapter :=
  if adapter.sleepPrepared then
    let ready := adapter.confirmSleepReady answers 0
    if ready.1 ≠ .ok then (.errState, ready.2) else (.ok, ready.2)
  else (.ok, adapter)

/-- The loop that disables the armed lines: whether it got through, and the lines it disabled. -/
def disarmLines (answers : IrqAnswers) :
    List IrqLineConfig → UInt32 → IrqAdapter → Bool × UInt32 × IrqAdapter
  | [], mask, adapter => (true, mask, adapter)
  | line :: rest, mask, adapter =>
    if adapter.armed line.gpioNum then
      if answers.setIntrType line.gpioNum .disable then
        disarmLines answers rest (mask ||| line.gpioMask) { adapter with
          armed := Function.update adapter.armed line.gpioNum false
          enabledGpioMask := adapter.enabledGpioMask &&& ~~~line.gpioMask }
      else (false, mask, adapter)
    else disarmLines answers rest mask adapter

/-- `ev_esp8266_irq_prepare_for_sleep`. -/
def prepareForSleep (adapter : IrqAdapter) (answers : IrqAnswers) : Result × IrqAdapter :=
  let adapter := { adapter with sleepPrepareAttempts := adapter.sleepPrepareAttempts + 1 }
  if adapter.sleepPrepared then (.ok, adapter)
  else
    let adapter := adapter.arrive (answers.arrivals 0)
    if adapter.isQuiet (answers.status 0) then
      let disarmed := disarmLines answers adapter.lines 0 adapter
      if disarmed.1 then
        let adapter := disarmed.2.2.arrive (answers.arrivals 1)
        if adapter.isQuiet (answers.status 1) then
          (.ok, { adapter with
            sleepPreparedGpioMask := disarmed.2.1, sleepPrepared := decide (disarmed.2.1 ≠ 0) })
        else (.errState, (adapter.recordFailure.restoreMask answers disarmed.2.1).2)
      else (.errState, (disarmed.2.2.recordFailure.restoreMask answers disarmed.2.1).2)
    else (.errState, adapter.recordFailure)

end IrqAdapter

def sleepResourceI2c0 : UInt32 := 1
def sleepResourceOnewire0 : UInt32 := 2
def sleepResourceGpioIrq : UInt32 := 4

/-- `ev_esp8266_system_adapter_ctx_t` with the interrupt adapter it calls. -/
structure SystemAdapter where
  irq : IrqAdapter
  resourceMask : UInt32
  sleepPrepared : Bool := false

/-- The answers to one call of the system port: `onewire` and `i2c` are the results of the
preparations of the other adapters. -/
structure SystemAnswers where
  irq : IrqAnswers
  onewire : Result
  i2c : Result

namespace SystemAdapter

def uses (system : SystemAdapter) (resource : UInt32) : Bool := system.resourceMask &&& resource ≠ 0

/-- `ev_system_abort_sleep_prepare_impl`. -/
def abortSleepPrepare (system : SystemAdapter) (answers : IrqAnswers) : Result × SystemAdapter :=
  if system.sleepPrepared then
    let irq :=
      if system.uses sleepResourceGpioIrq then system.irq.abortSleepPrepare answers
      else (.ok, system.irq)
    (irq.1, { system with irq := irq.2, sleepPrepared := false })
  else (.ok, system)

/-- The roll-back of `ev_system_prepare_for_sleep_impl`. -/
def refuse (system : SystemAdapter) (answers : IrqAnswers) (rc : Result) : Result × SystemAdapter :=
  if system.uses sleepResourceGpioIrq then
    (rc, { system with irq := (system.irq.abortSleepPrepare answers).2 })
  else (rc, system)

/-- `ev_system_prepare_for_sleep_impl`. -/
def prepareForSleep (system : SystemAdapter) (answers : SystemAnswers) : Result × SystemAdapter :=
  if system.sleepPrepared then (.ok, system)
  else
    let irq :=
      if system.uses sleepResourceGpioIrq then system.irq.prepareForSleep answers.irq
      else (.ok, system.irq)
    let system := { system with irq := irq.2 }
    if irq.1 ≠ .ok then (irq.1, system)
    else if system.uses sleepResourceOnewire0 ∧ answers.onewire ≠ .ok then
      system.refuse answers.irq answers.onewire
    else if system.uses sleepResourceI2c0 ∧ answers.i2c ≠ .ok then
      system.refuse answers.irq answers.i2c
    else
      let ready :=
        if system.uses sleepResourceGpioIrq then system.irq.confirmSleepReady answers.irq 2
        else (.ok, system.irq)
      let system := { system with irq := ready.2 }
      if ready.1 ≠ .ok then system.refuse answers.irq ready.1
      else (.ok, { system with sleepPrepared := true })

/-- `ev_system_deep_sleep_impl`: a deep sleep that returns has failed. -/
def deepSleep (system : SystemAdapter) (answers : IrqAnswers) : Result × SystemAdapter :=
  let irq :=
    if system.uses sleepResourceGpioIrq then system.irq.commitSleepPrepare answers
    else (.ok, system.irq)
  let system := { system with irq := irq.2 }
  if irq.1 ≠ .ok then (irq.1, (system.abortSleepPrepare answers).2)
  else (.errState, system)

end SystemAdapter

end EventFramework
