import EventFramework.Actors.ActorAgreement
import EventFramework.Actors.Ds18b20Stall
import EventFramework.Adapters.OnewireTransfers
import EventFramework.Drivers.Ds18b20Decoding

/-!
# The DS18B20 actor on a wire

The actor, its driver, the adapter and a line with a sensor. While the diagnostics of the adapter vouch
for its transfers, the actor's history is the one that the sensor alone accounts for.
-/

namespace EventFramework
set_option autoImplicit false

open Agreement OneWire

variable {A P κ σ ω ω' : Type} {Rel : ω → ω' → Prop} {Trusted : ω → Prop}

namespace Ds18b20Driver

variable {port : OnewirePort ω} {spec : OnewirePort ω'}

theorem startConversionSkipRom_agrees (h : port.Refines spec Rel Trusted) :
    Running.Agree (A := A) (P := P) Rel Trusted (startConversionSkipRom port)
      (startConversionSkipRom spec) :=
  have convert := (Running.agree_call (A := A) (P := P) (h.writeByte 0x44)
    (DeviceCall.onewireWriteByte 0x44)).map mapOnewireStatus
  have skipRom := (Running.agree_call (h.writeByte 0xCC) (DeviceCall.onewireWriteByte 0xCC)).bind
    fun status => .ite (c := status ≠ .ok) (.pure (mapOnewireStatus status)) convert
  (Running.agree_call h.reset DeviceCall.onewireReset).bind fun status =>
    .ite (c := status ≠ .ok) (.pure (mapOnewireStatus status)) skipRom

theorem readBytes_agrees (h : port.Refines spec Rel Trusted) (remaining : Nat) :
    ∀ scratchpad, Running.Agree (A := A) (P := P) Rel Trusted (readBytes port remaining scratchpad)
      (readBytes spec remaining scratchpad) := by
  induction remaining with
  | zero => exact fun scratchpad => Agrees.pure (OnewireStatus.ok, scratchpad)
  | succ remaining ih =>
    intro scratchpad
    exact (Running.agree_call h.readByte fun out => DeviceCall.onewireReadByte out.1 out.2).bind
      fun out => .ite (c := out.1 ≠ .ok) (.pure (out.1, scratchpad)) (ih (scratchpad ++ [out.2]))

theorem readScratchpadSkipRom_agrees (h : port.Refines spec Rel Trusted) :
    Running.Agree (A := A) (P := P) Rel Trusted (readScratchpadSkipRom port)
      (readScratchpadSkipRom spec) :=
  have bytes := (readBytes_agrees (A := A) (P := P) h ds18b20ScratchpadBytes []).bind fun out =>
    .ite (c := out.1 ≠ .ok) (.pure (mapOnewireStatus out.1, out.2))
      (.pure (validateScratchpad out.2, out.2))
  have command := (Running.agree_call (h.writeByte 0xBE) (DeviceCall.onewireWriteByte 0xBE)).bind
    fun status => .ite (c := status ≠ .ok) (.pure (mapOnewireStatus status, [])) bytes
  have skipRom := (Running.agree_call (h.writeByte 0xCC) (DeviceCall.onewireWriteByte 0xCC)).bind
    fun status => .ite (c := status ≠ .ok) (.pure (mapOnewireStatus status, [])) command
  (Running.agree_call h.reset DeviceCall.onewireReset).bind fun status =>
    .ite (c := status ≠ .ok) (.pure (mapOnewireStatus status, [])) skipRom

end Ds18b20Driver

namespace Ds18b20Actor

structure PortsAgree (ports : Ds18b20Ports P ω) (spec : Ds18b20Ports P ω') (Rel : ω → ω' → Prop)
    (Trusted : ω → Prop) : Prop where
  onewire : ports.onewire.Refines spec.onewire Rel Trusted
  delivery : ports.delivery.Agree spec.delivery Rel Trusted

section Handlers

variable {ports : Ds18b20Ports P ω} {spec : Ds18b20Ports P ω'}

theorem startConversion_agrees (h : PortsAgree ports spec Rel Trusted) :
    Running.Agree Rel Trusted (startConversion ports) (startConversion spec) :=
  (Ds18b20Driver.startConversionSkipRom_agrees h.onewire).bind fun rc =>
    Running.agree_setCtx Result.ok fun ctx => recordStartResult ctx rc

theorem readTemperature_agrees (h : PortsAgree ports spec Rel Trusted) :
    Running.Agree Rel Trusted (readTemperature ports) (readTemperature spec) :=
  (Ds18b20Driver.readScratchpadSkipRom_agrees h.onewire).bind fun out =>
    .ite (c := out.1 = .ok)
      (.pure ((Ds18b20Driver.decodeCentiCelsius out.2).1,
        (Ds18b20Driver.decodeCentiCelsius out.2).2.getD 0))
      (.pure (out.1, 0))

theorem publishReady_agrees (h : PortsAgree ports spec Rel Trusted) :
    Running.Agree Rel Trusted (publishReady ports) (publishReady spec) :=
  Running.agree_publishEvent h.delivery _ _ none (by decide)

theorem publishTemperature_agrees (h : PortsAgree ports spec Rel Trusted) (centiCelsius : Int16) :
    Running.Agree Rel Trusted (publishTemperature ports centiCelsius)
      (publishTemperature spec centiCelsius) := by
  apply Running.agree_publishEvent h.delivery
  rfl

theorem acceptTemperature_agrees (h : PortsAgree ports spec Rel Trusted) (centiCelsius : Int16) :
    Running.Agree Rel Trusted (acceptTemperature ports centiCelsius)
      (acceptTemperature spec centiCelsius) :=
  have published := fun wasValid : Bool =>
    (Agrees.ite (c := (!wasValid) = true) (publishReady_agrees h) (.pure Result.ok)).bind fun rc =>
      .ite (c := rc ≠ .ok) (.pure rc) (publishTemperature_agrees h centiCelsius)
  Running.agree_ctx fun ctx =>
    (Running.agree_setCtx () fun ctx : Ds18b20Actor => { ctx with
      sensorPresent := true
      lastReadOk := true
      tempValid := true
      lastCentiCelsius := centiCelsius
      scratchpadReadsOk := ctx.scratchpadReadsOk + 1 }).bind fun _ => published ctx.tempValid

theorem readAndPublish_agrees (h : PortsAgree ports spec Rel Trusted) :
    Running.Agree Rel Trusted (readAndPublish ports) (readAndPublish spec) :=
  (Running.agree_setCtx () fun ctx : Ds18b20Actor => { ctx with conversionPending := false }).bind
    fun _ => (readTemperature_agrees h).bind fun out =>
      .ite (c := out.1 = .ok) (acceptTemperature_agrees h out.2)
        (Running.agree_setCtx Result.ok fun ctx => recordReadFailure ctx out.1)

theorem tryRead_eq {ω : Type} (ports : Ds18b20Ports P ω) (s : Ds18b20State P ω) :
    tryRead ports s =
      if (!s.ctx.conversionPending) = true then (.ok, s)
      else if (!deadlineDue s.ctx.actorNowMs s.ctx.conversionDeadlineMs) = true then
        (.ok, s.setCtx { s.ctx with conversionDeadlineSkips := s.ctx.conversionDeadlineSkips + 1 })
      else if (readAndPublish ports s).1 = .ok then startConversion ports (readAndPublish ports s).2
      else ((readAndPublish ports s).1, (readAndPublish ports s).2) := by
  rfl

theorem tryRead_agrees (h : PortsAgree ports spec Rel Trusted) :
    Running.Agree Rel Trusted (tryRead ports) (tryRead spec) := by
  have hread := (readAndPublish_agrees h).bind fun rc =>
    .ite (c := rc = .ok) (startConversion_agrees h) (.pure rc)
  have hskipped : Running.Agree Rel Trusted
      (fun s : Ds18b20State P ω => (Result.ok, s.setCtx { s.ctx with
        conversionDeadlineSkips := s.ctx.conversionDeadlineSkips + 1 }))
      (fun t : Ds18b20State P ω' => (Result.ok, t.setCtx { t.ctx with
        conversionDeadlineSkips := t.ctx.conversionDeadlineSkips + 1 })) :=
    Running.agree_setCtx Result.ok fun ctx : Ds18b20Actor => { ctx with
      conversionDeadlineSkips := ctx.conversionDeadlineSkips + 1 }
  have hdue := fun ctx : Ds18b20Actor =>
    Agrees.ite (c := (!deadlineDue ctx.actorNowMs ctx.conversionDeadlineMs) = true) hskipped hread
  have hpending := fun ctx : Ds18b20Actor =>
    Agrees.ite (c := (!ctx.conversionPending) = true) (.pure Result.ok) (hdue ctx)
  have htick := Running.agree_ctx hpending
  rw [funext (tryRead_eq ports), funext (tryRead_eq spec)]
  exact htick

theorem handle_agrees (h : PortsAgree ports spec Rel Trusted) (msg : Inbound) :
    Running.Agree Rel Trusted (fun s => handle ports s msg) (fun t => handle spec t msg) := by
  unfold handle
  cases msg.eventId with
  | bootCompleted => exact startConversion_agrees h
  | tick100ms =>
    exact (Running.agree_setCtx () fun ctx : Ds18b20Actor => { ctx with
      actorNowMs := ctx.actorNowMs + 100 }).bind fun _ => tryRead_agrees h
  | tick1s =>
    exact (Running.agree_setCtx () fun ctx : Ds18b20Actor => { ctx with
      noncanonicalTicksIgnored := ctx.noncanonicalTicksIgnored + 1 }).bind fun _ => tryRead_agrees h
  | _ => exact Agrees.pure Result.errContract

theorem step_agrees (h : PortsAgree ports spec Rel Trusted) (input : Ds18b20Input) :
    Running.Agree Rel Trusted (fun s => ((), step ports s input))
      (fun t => ((), step spec t input)) := by
  cases input with
  | message msg => exact Running.agree_step (handle_agrees h) msg
  | configureResolution resolutionBits =>
    exact Running.agree_setCtx () fun ctx : Ds18b20Actor => (ctx.configureResolution resolutionBits).2

end Handlers

end Ds18b20Actor

/-- A 1-Wire port beside a part of the world that it does not see. -/
def OnewirePort.beside (κ : Type) (port : OnewirePort ω) : OnewirePort (ω × κ) where
  reset e := ((port.reset e.1).1, (port.reset e.1).2, e.2)
  writeByte value e := ((port.writeByte value e.1).1, (port.writeByte value e.1).2, e.2)
  readByte e := ((port.readByte e.1).1, (port.readByte e.1).2, e.2)

/-- Deliveries that do not touch the 1-Wire bus. -/
def ActorPort.beyond (ω : Type) (port : ActorPort P κ) : ActorPort P (ω × κ) where
  routes := port.routes
  deliver target msg e :=
    ((port.deliver target msg e.2).1, e.1, (port.deliver target msg e.2).2)

def Beside (Rel : ω → ω' → Prop) (e : ω × κ) (e' : ω' × κ) : Prop := Rel e.1 e'.1 ∧ e.2 = e'.2

theorem OnewirePort.Refines.beside {port : OnewirePort ω} {spec : OnewirePort ω'}
    (h : port.Refines spec Rel Trusted) :
    (port.beside κ).Refines (spec.beside κ) (Beside Rel) (fun e => Trusted e.1) := by
  have hlift {R : Type} {act : ω → R × ω} {act' : ω' → R × ω'} (hact : Agrees Rel Trusted act act') :
      Agrees (Beside Rel) (fun e : ω × κ => Trusted e.1)
        (fun e => ((act e.1).1, (act e.1).2, e.2)) (fun e => ((act' e.1).1, (act' e.1).2, e.2)) :=
    { follow := fun e e' hrel htrusted =>
        ⟨(hact.follow _ _ hrel.1 htrusted).1, (hact.follow _ _ hrel.1 htrusted).2, hrel.2⟩
      earlier := fun e htrusted => hact.earlier _ htrusted }
  exact ⟨hlift h.reset, fun value => hlift (h.writeByte value), hlift h.readByte⟩

theorem ActorPort.beyond_agree (port : ActorPort P κ) (Rel : ω → ω' → Prop) (Trusted : ω → Prop) :
    (port.beyond ω).Agree (port.beyond ω') (Beside Rel) (fun e => Trusted e.1) where
  routes_eq := rfl
  deliver target msg :=
    { follow := fun e e' hrel _ => by
        obtain ⟨bus, rest⟩ := e
        obtain ⟨bus', rest'⟩ := e'
        obtain ⟨hbus, hrest⟩ := hrel
        change rest = rest' at hrest
        subst hrest
        exact ⟨rfl, hbus, rfl⟩
      earlier := fun _ htrusted => htrusted }

namespace Ds18b20Driver

section Sensor

variable (device : Device σ)

def bytesFrom : Nat → σ → List UInt8
  | 0, _ => []
  | count + 1, state =>
    ofBits (device.slots (List.replicate 8 true) state).1 ::
      bytesFrom count (device.slots (List.replicate 8 true) state).2

def selected (state : σ) : σ :=
  (device.slots (bitsOf 0xBE) (device.slots (bitsOf 0xCC) (device.restart state)).2).2

/-- A sensor sends its scratchpad when it is selected. -/
def SendsScratchpad (scratchpad : σ → List UInt8) : Prop :=
  ∀ state, bytesFrom device ds18b20ScratchpadBytes (selected device state) = scratchpad state

theorem readBytes_device (remaining : Nat) : ∀ (read : List UInt8) (s : DeviceState A P (σ × κ)),
    (readBytes ((OnewirePort.ofDevice device).beside κ) remaining read s).1 =
      (.ok, read ++ bytesFrom device remaining s.world.outside.1) := by
  induction remaining with
  | zero =>
    intro read s
    rw [bytesFrom, List.append_nil]
    rfl
  | succ remaining ih =>
    intro read s
    unfold readBytes
    refine (ih _ _).trans ?_
    rw [bytesFrom, List.append_assoc]
    rfl

theorem readScratchpadSkipRom_device {device : Device σ} {scratchpad : σ → List UInt8}
    (h : SendsScratchpad device scratchpad) (s : DeviceState A P (σ × κ)) :
    (readScratchpadSkipRom ((OnewirePort.ofDevice device).beside κ) s).1 =
      (validateScratchpad (scratchpad s.world.outside.1), scratchpad s.world.outside.1) := by
  have hbytes := readBytes_device (A := A) (P := P) device ds18b20ScratchpadBytes []
    (DeviceState.onewireWriteByte ((OnewirePort.ofDevice device).beside κ) 0xBE
      (DeviceState.onewireWriteByte ((OnewirePort.ofDevice device).beside κ) 0xCC
        (DeviceState.onewireReset ((OnewirePort.ofDevice device).beside κ) s).2).2).2
  have hsent := h s.world.outside.1
  change _ = (OnewireStatus.ok, bytesFrom device ds18b20ScratchpadBytes
    (selected device s.world.outside.1)) at hbytes
  rw [hsent] at hbytes
  unfold readScratchpadSkipRom
  simp only
  rw [if_neg (by exact not_not.mpr rfl), if_neg (by exact not_not.mpr rfl),
    if_neg (by exact not_not.mpr rfl), hbytes, if_neg (by exact not_not.mpr rfl)]

end Sensor

end Ds18b20Driver

namespace Ds18b20Actor

/-- The ports of the actor on the adapter, and on the sensor alone. -/
def onPort (port : OnewirePort ω) (delivery : ActorPort P κ) : Ds18b20Ports P (ω × κ) where
  onewire := port.beside κ
  delivery := delivery.beyond ω

theorem portsAgree (w : OnewireWorld σ) (delivery : ActorPort P κ) :
    PortsAgree (onPort (OnewireAdapter.port w.hal) delivery) (onPort (.ofDevice w.device) delivery)
      (Beside (OnewireLink.Follows w)) (fun e => OnewireLink.Certified w.device e.1.ctx) :=
  ⟨(OnewireLink.port_refines w).beside,
    delivery.beyond_agree (OnewireLink.Follows w) fun bus : OnewireState (OnewireBus σ) =>
      OnewireLink.Certified w.device bus.ctx⟩

/-- Every run of the actor on the wire, whatever its messages, its deliveries and the interrupts are,
has the history of the actor that talks to the device itself, if the certificate holds at its end. -/
theorem history_agrees (w : OnewireWorld σ) (delivery : ActorPort P κ) (inputs : List Ds18b20Input)
    (ctx : Ds18b20Actor) (bus : OnewireState (OnewireBus σ)) (state : σ) (outside : κ)
    (h : OnewireLink.Follows w bus state)
    (hcertified : OnewireLink.Certified w.device
      (Machine.run (step (onPort (OnewireAdapter.port w.hal) delivery))
        (.start ctx (bus, outside)) inputs).world.outside.1.ctx) :
    (Machine.run (step (onPort (OnewireAdapter.port w.hal) delivery))
        (.start ctx (bus, outside)) inputs).world.history =
      (Machine.run (step (onPort (.ofDevice w.device) delivery))
        (.start ctx (state, outside)) inputs).world.history := by
  have hstart : Running.Alike (C := DeviceCall) (P := P) (Beside (OnewireLink.Follows w))
      (.start ctx (bus, outside) : Ds18b20State P _) (.start ctx (state, outside) : Ds18b20State P _) :=
    ⟨rfl, rfl, h, rfl⟩
  exact ((Agrees.run (step_agrees (portsAgree w delivery)) inputs).follow _ _ hstart hcertified).2.history_eq

def warmScratchpad : List UInt8 := [0x71, 0x01, 0x4B, 0x46, 0x7F, 0xFF, 0x0F, 0x10, 0x56]

/-- A sensor that measures 23.0625 degrees: the bits since its reset, and those left to send. -/
def warmSensor : Device (List Bool × List Bool) :=
  { OnewireLink.echoDevice with
    receives := fun bit state =>
      if state.1 ++ [bit] = bitsOf 0xCC ++ bitsOf 0xBE then ([], warmScratchpad.flatMap bitsOf)
      else (state.1 ++ [bit], []) }

theorem warmSensor_sends :
    Ds18b20Driver.SendsScratchpad warmSensor fun _ => warmScratchpad := by
  intro state
  have hfresh : Ds18b20Driver.bytesFrom warmSensor ds18b20ScratchpadBytes
      (Ds18b20Driver.selected warmSensor ([], [])) = warmScratchpad := by
    decide +kernel
  exact hfresh

def acceptingDelivery : ActorPort Unit Unit where
  routes := RouteTable.generated
  deliver := fun _ _ outside => (.ok, outside)

/-- A boot and a conversion time, on a line where every call is held up for a microsecond. -/
theorem history_agrees_warm :
    let w : OnewireWorld (List Bool × List Bool) := ⟨warmSensor, fun _ => 1⟩
    let inputs := .message (boot none 0) :: List.replicate 8 (.message tick)
    (Machine.run (step (onPort (OnewireAdapter.port w.hal) acceptingDelivery))
        (.start init (OnewireLink.idleState ([], []), ())) inputs).world.history =
      (Machine.run (step (onPort (.ofDevice w.device) acceptingDelivery))
        (.start init (([], []), ())) inputs).world.history :=
  history_agrees ⟨warmSensor, fun _ => 1⟩ acceptingDelivery _ _ _ _ _
    (OnewireLink.idleState_follows _ _)
    ⟨by decide +kernel, by decide +kernel, by decide +kernel⟩

theorem readTemperature_value (ports : Ds18b20Ports P ω) (s : Ds18b20State P ω) :
    (readTemperature ports s).1 =
      if (Ds18b20Driver.readScratchpadSkipRom ports.onewire s).1.1 = .ok then
        ((Ds18b20Driver.decodeCentiCelsius
            (Ds18b20Driver.readScratchpadSkipRom ports.onewire s).1.2).1,
          (Ds18b20Driver.decodeCentiCelsius
            (Ds18b20Driver.readScratchpadSkipRom ports.onewire s).1.2).2.getD 0)
      else ((Ds18b20Driver.readScratchpadSkipRom ports.onewire s).1.1, 0) := by
  unfold readTemperature
  simp only
  split <;> rfl

/-- The temperature that the actor takes from a certified reading is the sensor's, to the hundredth of a
degree. -/
theorem readTemperature_exact (w : OnewireWorld σ) (delivery : ActorPort P κ)
    (scratchpad : σ → List UInt8) (hsends : Ds18b20Driver.SendsScratchpad w.device scratchpad)
    (s : Ds18b20State P (OnewireState (OnewireBus σ) × κ)) (state : σ)
    (h : OnewireLink.Follows w s.world.outside.1 state)
    (hcrc : Ds18b20Driver.CrcMatches (scratchpad state))
    (hrange : -5242 ≤ Ds18b20Driver.temperatureRegister (scratchpad state) ∧
      Ds18b20Driver.temperatureRegister (scratchpad state) ≤ 5242)
    (hcertified : OnewireLink.Certified w.device
      (readTemperature (onPort (OnewireAdapter.port w.hal) delivery) s).2.world.outside.1.ctx) :
    (readTemperature (onPort (OnewireAdapter.port w.hal) delivery) s).1.1 = .ok ∧
      Rounding.RoundsAway ((Ds18b20Driver.temperatureRegister (scratchpad state) * 100 : ℚ) / 16)
        (readTemperature (onPort (OnewireAdapter.port w.hal) delivery) s).1.2.toInt := by
  have halike : Running.Alike (Beside (OnewireLink.Follows w)) s
      (⟨s.ctx, (state, s.world.outside.2), s.world.history⟩ : Ds18b20State P (σ × κ)) :=
    ⟨rfl, rfl, h, rfl⟩
  have hsame := ((readTemperature_agrees (portsAgree w delivery)).follow _ _ halike hcertified).1
  have hread : (Ds18b20Driver.readScratchpadSkipRom (onPort (.ofDevice w.device) delivery).onewire
      (⟨s.ctx, (state, s.world.outside.2), s.world.history⟩ : Ds18b20State P (σ × κ))).1 =
        (Ds18b20Driver.validateScratchpad (scratchpad state), scratchpad state) :=
    Ds18b20Driver.readScratchpadSkipRom_device hsends _
  have hvalid : Ds18b20Driver.validateScratchpad (scratchpad state) = .ok :=
    if_neg (not_not.mpr hcrc)
  have hmeasured : (readTemperature (onPort (.ofDevice w.device) delivery)
      (⟨s.ctx, (state, s.world.outside.2), s.world.history⟩ : Ds18b20State P (σ × κ))).1 =
        (.ok, Int16.ofInt (Ds18b20Driver.scaled
          (Ds18b20Driver.temperatureRegister (scratchpad state)))) := by
    rw [readTemperature_value, hread]
    simp only
    rw [if_pos hvalid]
    unfold Ds18b20Driver.decodeCentiCelsius
    rw [Ds18b20Driver.decodeMeasurement_match hcrc]
    rfl
  rw [hsame, hmeasured]
  have hfits := Ds18b20Driver.scaled_fits_iff.mpr hrange
  refine ⟨rfl, ?_⟩
  simp only
  rw [Int16.toInt_ofInt_of_le (by omega) (by omega)]
  exact Ds18b20Driver.scaled_rounds _

theorem readTemperature_exact_warm :
    let w : OnewireWorld (List Bool × List Bool) := ⟨warmSensor, fun _ => 1⟩
    let s : Ds18b20State Unit (OnewireState (OnewireBus (List Bool × List Bool)) × Unit) :=
      .start init (OnewireLink.idleState ([], []), ())
    (readTemperature (onPort (OnewireAdapter.port w.hal) acceptingDelivery) s).1.1 = .ok ∧
      Rounding.RoundsAway ((Ds18b20Driver.temperatureRegister warmScratchpad * 100 : ℚ) / 16)
        (readTemperature (onPort (OnewireAdapter.port w.hal) acceptingDelivery) s).1.2.toInt :=
  readTemperature_exact ⟨warmSensor, fun _ => 1⟩ acceptingDelivery (fun _ => warmScratchpad)
    warmSensor_sends _ ([], []) (OnewireLink.idleState_follows _ _) (by decide +kernel)
    (by decide +kernel) ⟨by decide +kernel, by decide +kernel, by decide +kernel⟩

end Ds18b20Actor

end EventFramework
