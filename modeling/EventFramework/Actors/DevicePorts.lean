import EventFramework.Actors.ActorWorld

/-!
# The ports of the device actors

The I2C, GPIO interrupt and 1-Wire functions that a device actor calls. Each acts on the
outside and may return anything; the history records every call with its outcome. The results
of the publications of one event are what the readiness of a device is judged by.
-/

namespace EventFramework
set_option autoImplicit false

variable {A P C ω : Type}

inductive I2cStatus where
  | ok
  | errTimeout
  | errNack
  | errBusLocked
  deriving DecidableEq, Repr

inductive OnewireStatus where
  | ok
  | errNoDevice
  | errBus
  deriving DecidableEq, Repr

structure I2cDevice where
  portNum : UInt8
  address7bit : UInt8
  deriving DecidableEq, Repr

/-- `ev_i2c_port_t`. A read returns what the buffer holds after it. -/
structure I2cPort (ω : Type) where
  writeStream : I2cDevice → List UInt8 → ω → I2cStatus × ω
  writeRegs : I2cDevice → UInt8 → List UInt8 → ω → I2cStatus × ω
  readRegs : I2cDevice → UInt8 → Nat → ω → (I2cStatus × (Nat → UInt8)) × ω

/-- The part of `ev_irq_port_t` that actors call. -/
structure IrqPort (ω : Type) where
  enable : UInt8 → Bool → ω → Result × ω

/-- `ev_onewire_port_t`. -/
structure OnewirePort (ω : Type) where
  reset : ω → OnewireStatus × ω
  writeByte : UInt8 → ω → OnewireStatus × ω
  readByte : ω → (OnewireStatus × UInt8) × ω

inductive DeviceCall where
  | writeStream (data : List UInt8) (status : I2cStatus)
  | writeRegs (reg : UInt8) (data : List UInt8) (status : I2cStatus)
  | readRegs (reg : UInt8) (count : Nat) (status : I2cStatus) (data : Nat → UInt8)
  | irqEnable (lineId : UInt8) (enabled : Bool) (result : Result)
  | onewireReset (status : OnewireStatus)
  | onewireWriteByte (value : UInt8) (status : OnewireStatus)
  | onewireReadByte (status : OnewireStatus) (value : UInt8)

abbrev DeviceState (A P ω : Type) := Running A P DeviceCall ω

namespace Running

def call {R : Type} (port : ω → R × ω) (record : R → C) (s : Running A P C ω) :
    R × Running A P C ω :=
  let out := port s.world.outside
  (out.1, { s with
    world := { outside := out.2, history := s.world.history ++ [.called (record out.1)] } })

end Running

namespace DeviceState

def start (ctx : A) (outside : ω) : DeviceState A P ω where
  ctx := ctx
  world := { outside := outside }

def writeStream (port : I2cPort ω) (device : I2cDevice) (data : List UInt8)
    (s : DeviceState A P ω) : I2cStatus × DeviceState A P ω :=
  s.call (port.writeStream device data) (.writeStream data)

def writeRegs (port : I2cPort ω) (device : I2cDevice) (reg : UInt8) (data : List UInt8)
    (s : DeviceState A P ω) : I2cStatus × DeviceState A P ω :=
  s.call (port.writeRegs device reg data) (.writeRegs reg data)

def readRegs (port : I2cPort ω) (device : I2cDevice) (reg : UInt8) (count : Nat)
    (s : DeviceState A P ω) : (I2cStatus × (Nat → UInt8)) × DeviceState A P ω :=
  s.call (port.readRegs device reg count) fun out => .readRegs reg count out.1 out.2

def irqEnable (port : IrqPort ω) (lineId : UInt8) (enabled : Bool) (s : DeviceState A P ω) :
    Result × DeviceState A P ω :=
  s.call (port.enable lineId enabled) (.irqEnable lineId enabled)

def onewireReset (port : OnewirePort ω) (s : DeviceState A P ω) :
    OnewireStatus × DeviceState A P ω :=
  s.call port.reset .onewireReset

def onewireWriteByte (port : OnewirePort ω) (value : UInt8) (s : DeviceState A P ω) :
    OnewireStatus × DeviceState A P ω :=
  s.call (port.writeByte value) (.onewireWriteByte value)

def onewireReadByte (port : OnewirePort ω) (s : DeviceState A P ω) :
    (OnewireStatus × UInt8) × DeviceState A P ω :=
  s.call port.readByte fun out => .onewireReadByte out.1 out.2

end DeviceState

/-- The result of an event of the history that publishes `eventId`. -/
def ActorEvent.resultOf (eventId : EventId) : ActorEvent P C → Option Result
  | .published msg result => if msg.eventId = eventId then some result else none
  | _ => none

/-- The results of the publications of `eventId`, in order. -/
def publicationResults (eventId : EventId) (history : List (ActorEvent P C)) : List Result :=
  history.filterMap (ActorEvent.resultOf eventId)

@[simp] theorem publicationResults_append (eventId : EventId) (earlier later : List (ActorEvent P C)) :
    publicationResults eventId (earlier ++ later) =
      publicationResults eventId earlier ++ publicationResults eventId later :=
  List.filterMap_append

@[simp] theorem publicationResults_nil (eventId : EventId) :
    publicationResults eventId ([] : List (ActorEvent P C)) = [] := rfl

@[simp] theorem publicationResults_received (eventId : EventId) (msg : Inbound) :
    publicationResults eventId ([.received msg] : List (ActorEvent P C)) = [] := rfl

@[simp] theorem publicationResults_called (eventId : EventId) (call : C) :
    publicationResults eventId ([.called call] : List (ActorEvent P C)) = [] := rfl

@[simp] theorem publicationResults_returned (eventId : EventId) (result : Result) :
    publicationResults eventId ([.returned result] : List (ActorEvent P C)) = [] := rfl

theorem publicationResults_calls (eventId : EventId) (calls : List C) :
    publicationResults eventId (calls.map .called : List (ActorEvent P C)) = [] := by
  induction calls with
  | nil => rfl
  | cons call calls ih => exact ih

theorem publicationResults_published (eventId : EventId) (msg : Msg P) (result : Result) :
    publicationResults eventId ([.published msg result] : List (ActorEvent P C)) =
      if msg.eventId = eventId then [result] else [] := by
  by_cases h : msg.eventId = eventId
  · simp [publicationResults, ActorEvent.resultOf, h]
  · simp [publicationResults, ActorEvent.resultOf, h]

namespace Running

/-- The results of the publications of `eventId` so far. -/
def results (eventId : EventId) (s : Running A P C ω) : List Result :=
  publicationResults eventId s.world.history

@[simp] theorem results_setCtx (eventId : EventId) (s : Running A P C ω) (ctx : A) :
    (s.setCtx ctx).results eventId = s.results eventId := rfl

@[simp] theorem results_received (eventId : EventId) (s : Running A P C ω) (msg : Inbound) :
    (s.note (.received msg)).results eventId = s.results eventId := by
  simp [results, note, ActorWorld.note]

@[simp] theorem results_returned (eventId : EventId) (s : Running A P C ω) (result : Result) :
    (s.note (.returned result)).results eventId = s.results eventId := by
  simp [results, note, ActorWorld.note]

@[simp] theorem call_ctx {R : Type} (port : ω → R × ω) (record : R → C) (s : Running A P C ω) :
    (s.call port record).2.ctx = s.ctx := rfl

/-- Nothing but port calls lies between two states. -/
def OnlyCalls (s s' : Running A P C ω) : Prop :=
  ∃ calls : List C, s'.world.history = s.world.history ++ calls.map .called

theorem OnlyCalls.refl (s : Running A P C ω) : s.OnlyCalls s :=
  ⟨[], (List.append_nil _).symm⟩

theorem OnlyCalls.trans {s t u : Running A P C ω} (hst : s.OnlyCalls t) (htu : t.OnlyCalls u) :
    s.OnlyCalls u := by
  obtain ⟨earlier, hearlier⟩ := hst
  obtain ⟨later, hlater⟩ := htu
  refine ⟨earlier ++ later, ?_⟩
  rw [hlater, hearlier, List.map_append, List.append_assoc]

theorem OnlyCalls.setCtx {s t : Running A P C ω} (h : s.OnlyCalls t) (ctx : A) :
    s.OnlyCalls (t.setCtx ctx) := h

theorem onlyCalls_call {R : Type} (port : ω → R × ω) (record : R → C) (s : Running A P C ω) :
    s.OnlyCalls (s.call port record).2 :=
  ⟨[record (port s.world.outside).1], rfl⟩

theorem OnlyCalls.results {s s' : Running A P C ω} (h : s.OnlyCalls s') (eventId : EventId) :
    s'.results eventId = s.results eventId := by
  obtain ⟨calls, hhistory⟩ := h
  rw [Running.results, hhistory, publicationResults_append, publicationResults_calls,
    List.append_nil]
  rfl

/-- The results after a publication: one more for its own event, none for the others. -/
theorem results_publishEvent (port : ActorPort P ω) (eventId published : EventId) (source : ActorId)
    (payload : Option (List UInt8))
    (h : ActorWorld.publishable published source (payload.map List.length) = true)
    (s : Running A P C ω) :
    (s.publishEvent port published source payload).2.ctx = s.ctx ∧
      (s.publishEvent port published source payload).2.results eventId = s.results eventId ++
        if published = eventId then [(s.publishEvent port published source payload).1] else [] := by
  obtain ⟨rc, outside, heq⟩ := publishEvent_spec port published source payload h s
  have hevent : (ActorWorld.outgoing published source payload : Msg P).eventId = published := by
    cases payload <;> rfl
  rw [heq]
  refine ⟨rfl, ?_⟩
  simp [results, publicationResults_published, hevent]

end Running

end EventFramework
