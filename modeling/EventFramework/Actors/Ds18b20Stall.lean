import EventFramework.Actors.Ds18b20Actor

/-!
# The stall of the DS18B20 actor

A conversion is started at boot and after each reading that was published. No tick starts one
where none is pending, so that the first start that fails, or the first reading that cannot be
published, is the last.
-/

namespace EventFramework
set_option autoImplicit false

variable {P ω : Type}

namespace Ds18b20Actor

variable (ports : Ds18b20Ports P ω) (s : Ds18b20State P ω)

def tick : Inbound := { eventId := .tick100ms }

def boot (payload : Option (Nat → UInt8)) (payloadSize : Nat) : Inbound :=
  { eventId := .bootCompleted, payload := payload, payloadSize := payloadSize }

/-- The next tick goes to the bus: a start begins with a reset. -/
def AttemptsStart : Prop :=
  ∃ status later, (step ports s (.message tick)).world.history =
    s.world.history ++ .received tick :: .called (.onewireReset status) :: later

/-- A conversion is pending, or the next tick tries to start one. -/
def Measures : Prop := s.ctx.conversionPending = true ∨ AttemptsStart ports s

def Starts : Prop := (Ds18b20Driver.startConversionSkipRom ports.onewire s).1 = .ok

def readAndPublish : Result × Ds18b20State P ω :=
  let read := readTemperature ports (s.setCtx { s.ctx with conversionPending := false })
  if read.1.1 = .ok then acceptTemperature ports read.1.2 read.2
  else (.ok, read.2.setCtx (read.2.ctx.recordReadFailure read.1.1))

/-- A due reading is published, if it is valid, and the bus takes the next start. -/
def ReadRestarts : Prop :=
  deadlineDue s.ctx.actorNowMs s.ctx.conversionDeadlineMs = true →
    (readAndPublish ports s).1 = .ok ∧ Starts ports (readAndPublish ports s).2

/-- No start and no publication of the step fails. -/
def Restarts : Ds18b20Input → Prop
  | .message msg =>
    let received := s.note (.received msg)
    match msg.eventId with
    | .bootCompleted => Starts ports received
    | .tick100ms =>
      ReadRestarts ports
        (received.setCtx { received.ctx with actorNowMs := received.ctx.actorNowMs + 100 })
    | .tick1s =>
      ReadRestarts ports (received.setCtx { received.ctx with
        noncanonicalTicksIgnored := received.ctx.noncanonicalTicksIgnored + 1 })
    | _ => True
  | .configureResolution _ => True

theorem recordStartResult_pending (ctx : Ds18b20Actor) (status : Result) :
    (ctx.recordStartResult status).conversionPending = true ↔ status = .ok := by
  unfold recordStartResult
  by_cases hok : status = .ok
  · rw [if_pos hok]
    exact ⟨fun _ => hok, fun _ => rfl⟩
  · rw [if_neg hok]
    simp only
    split
    · exact ⟨Bool.noConfusion, fun h => absurd h hok⟩
    · exact ⟨Bool.noConfusion, fun h => absurd h hok⟩

theorem acceptTemperature_pending (centiCelsius : Int16) :
    (acceptTemperature ports centiCelsius s).2.ctx.conversionPending = s.ctx.conversionPending := by
  unfold acceptTemperature
  simp only
  split
  · split <;> rfl
  · split <;> rfl

theorem recordReadFailure_pending (ctx : Ds18b20Actor) (rc : Result) :
    (ctx.recordReadFailure rc).conversionPending = ctx.conversionPending := by
  unfold recordReadFailure
  simp only
  split
  · rfl
  · split
    · rfl
    · split <;> rfl

/-- A reading takes the pending conversion, whatever comes of it. -/
theorem readAndPublish_pending : (readAndPublish ports s).2.ctx.conversionPending = false := by
  have hread := (readTemperature_quiet ports (s.setCtx { s.ctx with conversionPending := false })).1
  have htaken := congrArg conversionPending hread
  unfold readAndPublish
  simp only
  split
  · rw [acceptTemperature_pending]
    exact htaken
  · exact (recordReadFailure_pending _ _).trans htaken

theorem tryRead_due (hpending : s.ctx.conversionPending = true)
    (hdue : deadlineDue s.ctx.actorNowMs s.ctx.conversionDeadlineMs = true) :
    tryRead ports s =
      if (readAndPublish ports s).1 = .ok then
        (.ok, (Ds18b20Driver.startConversionSkipRom ports.onewire (readAndPublish ports s).2).2.setCtx
          ((Ds18b20Driver.startConversionSkipRom ports.onewire
            (readAndPublish ports s).2).2.ctx.recordStartResult
            (Ds18b20Driver.startConversionSkipRom ports.onewire (readAndPublish ports s).2).1))
      else readAndPublish ports s := by
  unfold tryRead
  rw [if_neg (by rw [hpending]; decide), if_neg (by rw [hdue]; decide)]
  rfl

theorem tryRead_pending (hpending : s.ctx.conversionPending = true) :
    (tryRead ports s).2.ctx.conversionPending = true ↔ ReadRestarts ports s := by
  unfold ReadRestarts
  by_cases hdue : deadlineDue s.ctx.actorNowMs s.ctx.conversionDeadlineMs = true
  · rw [tryRead_due ports s hpending hdue]
    by_cases hpublished : (readAndPublish ports s).1 = .ok
    · rw [if_pos hpublished]
      refine (recordStartResult_pending _ _).trans ?_
      exact ⟨fun h _ => ⟨hpublished, h⟩, fun h => (h hdue).2⟩
    · rw [if_neg hpublished, readAndPublish_pending]
      exact ⟨Bool.noConfusion, fun h => absurd (h hdue).1 hpublished⟩
  · unfold tryRead
    rw [if_neg (by rw [hpending]; decide), if_pos (by rw [Bool.eq_false_iff.mpr hdue]; rfl)]
    exact ⟨fun _ h => absurd h hdue, fun _ => hpending⟩

theorem measures_iff : Measures ports s ↔ s.ctx.conversionPending = true := by
  constructor
  · rintro (hpending | ⟨status, later, hhistory⟩)
    · exact hpending
    · by_contra hidle
      have hquiet : (step ports s (.message tick)).world.history =
          s.world.history ++ [.received tick] ++ [.returned .ok] := by
        have hskip (t : Ds18b20State P ω) (h : t.ctx.conversionPending = false) :
            tryRead ports t = (.ok, t) := by
          unfold tryRead
          rw [if_pos (by rw [h]; rfl)]
        have htick : handle ports (s.note (.received tick)) tick =
            (.ok, (s.note (.received tick)).setCtx
              { s.ctx with actorNowMs := s.ctx.actorNowMs + 100 }) :=
          hskip _ (Bool.eq_false_iff.mpr hidle)
        unfold step Running.step
        simp only
        rw [htick]
        rfl
      rw [hquiet, List.append_assoc] at hhistory
      have hcalls := List.append_cancel_left hhistory
      cases (List.cons.inj hcalls).2
  · exact Or.inl

theorem start_pending :
    (startConversion ports s).2.ctx.conversionPending = true ↔ Starts ports s :=
  recordStartResult_pending _ _

theorem step_pending (input : Ds18b20Input) (hpending : s.ctx.conversionPending = true) :
    (step ports s input).ctx.conversionPending = true ↔ Restarts ports s input := by
  cases input with
  | message msg =>
    change (handle ports (s.note (.received msg)) msg).2.ctx.conversionPending = true ↔ _
    have hreceived : (s.note (.received msg)).ctx.conversionPending = true := hpending
    unfold handle Restarts
    simp only
    generalize s.note (.received msg) = received at hreceived ⊢
    cases msg.eventId with
    | bootCompleted => exact start_pending ports received
    | tick100ms => exact tryRead_pending ports _ hreceived
    | tick1s => exact tryRead_pending ports _ hreceived
    | _ => exact ⟨fun _ => trivial, fun _ => hreceived⟩
  | configureResolution resolutionBits =>
    refine ⟨fun _ => trivial, fun _ => ?_⟩
    have hsame : (s.ctx.configureResolution resolutionBits).2.conversionPending = true := by
      unfold configureResolution
      rw [if_pos hpending]
      split
      · exact hpending
      · exact hpending
    exact hsame

/-- From a boot on a conversion is pending or the next tick tries to start one, in every state,
just when the bus takes the start at boot and no later step fails to start or to publish. -/
theorem measures_iff_restarts (before later : List Ds18b20Input) (payload : Option (Nat → UInt8))
    (payloadSize : Nat) (outside : ω) :
    Machine.Always (step ports) (Measures ports)
        (Machine.run (step ports) (.start init outside)
          (before ++ [.message (boot payload payloadSize)])) later ↔
      Starts ports ((Machine.run (step ports) (.start init outside) before).note
          (.received (boot payload payloadSize))) ∧
        Machine.Each (step ports) (Restarts ports)
          (Machine.run (step ports) (.start init outside)
            (before ++ [.message (boot payload payloadSize)])) later := by
  rw [Machine.always_iff_each (Measures ports) (Restarts ports)]
  · apply and_congr_left
    intro _
    rw [measures_iff, Machine.run_append]
    exact start_pending ports _
  · intro s input h
    rw [measures_iff] at h ⊢
    exact step_pending ports s input h

def emptyBus : Ds18b20Ports Unit Unit where
  onewire :=
    { reset := fun w => (.errNoDevice, w)
      writeByte := fun _ w => (.errBus, w)
      readByte := fun w => ((.errBus, 0), w) }
  delivery := { routes := RouteTable.generated, deliver := fun _ _ w => (.ok, w) }

/-- The device is missing at boot only, and no tick looks for it. -/
theorem stalled_without_device :
    ¬Machine.Always (step emptyBus) (Measures emptyBus)
      (Machine.run (step emptyBus) (.start init ()) ([] ++ [.message (boot none 0)])) [] := by
  intro h
  have hpending := (measures_iff emptyBus _).mp h.head
  revert hpending
  decide +kernel

end Ds18b20Actor

end EventFramework
