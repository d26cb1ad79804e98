import EventFramework.Actors.Mcp23008Actor

/-!
# The LED outputs of the MCP23008 actor

The actor folds the LED commands into a shadow and writes the shadow to the output latch. A
configuration writes it again after the registers that make the pins outputs, and whatever the bus
refuses takes the configuration back.
-/

namespace EventFramework
set_option autoImplicit false

variable {P ω : Type}

namespace Mcp23008Actor

/-- The value mask and the valid mask of a well-formed `EV_PANEL_LED_SET_CMD`. -/
def ledCommand? (msg : Inbound) : Option (UInt8 × UInt8) :=
  if msg.eventId = .panelLedSetCmd ∧ msg.payloadSize = 2 then
    msg.payload.map fun cmd => (cmd 0, cmd 1)
  else none

def setBits (leds : UInt8) (cmd : UInt8 × UInt8) : UInt8 :=
  (leds &&& ~~~cmd.2) ||| (cmd.1 &&& cmd.2)

/-- The fold of all LED commands among the messages. -/
def commandedLeds (msgs : List Inbound) : UInt8 := (msgs.filterMap ledCommand?).foldl setBits 0

def written (entry : UInt8 × UInt8) : ActorEvent P DeviceCall :=
  .called (.writeRegs entry.1 [entry.2] .ok)

def BusFailure : ActorEvent P DeviceCall → Prop
  | .called (.writeStream _ status) => status ≠ .ok
  | .called (.writeRegs _ _ status) => status ≠ .ok
  | .called (.readRegs _ _ status _) => status ≠ .ok
  | _ => False

def LatchWritten : ActorEvent P DeviceCall → Prop
  | .called (.writeRegs reg _ status) => reg = mcp23008RegOlat ∧ status = .ok
  | _ => False

def pinSetup : List (UInt8 × UInt8) :=
  [(mcp23008RegIocon, 0x04), (mcp23008RegIodir, 0x0F), (mcp23008RegGppu, 0x0F)]

/-- The pins were set up since the last bus failure. -/
def Prepared (history : List (ActorEvent P DeviceCall)) : Prop :=
  ∃ before since, history = before ++ since ∧ (∀ event ∈ since, ¬BusFailure event) ∧
    ∀ entry ∈ pinSetup, written entry ∈ since

/-- The last acknowledged latch write carried the LEDs, on pins set up since the last bus
failure. -/
def Driven (leds : UInt8) (history : List (ActorEvent P DeviceCall)) : Prop :=
  ∃ before after, history = before ++ written (mcp23008RegOlat, buildOlat leds) :: after ∧
    Prepared before ∧ ∀ event ∈ after, ¬BusFailure event ∧ ¬LatchWritten event

/-- The shadow is what the commands say of the four LEDs, and a configured expander drives it. -/
structure LedsFollow (commanded : UInt8) (s : Mcp23008State P ω) : Prop where
  shadow : s.ctx.outputShadow = commanded &&& mcp23008LedMask
  driven : s.ctx.configured = true → Driven s.ctx.outputShadow s.world.history

section Masks

theorem applyLedCmd_eq (leds : UInt8) (cmd : UInt8 × UInt8) :
    applyLedCmd (leds &&& mcp23008LedMask) cmd.1 cmd.2 = setBits leds cmd &&& mcp23008LedMask := by
  apply UInt8.toBitVec_inj.mp
  apply BitVec.eq_of_getLsbD_eq
  intro i hi
  simp only [applyLedCmd, setBits, UInt8.toBitVec_and, UInt8.toBitVec_or, UInt8.toBitVec_not,
    BitVec.getLsbD_and, BitVec.getLsbD_or, BitVec.getLsbD_not, hi, decide_true, Bool.true_and]
  generalize mcp23008LedMask.toBitVec.getLsbD i = mask
  cases mask <;> cases cmd.2.toBitVec.getLsbD i <;> simp

theorem commandedLeds_snoc (msgs : List Inbound) (msg : Inbound) :
    commandedLeds (msgs ++ [msg]) =
      ((ledCommand? msg).map (setBits (commandedLeds msgs))).getD (commandedLeds msgs) := by
  unfold commandedLeds
  rw [List.filterMap_append, List.foldl_append]
  cases hcmd : ledCommand? msg <;> simp [hcmd]

end Masks

section Histories

variable {leds : UInt8} {history : List (ActorEvent P DeviceCall)}

theorem prepared_append {later : List (ActorEvent P DeviceCall)} (h : Prepared history)
    (hquiet : ∀ event ∈ later, ¬BusFailure event) : Prepared (history ++ later) := by
  obtain ⟨before, since, rfl, hgood, hsetup⟩ := h
  refine ⟨before, since ++ later, List.append_assoc _ _ _, ?_, ?_⟩
  · intro event hevent
    rcases List.mem_append.mp hevent with hsince | hlater
    · exact hgood event hsince
    · exact hquiet event hlater
  · intro entry hentry
    exact List.mem_append_left later (hsetup entry hentry)

theorem written_not_failure (entry : UInt8 × UInt8) :
    ¬BusFailure (written entry : ActorEvent P DeviceCall) :=
  fun h => h rfl

theorem Driven.prepared (h : Driven leds history) : Prepared history := by
  obtain ⟨before, after, rfl, hbefore, hafter⟩ := h
  apply prepared_append hbefore
  intro event hevent
  rcases List.mem_cons.mp hevent with rfl | hafter'
  · exact written_not_failure _
  · exact (hafter event hafter').1

theorem Driven.append {later : List (ActorEvent P DeviceCall)} (h : Driven leds history)
    (hquiet : ∀ event ∈ later, ¬BusFailure event ∧ ¬LatchWritten event) :
    Driven leds (history ++ later) := by
  obtain ⟨before, after, rfl, hbefore, hafter⟩ := h
  refine ⟨before, after ++ later, by simp, hbefore, ?_⟩
  intro event hevent
  rcases List.mem_append.mp hevent with hold | hnew
  · exact hafter event hold
  · exact hquiet event hnew

theorem Prepared.driven (h : Prepared history) (leds : UInt8) :
    Driven leds (history ++ [written (mcp23008RegOlat, buildOlat leds)]) :=
  ⟨history, [], rfl, h, fun _ hnone => absurd hnone (List.not_mem_nil)⟩

theorem prepared_setup (history : List (ActorEvent P DeviceCall)) :
    Prepared (history ++ pinSetup.map written) := by
  refine ⟨history, pinSetup.map written, rfl, ?_, ?_⟩
  · intro event hevent
    obtain ⟨entry, _, rfl⟩ := List.mem_map.mp hevent
    exact written_not_failure entry
  · exact fun entry hentry => List.mem_map.mpr ⟨entry, hentry, rfl⟩

end Histories

section Handlers

variable (ports : Mcp23008Ports P ω) (s : Mcp23008State P ω)

theorem writeReg_ok {reg value : UInt8} (h : (writeReg ports reg value s).1 = true) :
    (writeReg ports reg value s).2.world.history = s.world.history ++ [written (reg, value)] := by
  have hstatus : (ports.i2c.writeRegs s.ctx.device reg [value] s.world.outside).1 = .ok :=
    beq_iff_eq.mp h
  show s.world.history ++ [.called (.writeRegs reg [value] _)] = _
  rw [hstatus]
  rfl

theorem writeRegisters_ctx (registers : List (UInt8 × UInt8)) (s : Mcp23008State P ω) :
    (writeRegisters ports registers s).2.ctx = s.ctx := by
  induction registers generalizing s with
  | nil => rfl
  | cons entry registers ih =>
    unfold writeRegisters
    simp only
    split
    · exact (ih _).trans rfl
    · rfl

theorem writeRegisters_ok {registers : List (UInt8 × UInt8)} {s : Mcp23008State P ω}
    (h : (writeRegisters ports registers s).1 = true) :
    (writeRegisters ports registers s).2.world.history =
      s.world.history ++ registers.map written := by
  induction registers generalizing s with
  | nil => exact (List.append_nil _).symm
  | cons entry registers ih =>
    unfold writeRegisters at h ⊢
    simp only at h ⊢
    by_cases hok : (writeReg ports entry.1 entry.2 s).1 = true
    · rw [if_pos hok] at h ⊢
      rw [ih h, writeReg_ok ports s hok, List.map_cons, List.append_assoc]
      rfl
    · rw [if_neg hok] at h
      cases h

theorem readGpio_quiet :
    (readGpio ports s).2.ctx = s.ctx ∧ ∀ rawGpio, (readGpio ports s).1 = some rawGpio →
      ∃ event, (readGpio ports s).2.world.history = s.world.history ++ [event] ∧
        ¬BusFailure event ∧ ¬LatchWritten event := by
  refine ⟨rfl, fun rawGpio hraw => ⟨_, rfl, ?_, id⟩⟩
  intro hfailed
  have hnone : (readGpio ports s).1 = none := if_neg hfailed
  rw [hnone] at hraw
  cases hraw

theorem publishEvent_driven (leds : UInt8) (eventId : EventId) (payload : Option (List UInt8))
    (hpublishable : ActorWorld.publishable eventId .mcp23008 (payload.map List.length) = true) :
    (s.publishEvent ports.delivery eventId .mcp23008 payload).2.ctx = s.ctx ∧
      (Driven leds s.world.history →
        Driven leds (s.publishEvent ports.delivery eventId .mcp23008 payload).2.world.history) := by
  obtain ⟨rc, outside, heq⟩ :=
    Running.publishEvent_spec ports.delivery eventId .mcp23008 payload hpublishable s
  rw [heq]
  refine ⟨rfl, fun h => h.append ?_⟩
  intro event hevent
  rw [List.mem_singleton.mp hevent]
  exact ⟨id, id⟩

theorem configureBus_driven :
    (configureBus ports s).2.ctx = s.ctx ∧ ∀ rawGpio, (configureBus ports s).1 = some rawGpio →
      Driven s.ctx.outputShadow (configureBus ports s).2.world.history := by
  have hctx := writeRegisters_ctx ports s.ctx.configuration s
  unfold configureBus
  simp only
  split
  · rename_i hok
    obtain ⟨hkept, hread⟩ := readGpio_quiet ports (writeRegisters ports s.ctx.configuration s).2
    refine ⟨hkept.trans hctx, fun rawGpio hraw => ?_⟩
    obtain ⟨event, hhistory, hquiet⟩ := hread rawGpio hraw
    have hsplit : s.ctx.configuration.map (written (P := P)) =
        pinSetup.map written ++ [written (mcp23008RegOlat, buildOlat s.ctx.outputShadow)] := rfl
    rw [hhistory, writeRegisters_ok ports hok, hsplit, ← List.append_assoc]
    apply ((prepared_setup s.world.history).driven s.ctx.outputShadow).append
    intro event' hevent
    rwa [List.mem_singleton.mp hevent]
  · exact ⟨hctx, fun rawGpio hraw => by cases hraw⟩

theorem tryConfigure_driven :
    (tryConfigure ports s).2.ctx.outputShadow = s.ctx.outputShadow ∧
      ((tryConfigure ports s).2.ctx.configured = true →
        Driven s.ctx.outputShadow (tryConfigure ports s).2.world.history) := by
  obtain ⟨hctx, hdriven⟩ := configureBus_driven ports (s.setCtx s.ctx.unconfigured)
  unfold tryConfigure
  generalize configureBus ports (s.setCtx s.ctx.unconfigured) = bus at hctx hdriven ⊢
  obtain ⟨inputs, t⟩ := bus
  cases inputs with
  | none =>
    simp only at hctx ⊢
    rw [hctx]
    exact ⟨rfl, fun hset => absurd hset Bool.false_ne_true⟩
  | some rawGpio =>
    have hshadow : t.ctx.outputShadow = s.ctx.outputShadow := by
      rw [show t.ctx = s.ctx.unconfigured from hctx]
      rfl
    obtain ⟨hkept, hsent⟩ := publishEvent_driven ports (t.setCtx { t.ctx with
      inputShadow := normalizeButtons rawGpio, inputsValid := true, configured := true })
      s.ctx.outputShadow .mcp23008Ready none (by rfl)
    have hready : (publishReady ports (t.setCtx { t.ctx with
        inputShadow := normalizeButtons rawGpio, inputsValid := true, configured := true })
        ).2.ctx.outputShadow = s.ctx.outputShadow :=
      (congrArg outputShadow hkept).trans hshadow
    dsimp only
    split
    · exact ⟨hready, fun hset => absurd hset Bool.false_ne_true⟩
    · exact ⟨hready, fun _ => hsent (hdriven rawGpio rfl)⟩

theorem sampleInputs_driven :
    (sampleInputs ports s).2.ctx.outputShadow = s.ctx.outputShadow ∧
      (Driven s.ctx.outputShadow s.world.history →
        (sampleInputs ports s).2.ctx.configured = true →
          Driven s.ctx.outputShadow (sampleInputs ports s).2.world.history) := by
  obtain ⟨hctx, hread⟩ := readGpio_quiet ports s
  unfold sampleInputs
  generalize readGpio ports s = gpio at hctx hread ⊢
  obtain ⟨reading, t⟩ := gpio
  have hshadow : t.ctx.outputShadow = s.ctx.outputShadow := congrArg outputShadow hctx
  cases reading with
  | none => exact ⟨hshadow, fun _ hset => absurd hset Bool.false_ne_true⟩
  | some rawGpio =>
    obtain ⟨event, hhistory, hquiet⟩ := hread rawGpio rfl
    simp only at hhistory
    have hdriven : Driven s.ctx.outputShadow s.world.history →
        Driven s.ctx.outputShadow t.world.history := by
      intro h
      rw [hhistory]
      apply h.append
      intro event' hevent
      rwa [List.mem_singleton.mp hevent]
    simp only
    split
    · exact ⟨hshadow, fun h _ => hdriven h⟩
    · split
      · exact ⟨hshadow, fun h _ => hdriven h⟩
      · obtain ⟨hkept, hsent⟩ := publishEvent_driven ports
          (t.setCtx { t.ctx with inputShadow := normalizeButtons rawGpio })
          s.ctx.outputShadow .mcp23008InputChanged
          (some [normalizeButtons rawGpio &&& mcp23008ButtonMask,
            (normalizeButtons rawGpio ^^^ t.ctx.inputShadow) &&& mcp23008ButtonMask]) (by rfl)
        exact ⟨(congrArg outputShadow hkept).trans hshadow, fun h _ => hsent (hdriven h)⟩

theorem handleTick_driven :
    (handleTick ports s).2.ctx.outputShadow = s.ctx.outputShadow ∧
      ((s.ctx.configured = true → Driven s.ctx.outputShadow s.world.history) →
        (handleTick ports s).2.ctx.configured = true →
          Driven s.ctx.outputShadow (handleTick ports s).2.world.history) := by
  obtain ⟨hshadow, hconfigured⟩ := tryConfigure_driven ports s
  unfold handleTick
  simp only
  split
  · split
    · exact ⟨hshadow, fun _ => hconfigured⟩
    · split
      · exact ⟨hshadow, fun _ => hconfigured⟩
      · rename_i hset
        obtain ⟨hkept, hsampled⟩ := sampleInputs_driven ports (tryConfigure ports s).2
        rw [hshadow] at hkept hsampled
        exact ⟨hkept, fun _ => hsampled (hconfigured (by simpa using hset))⟩
  · rename_i hset
    obtain ⟨hkept, hsampled⟩ := sampleInputs_driven ports s
    exact ⟨hkept, fun h => hsampled (h (by simpa using hset))⟩

/-- A command goes into the shadow, and on a configured expander into the latch. -/
theorem handleLedCmd_driven (msg : Inbound) (hmsg : msg.eventId = .panelLedSetCmd) :
    (handleLedCmd ports s msg).2.ctx.outputShadow =
        ((ledCommand? msg).map fun cmd => applyLedCmd s.ctx.outputShadow cmd.1 cmd.2).getD
          s.ctx.outputShadow ∧
      ((s.ctx.configured = true → Driven s.ctx.outputShadow s.world.history) →
        (handleLedCmd ports s msg).2.ctx.configured = true →
          Driven (handleLedCmd ports s msg).2.ctx.outputShadow
            (handleLedCmd ports s msg).2.world.history) := by
  unfold handleLedCmd
  cases hpayload : msg.payload with
  | none => exact ⟨by simp [ledCommand?, hpayload], id⟩
  | some cmd =>
    by_cases hsize : msg.payloadSize = 2
    · have hcmd : ledCommand? msg = some (cmd 0, cmd 1) := by
        simp [ledCommand?, hmsg, hsize, hpayload]
      rw [hcmd]
      simp only [hsize, ne_eq, not_true_eq_false, if_false, Option.map_some, Option.getD_some]
      generalize ht : s.setCtx { s.ctx with
        outputShadow := applyLedCmd s.ctx.outputShadow (cmd 0) (cmd 1) } = t
      have hstart : t.ctx.outputShadow = applyLedCmd s.ctx.outputShadow (cmd 0) (cmd 1) ∧
          t.ctx.configured = s.ctx.configured ∧ t.world = s.world := by
        subst ht
        exact ⟨rfl, rfl, rfl⟩
      obtain ⟨hshadow, hconfigured, hworld⟩ := hstart
      split
      · rename_i hunset
        refine ⟨hshadow, fun _ hset => ?_⟩
        rw [hset] at hunset
        cases hunset
      · rename_i hset
        split
        · rename_i hok
          refine ⟨hshadow, fun h _ => ?_⟩
          have hbefore : Prepared t.world.history := by
            rw [hworld]
            exact (h (by simpa [hconfigured] using hset)).prepared
          rw [writeReg_ok ports t hok]
          exact hbefore.driven t.ctx.outputShadow
        · exact ⟨hshadow, fun _ hset' => absurd hset' Bool.false_ne_true⟩
    · have hcmd : ledCommand? msg = none := by simp [ledCommand?, hsize]
      rw [hcmd]
      simp only [hsize, ne_eq, not_false_eq_true, if_true]
      exact ⟨rfl, id⟩

end Handlers

theorem ledCommand?_other {msg : Inbound} (h : msg.eventId ≠ .panelLedSetCmd) :
    ledCommand? msg = none :=
  if_neg fun hboth => h hboth.1

theorem step_ledsFollow (ports : Mcp23008Ports P ω) {s : Mcp23008State P ω} {msgs : List Inbound}
    (h : LedsFollow (commandedLeds msgs) s) (msg : Inbound) :
    LedsFollow (commandedLeds (msgs ++ [msg])) (step ports s msg) := by
  have hquiet (event : ActorEvent P DeviceCall) (hcall : ¬BusFailure event ∧ ¬LatchWritten event)
      {leds : UInt8} {history : List (ActorEvent P DeviceCall)} (hd : Driven leds history) :
      Driven leds (history ++ [event]) := by
    apply hd.append
    intro event' hevent
    rwa [List.mem_singleton.mp hevent]
  generalize hstart : s.note (.received msg) = start
  have hshadow : start.ctx.outputShadow = commandedLeds msgs &&& mcp23008LedMask := by
    subst hstart
    exact h.shadow
  have hbegun : start.ctx.configured = true →
      Driven start.ctx.outputShadow start.world.history := by
    subst hstart
    exact fun hset => hquiet (.received msg) ⟨id, id⟩ (h.driven hset)
  have hhandled :
      (handle ports start msg).2.ctx.outputShadow = commandedLeds (msgs ++ [msg]) &&& mcp23008LedMask ∧
      ((handle ports start msg).2.ctx.configured = true →
        Driven (handle ports start msg).2.ctx.outputShadow
          (handle ports start msg).2.world.history) := by
    rw [commandedLeds_snoc]
    unfold handle
    split
    · rename_i hboot
      obtain ⟨hkept, hdriven⟩ := tryConfigure_driven ports start
      rw [ledCommand?_other (by simp [hboot])]
      unfold handleBoot
      rw [hkept]
      exact ⟨hshadow, hdriven⟩
    · rename_i htick
      obtain ⟨hkept, hdriven⟩ := handleTick_driven ports start
      rw [ledCommand?_other (by simp [htick]), hkept]
      exact ⟨hshadow, hdriven hbegun⟩
    · rename_i hled
      obtain ⟨hset, hdriven⟩ := handleLedCmd_driven ports start msg hled
      refine ⟨?_, hdriven hbegun⟩
      rw [hset, hshadow]
      cases ledCommand? msg with
      | none => rfl
      | some cmd => exact applyLedCmd_eq _ cmd
    · rename_i _ _ hother
      rw [ledCommand?_other hother]
      exact ⟨hshadow, hbegun⟩
  have hstep : step ports s msg =
      (handle ports start msg).2.note (.returned (handle ports start msg).1) := by
    subst hstart
    rfl
  rw [hstep]
  exact ⟨hhandled.1, fun hset => hquiet (.returned _) ⟨id, id⟩ (hhandled.2 hset)⟩

/-- In every state of a run the shadow is the fold of the commands received, over the four LEDs, and
a configured expander drives it. -/
theorem leds_follow (ports : Mcp23008Ports P ω) (device : I2cDevice) (outside : ω)
    (msgs : List Inbound) :
    LedsFollow (commandedLeds msgs)
      (Machine.run (step ports) (.start (fresh device) outside) msgs) := by
  induction msgs using List.reverseRecOn with
  | nil => exact ⟨rfl, fun hset => absurd hset Bool.false_ne_true⟩
  | append_singleton msgs msg ih =>
    rw [Machine.run_append]
    exact step_ledsFollow ports ih msg

def agreeable : Mcp23008Ports Unit Unit where
  i2c := {
    writeStream := fun _ _ w => (.ok, w)
    writeRegs := fun _ _ _ w => (.ok, w)
    readRegs := fun _ _ _ w => ((.ok, fun _ => 0xFF), w) }
  delivery := { routes := RouteTable.generated, deliver := fun _ _ w => (.ok, w) }

/-- A command whose valid mask has a bit that is no LED leaves that bit of the shadow clear. -/
theorem not_shadow_commanded :
    let msgs : List Inbound :=
      [{ eventId := .panelLedSetCmd, payload := some fun _ => 0x10, payloadSize := 2 }]
    (Machine.run (step agreeable) (.start (fresh ⟨0, 0x20⟩) ()) msgs).ctx.outputShadow ≠
      commandedLeds msgs := by
  intro msgs
  have hshadow : (Machine.run (step agreeable) (.start (fresh ⟨0, 0x20⟩) ()) msgs).ctx.outputShadow =
      0x00 := rfl
  have hcommanded : commandedLeds msgs = 0x10 := rfl
  rw [hshadow, hcommanded]
  decide

end Mcp23008Actor

end EventFramework
