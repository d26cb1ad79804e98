import EventFramework.Actors.Mcp23008Actor

/-!
# The inputs of the MCP23008 actor

The actor keeps a shadow of the buttons and publishes where a sample differs from it. The shadow
changes before the publication is known to succeed, and a configuration replaces it without a
publication. As long as neither of the two happens to a mask that was not published, a tick that
succeeds leaves the last published mask equal to the buttons it read.
-/

namespace EventFramework
set_option autoImplicit false

variable {P ω : Type}

namespace Mcp23008Actor

/-- What the history says about the inputs: the mask of the last `EV_MCP23008_INPUT_CHANGED`
published with `EV_OK`, and of the message last handled whether it is a tick, the buttons it read
last and its result. -/
structure InputView where
  published : Option UInt8 := none
  inTick : Bool := false
  read : Option UInt8 := none
  result : Option Result := none
  deriving DecidableEq

def observe (view : InputView) : ActorEvent P DeviceCall → InputView
  | .received msg =>
    { view with inTick := msg.eventId == .tick100ms, read := none, result := none }
  | .published msg result =>
    if msg.eventId = .mcp23008InputChanged ∧ result = .ok then
      { view with published := some (msg.inlineMemory 0) } else view
  | .called (.readRegs reg _ status data) =>
    if reg = mcp23008RegGpio then
      { view with read := if status = .ok then some (normalizeButtons (data 0)) else none }
    else view
  | .called _ => view
  | .returned result => { view with result := some result }

def inputView (s : Mcp23008State P ω) : InputView := s.world.history.foldl observe {}

/-- After a tick that read the buttons and returned `EV_OK`, the last published mask is what it
read. -/
def InputsCurrent (s : Mcp23008State P ω) : Prop :=
  (inputView s).inTick = true → (inputView s).result = some .ok →
    ∀ mask ∈ (inputView s).read, ∀ published ∈ (inputView s).published, published = mask

def configures (s : Mcp23008State P ω) (msg : Inbound) : Bool :=
  msg.eventId == .bootCompleted || (msg.eventId == .tick100ms && !s.ctx.configured)

/-- The results of the publications of `EV_MCP23008_INPUT_CHANGED` in one step. -/
def inputResults (ports : Mcp23008Ports P ω) (s : Mcp23008State P ω) (msg : Inbound) : List Result :=
  ((step ports s msg).results .mcp23008InputChanged).drop (s.results .mcp23008InputChanged).length

/-- Once a mask is published, a configuration that ends with `EV_OK` reads no other mask, and every
further publication succeeds. -/
def NothingSwallowed (ports : Mcp23008Ports P ω) (s : Mcp23008State P ω) (msg : Inbound) : Prop :=
  ∀ published ∈ (inputView s).published,
    (configures s msg = true → (tryConfigure ports (s.note (.received msg))).1 = .ok →
      ∀ rawGpio ∈ (configureBus ports ((s.note (.received msg)).setCtx s.ctx.unconfigured)).1,
        normalizeButtons rawGpio = published) ∧
    ∀ result ∈ inputResults ports s msg, result = .ok

instance (ports : Mcp23008Ports P ω) (s : Mcp23008State P ω) (msg : Inbound) :
    Decidable (NothingSwallowed ports s msg) :=
  inferInstanceAs (Decidable (∀ published ∈ (inputView s).published,
    (configures s msg = true → (tryConfigure ports (s.note (.received msg))).1 = .ok →
      ∀ rawGpio ∈ (configureBus ports ((s.note (.received msg)).setCtx s.ctx.unconfigured)).1,
        normalizeButtons rawGpio = published) ∧
    ∀ result ∈ inputResults ports s msg, result = .ok))

structure ShadowPublished (s : Mcp23008State P ω) : Prop where
  valid : s.ctx.configured = true → s.ctx.inputsValid = true
  shadow : s.ctx.inputsValid = true →
    ∀ published ∈ (inputView s).published, s.ctx.inputShadow = published

section Views

variable (ports : Mcp23008Ports P ω) (s : Mcp23008State P ω)

theorem inputView_note (event : ActorEvent P DeviceCall) :
    inputView (s.note event) = observe (inputView s) event :=
  List.foldl_append

theorem inputView_setCtx (ctx : Mcp23008Actor) : inputView (s.setCtx ctx) = inputView s := rfl

theorem writeReg_keeps (reg value : UInt8) :
    (writeReg ports reg value s).2.ctx = s.ctx ∧
      inputView (writeReg ports reg value s).2 = inputView s ∧
      s.OnlyCalls (writeReg ports reg value s).2 :=
  ⟨rfl, List.foldl_append, Running.onlyCalls_call _ _ s⟩

theorem writeRegisters_keeps (registers : List (UInt8 × UInt8)) :
    ∀ s : Mcp23008State P ω, (writeRegisters ports registers s).2.ctx = s.ctx ∧
      inputView (writeRegisters ports registers s).2 = inputView s ∧
      s.OnlyCalls (writeRegisters ports registers s).2 := by
  induction registers with
  | nil => exact fun s => ⟨rfl, rfl, .refl s⟩
  | cons entry registers ih =>
    intro s
    obtain ⟨hctx, hview, hcalls⟩ := writeReg_keeps ports s entry.1 entry.2
    unfold writeRegisters
    simp only
    split
    · obtain ⟨hctx', hview', hcalls'⟩ := ih (writeReg ports entry.1 entry.2 s).2
      exact ⟨hctx'.trans hctx, hview'.trans hview, hcalls.trans hcalls'⟩
    · exact ⟨hctx, hview, hcalls⟩

theorem readGpio_spec :
    (readGpio ports s).2.ctx = s.ctx ∧ s.OnlyCalls (readGpio ports s).2 ∧
      inputView (readGpio ports s).2 =
        { inputView s with read := (readGpio ports s).1.map normalizeButtons } := by
  let out := DeviceState.readRegs ports.i2c s.ctx.device mcp23008RegGpio 1 s
  have hcalls : s.OnlyCalls out.2 := Running.onlyCalls_call _ _ s
  refine ⟨rfl, hcalls, ?_⟩
  have hview : inputView (readGpio ports s).2 = observe (P := P) (inputView s)
      (.called (.readRegs mcp23008RegGpio 1 out.1.1 out.1.2)) :=
    List.foldl_append
  rw [hview]
  simp only [observe, readGpio, if_true]
  split <;> rfl

theorem configureBus_keeps :
    (configureBus ports s).2.ctx = s.ctx ∧ s.OnlyCalls (configureBus ports s).2 ∧
      (inputView (configureBus ports s).2).published = (inputView s).published ∧
      (inputView (configureBus ports s).2).inTick = (inputView s).inTick ∧
      ((inputView s).read = none → (configureBus ports s).1 = none →
        (inputView (configureBus ports s).2).read = none) := by
  obtain ⟨hctx, hview, hcalls⟩ := writeRegisters_keeps ports s.ctx.configuration s
  unfold configureBus
  simp only
  split
  · obtain ⟨hctx', hcalls', hview'⟩ :=
      readGpio_spec ports (writeRegisters ports s.ctx.configuration s).2
    rw [hview', hview]
    exact ⟨hctx'.trans hctx, hcalls.trans hcalls', rfl, rfl, fun _ hnone => by rw [hnone]; rfl⟩
  · rw [hview]
    exact ⟨hctx, hcalls, rfl, rfl, fun hread _ => hread⟩

theorem publishReady_keeps :
    (publishReady ports s).2.ctx = s.ctx ∧ inputView (publishReady ports s).2 = inputView s ∧
      (publishReady ports s).2.results .mcp23008InputChanged = s.results .mcp23008InputChanged := by
  obtain ⟨rc, outside, heq⟩ := Running.publishEvent_spec ports.delivery .mcp23008Ready .mcp23008 none
    (by rfl) s
  obtain ⟨_, hresults⟩ := Running.results_publishEvent ports.delivery .mcp23008InputChanged
    .mcp23008Ready .mcp23008 none (by rfl) s
  rw [if_neg EventId.noConfusion, List.append_nil] at hresults
  refine ⟨?_, ?_, hresults⟩
  · rw [publishReady, heq]
  · rw [publishReady, heq]
    exact List.foldl_append

theorem publishInputChanged_spec (pressedMask changedMask : UInt8) :
    (publishInputChanged ports pressedMask changedMask s).2.ctx = s.ctx ∧
      (publishInputChanged ports pressedMask changedMask s).2.results .mcp23008InputChanged =
        s.results .mcp23008InputChanged ++ [(publishInputChanged ports pressedMask changedMask s).1] ∧
      inputView (publishInputChanged ports pressedMask changedMask s).2 =
        if (publishInputChanged ports pressedMask changedMask s).1 = .ok then
          { inputView s with published := some (pressedMask &&& mcp23008ButtonMask) }
        else inputView s := by
  obtain ⟨hctx, hresults⟩ := Running.results_publishEvent ports.delivery .mcp23008InputChanged
    .mcp23008InputChanged .mcp23008
    (some [pressedMask &&& mcp23008ButtonMask, changedMask &&& mcp23008ButtonMask]) (by rfl) s
  rw [if_pos rfl] at hresults
  refine ⟨hctx, hresults, ?_⟩
  obtain ⟨rc, outside, heq⟩ := Running.publishEvent_spec ports.delivery .mcp23008InputChanged .mcp23008
    (some [pressedMask &&& mcp23008ButtonMask, changedMask &&& mcp23008ButtonMask]) (by rfl) s
  rw [publishInputChanged, heq]
  rw [inputView, List.foldl_append]
  by_cases hok : rc = .ok
  · simp only [List.foldl_cons, List.foldl_nil, observe, ActorWorld.outgoing, hok, and_self, if_true]
    rfl
  · simp only [List.foldl_cons, List.foldl_nil, observe, ActorWorld.outgoing, hok, and_false, if_false]
    rfl

/-- A configuration leaves the actor without valid inputs, or with the inputs that it read. -/
theorem tryConfigure_cases :
    (inputView (tryConfigure ports s).2).published = (inputView s).published ∧
      (inputView (tryConfigure ports s).2).inTick = (inputView s).inTick ∧
      (tryConfigure ports s).2.results .mcp23008InputChanged = s.results .mcp23008InputChanged ∧
      (((tryConfigure ports s).2.ctx.configured = false ∧
          (tryConfigure ports s).2.ctx.inputsValid = false ∧
          ((inputView s).read = none → (tryConfigure ports s).1 = .ok →
            (inputView (tryConfigure ports s).2).read = none)) ∨
        (tryConfigure ports s).1 = .ok ∧ (tryConfigure ports s).2.ctx.configured = true ∧
          (tryConfigure ports s).2.ctx.inputsValid = true ∧
          ∃ rawGpio ∈ (configureBus ports (s.setCtx s.ctx.unconfigured)).1,
            (tryConfigure ports s).2.ctx.inputShadow = normalizeButtons rawGpio) := by
  obtain ⟨hctx, hcalls, hpublished, htick, hread⟩ :=
    configureBus_keeps ports (s.setCtx s.ctx.unconfigured)
  have hresults := hcalls.results .mcp23008InputChanged
  unfold tryConfigure
  generalize configureBus ports (s.setCtx s.ctx.unconfigured) = bus
    at hctx hcalls hpublished htick hread hresults ⊢
  obtain ⟨inputs, t⟩ := bus
  cases inputs with
  | none =>
    refine ⟨hpublished, htick, hresults, Or.inl ?_⟩
    rw [hctx]
    exact ⟨rfl, rfl, fun hnone _ => hread hnone rfl⟩
  | some rawGpio =>
    simp only
    obtain ⟨hkept, hview, hsame⟩ := publishReady_keeps ports (t.setCtx { t.ctx with
      inputShadow := normalizeButtons rawGpio, inputsValid := true, configured := true })
    generalize publishReady ports (t.setCtx { t.ctx with
      inputShadow := normalizeButtons rawGpio, inputsValid := true, configured := true }) = ready
      at hkept hview hsame ⊢
    split
    · rename_i hrc
      refine ⟨?_, ?_, hsame.trans hresults, Or.inl ⟨rfl, rfl, fun _ hok => absurd hok hrc⟩⟩
      · rw [inputView_setCtx, hview]
        exact hpublished
      · rw [inputView_setCtx, hview]
        exact htick
    · refine ⟨?_, ?_, hsame.trans hresults, Or.inr ⟨rfl, ?_, ?_, rawGpio, rfl, ?_⟩⟩
      · rw [hview]
        exact hpublished
      · rw [hview]
        exact htick
      · rw [hkept]
        rfl
      · rw [hkept]
        rfl
      · rw [hkept]
        rfl

end Views

theorem normalizeButtons_masked (rawGpio : UInt8) :
    normalizeButtons rawGpio &&& mcp23008ButtonMask = normalizeButtons rawGpio := by
  rw [normalizeButtons, UInt8.and_assoc, UInt8.and_self]

/-- What one handler call keeps: the shadow stays published, and if the call returns `EV_OK` the
last published mask is the one it read last. -/
structure Current (rc : Result) (t : Mcp23008State P ω) : Prop where
  shadow : ShadowPublished t
  inputs : rc = .ok → ∀ mask ∈ (inputView t).read, ∀ published ∈ (inputView t).published,
    published = mask

theorem ShadowPublished.unconfigured {s : Mcp23008State P ω} :
    ShadowPublished (s.setCtx s.ctx.unconfigured) :=
  ⟨fun h => absurd h Bool.false_ne_true, fun h => absurd h Bool.false_ne_true⟩

theorem sampleInputs_current (ports : Mcp23008Ports P ω) {s : Mcp23008State P ω}
    (h : ShadowPublished s) (hconfigured : s.ctx.configured = true)
    (hdelivered : ∀ published ∈ (inputView s).published,
      ∀ result ∈ ((sampleInputs ports s).2.results .mcp23008InputChanged).drop
        (s.results .mcp23008InputChanged).length, result = .ok) :
    Current (sampleInputs ports s).1 (sampleInputs ports s).2 := by
  obtain ⟨hctx, hcalls, hview⟩ := readGpio_spec ports s
  have hresults := hcalls.results .mcp23008InputChanged
  unfold sampleInputs at hdelivered ⊢
  generalize readGpio ports s = gpio at hctx hcalls hview hresults hdelivered ⊢
  obtain ⟨reading, t⟩ := gpio
  cases reading with
  | none =>
    refine ⟨.unconfigured, fun _ mask hmask => ?_⟩
    rw [inputView_setCtx, hview] at hmask
    cases hmask
  | some rawGpio =>
    have hvalid : t.ctx.inputsValid = true := by
      rw [hctx]
      exact h.valid hconfigured
    have hpublished : ∀ published ∈ (inputView t).published, s.ctx.inputShadow = published := by
      rw [hview]
      exact h.shadow (h.valid hconfigured)
    have hguard : ¬(!t.ctx.inputsValid) = true := by simp [hvalid]
    simp only [if_neg hguard] at hdelivered ⊢
    by_cases hsame : normalizeButtons rawGpio ^^^ t.ctx.inputShadow = 0
    · rw [if_pos hsame]
      have hshadow : normalizeButtons rawGpio = s.ctx.inputShadow := by
        rw [← hctx]
        exact UInt8.xor_eq_zero_iff.mp hsame
      refine ⟨⟨fun _ => hvalid, fun _ published hmem => ?_⟩, fun _ mask hmask published hmem => ?_⟩
      · rw [hctx]
        exact hpublished published hmem
      · have hread : mask = normalizeButtons rawGpio := by
          rw [hview] at hmask
          exact (Option.some.inj hmask).symm
        rw [hread, hshadow]
        exact (hpublished published hmem).symm
    · rw [if_neg hsame] at hdelivered ⊢
      obtain ⟨hkept, hmore, hsent⟩ := publishInputChanged_spec ports
        (t.setCtx { t.ctx with inputShadow := normalizeButtons rawGpio }) (normalizeButtons rawGpio)
        (normalizeButtons rawGpio ^^^ t.ctx.inputShadow)
      rw [normalizeButtons_masked] at hsent
      generalize publishInputChanged ports (normalizeButtons rawGpio)
        (normalizeButtons rawGpio ^^^ t.ctx.inputShadow)
        (t.setCtx { t.ctx with inputShadow := normalizeButtons rawGpio }) = out
        at hkept hmore hsent hdelivered ⊢
      rw [hmore, Running.results_setCtx, hresults, List.drop_left] at hdelivered
      have hshadow : out.2.ctx.inputShadow = normalizeButtons rawGpio := by
        rw [hkept]
        rfl
      have hread : (inputView out.2).read = some (normalizeButtons rawGpio) := by
        have hkeeps : (inputView out.2).read = (inputView t).read := by
          rw [hsent]
          split <;> rfl
        rw [hkeeps, hview]
        rfl
      by_cases hok : out.1 = .ok
      · rw [if_pos hok] at hsent
        have hlast : (inputView out.2).published = some (normalizeButtons rawGpio) := by rw [hsent]
        refine ⟨⟨fun _ => by rw [hkept]; exact hvalid, fun _ published hmem => ?_⟩,
          fun _ mask hmask published hmem => ?_⟩
        · rw [hlast] at hmem
          rw [hshadow]
          exact Option.some.inj hmem
        · rw [hlast] at hmem
          rw [hread] at hmask
          exact (Option.some.inj hmem).symm.trans (Option.some.inj hmask)
      · rw [if_neg hok] at hsent
        have hnone : ∀ published, published ∉ (inputView out.2).published := by
          intro published hmem
          rw [hsent, inputView_setCtx, hview] at hmem
          exact hok (hdelivered published hmem out.1 (List.mem_singleton.mpr rfl))
        exact ⟨⟨fun _ => by rw [hkept]; exact hvalid, fun _ published hmem => absurd hmem (hnone _)⟩,
          fun hrc => absurd hrc hok⟩

theorem tryConfigure_shadow (ports : Mcp23008Ports P ω) {s : Mcp23008State P ω}
    (hsame : (tryConfigure ports s).1 = .ok → ∀ published ∈ (inputView s).published,
      ∀ rawGpio ∈ (configureBus ports (s.setCtx s.ctx.unconfigured)).1,
        normalizeButtons rawGpio = published) :
    ShadowPublished (tryConfigure ports s).2 := by
  obtain ⟨hpublished, _, _, ⟨hconfigured, hvalid, _⟩ | ⟨hok, _, hvalid, rawGpio, hraw, hshadow⟩⟩ :=
    tryConfigure_cases ports s
  · constructor
    · intro hset
      rw [hconfigured] at hset
      cases hset
    · intro hset
      rw [hvalid] at hset
      cases hset
  · refine ⟨fun _ => hvalid, fun _ published hmem => ?_⟩
    rw [hpublished] at hmem
    rw [hshadow]
    exact hsame hok published hmem rawGpio hraw

theorem handleTick_current (ports : Mcp23008Ports P ω) {s : Mcp23008State P ω}
    (h : ShadowPublished s) (hread : (inputView s).read = none)
    (hsame : s.ctx.configured = false → (tryConfigure ports s).1 = .ok →
      ∀ published ∈ (inputView s).published,
      ∀ rawGpio ∈ (configureBus ports (s.setCtx s.ctx.unconfigured)).1,
        normalizeButtons rawGpio = published)
    (hdelivered : ∀ published ∈ (inputView s).published,
      ∀ result ∈ ((handleTick ports s).2.results .mcp23008InputChanged).drop
        (s.results .mcp23008InputChanged).length, result = .ok) :
    Current (handleTick ports s).1 (handleTick ports s).2 := by
  unfold handleTick at hdelivered ⊢
  cases hconfigured : s.ctx.configured with
  | true =>
    simp only [hconfigured, Bool.not_true, Bool.false_eq_true, if_false] at hdelivered ⊢
    exact sampleInputs_current ports h hconfigured hdelivered
  | false =>
    have hshadow := tryConfigure_shadow ports (hsame hconfigured)
    obtain ⟨hpublished, _, hresults, hcases⟩ := tryConfigure_cases ports s
    simp only [hconfigured, Bool.not_false, if_true] at hdelivered ⊢
    generalize tryConfigure ports s = out at hshadow hpublished hresults hcases hdelivered ⊢
    by_cases hrc : out.1 ≠ .ok
    · rw [if_pos hrc]
      exact ⟨hshadow, fun hok => absurd hok hrc⟩
    · rw [if_neg hrc] at hdelivered ⊢
      rcases hcases with ⟨hunset, _, hnone⟩ | ⟨_, hset, _⟩
      · simp only [hunset, Bool.not_false, if_true]
        refine ⟨hshadow, fun hok mask hmask => ?_⟩
        rw [hnone hread (not_not.mp hrc)] at hmask
        cases hmask
      · simp only [hset, Bool.not_true, Bool.false_eq_true, if_false] at hdelivered ⊢
        apply sampleInputs_current ports hshadow hset
        rw [hpublished, hresults]
        exact hdelivered

theorem handleLedCmd_shadow (ports : Mcp23008Ports P ω) {s : Mcp23008State P ω}
    (h : ShadowPublished s) (msg : Inbound) : ShadowPublished (handleLedCmd ports s msg).2 := by
  unfold handleLedCmd
  split
  · exact h
  · rename_i cmd _
    split
    · exact h
    · generalize hset : s.setCtx { s.ctx with
        outputShadow := applyLedCmd s.ctx.outputShadow (cmd 0) (cmd 1) } = t
      have hkept : ShadowPublished t := by
        rw [← hset]
        exact ⟨h.valid, h.shadow⟩
      obtain ⟨hctx, hview, _⟩ := writeReg_keeps ports t mcp23008RegOlat (buildOlat t.ctx.outputShadow)
      simp only
      split
      · exact hkept
      · split
        · refine ⟨?_, ?_⟩
          · rw [hctx]
            exact hkept.valid
          · rw [hctx, hview]
            exact hkept.shadow
        · exact .unconfigured

/-- Only a tick is judged by the inputs it read. -/
theorem handle_inTick (ports : Mcp23008Ports P ω) (s : Mcp23008State P ω) (msg : Inbound)
    (hmsg : msg.eventId ≠ .tick100ms) :
    (inputView (handle ports s msg).2).inTick = (inputView s).inTick := by
  unfold handle
  split
  · exact (tryConfigure_cases ports s).2.1
  · rename_i htick
    exact absurd htick hmsg
  · unfold handleLedCmd
    split
    · rfl
    · split
      · rfl
      · simp only
        split
        · rfl
        · split
          · rw [(writeReg_keeps ports _ _ _).2.1, inputView_setCtx]
          · rw [inputView_setCtx, (writeReg_keeps ports _ _ _).2.1, inputView_setCtx]
  · rfl

theorem step_current (ports : Mcp23008Ports P ω) {s : Mcp23008State P ω} {msg : Inbound}
    (h : ShadowPublished s) (hkept : NothingSwallowed ports s msg) :
    ShadowPublished (step ports s msg) ∧ InputsCurrent (step ports s msg) := by
  generalize hstart : s.note (.received msg) = start
  have hview : inputView start =
      { inputView s with inTick := msg.eventId == .tick100ms, read := none, result := none } := by
    rw [← hstart, inputView_note]
    rfl
  have hbegun : ShadowPublished start := by
    refine ⟨?_, ?_⟩
    · rw [← hstart]
      exact h.valid
    · rw [hview, ← hstart]
      exact h.shadow
  have hstep : step ports s msg =
      (handle ports start msg).2.note (.returned (handle ports start msg).1) := by
    rw [← hstart]
    rfl
  have hdelivered : ∀ published ∈ (inputView start).published,
      ∀ result ∈ ((handle ports start msg).2.results .mcp23008InputChanged).drop
        (start.results .mcp23008InputChanged).length, result = .ok := by
    intro published hmem result hresult
    apply (hkept published (by rwa [hview] at hmem)).2 result
    rw [inputResults, hstep, Running.results_returned]
    rwa [← hstart, Running.results_received, hstart] at hresult
  have hsame : configures s msg = true → (tryConfigure ports start).1 = .ok →
      ∀ published ∈ (inputView start).published,
      ∀ rawGpio ∈ (configureBus ports (start.setCtx start.ctx.unconfigured)).1,
        normalizeButtons rawGpio = published := by
    intro hconfigures hok published hmem rawGpio hraw
    apply (hkept published (by rwa [hview] at hmem)).1 hconfigures (by rwa [hstart]) rawGpio
    rwa [← hstart] at hraw
  have hctx : start.ctx = s.ctx := by
    rw [← hstart]
    rfl
  have hhandled : ShadowPublished (handle ports start msg).2 ∧
      (msg.eventId = .tick100ms → Current (handle ports start msg).1 (handle ports start msg).2) := by
    by_cases htick : msg.eventId = .tick100ms
    · have hcurrent : Current (handle ports start msg).1 (handle ports start msg).2 := by
        simp only [handle, htick] at hdelivered ⊢
        apply handleTick_current ports hbegun (by rw [hview]) ?_ hdelivered
        intro hunset
        apply hsame
        rw [hctx] at hunset
        simp [configures, htick, hunset]
      exact ⟨hcurrent.shadow, fun _ => hcurrent⟩
    · refine ⟨?_, fun h => absurd h htick⟩
      unfold handle
      split
      · rename_i hboot
        exact tryConfigure_shadow ports (hsame (by simp [configures, hboot]))
      · rename_i heq
        exact absurd heq htick
      · exact handleLedCmd_shadow ports hbegun msg
      · exact hbegun
  have hfinal : inputView (step ports s msg) =
      { inputView (handle ports start msg).2 with result := some (handle ports start msg).1 } := by
    rw [hstep, inputView_note]
    rfl
  refine ⟨⟨?_, ?_⟩, ?_⟩
  · rw [hstep]
    exact hhandled.1.valid
  · rw [hfinal, hstep]
    exact hhandled.1.shadow
  · intro hin hok
    rw [hfinal] at hin hok ⊢
    by_cases htick : msg.eventId = .tick100ms
    · exact (hhandled.2 htick).inputs (Option.some.inj hok)
    · have hout := handle_inTick ports start msg htick
      rw [hview] at hout
      have hno : (msg.eventId == EventId.tick100ms) = true := hout.symm.trans hin
      exact absurd (beq_iff_eq.mp hno) htick

/-- In every run of steps that swallow nothing, the last published mask is current after every
tick that reads the buttons and returns `EV_OK`. -/
theorem inputs_current (ports : Mcp23008Ports P ω) (device : I2cDevice) (outside : ω)
    (msgs : List Inbound)
    (hkept : Machine.Each (step ports) (NothingSwallowed ports) (.start (fresh device) outside) msgs) :
    Machine.Always (step ports) InputsCurrent (.start (fresh device) outside) msgs := by
  have hstart : ShadowPublished (.start (fresh device) outside : Mcp23008State P ω) ∧
      InputsCurrent (.start (fresh device) outside : Mcp23008State P ω) := by
    refine ⟨⟨fun hset => ?_, fun hset => ?_⟩, fun hin => ?_⟩
    · exact absurd hset Bool.false_ne_true
    · exact absurd hset Bool.false_ne_true
    · exact absurd hin Bool.false_ne_true
  have hrun : Machine.Always (step ports) (fun s => ShadowPublished s ∧ InputsCurrent s)
      (.start (fresh device) outside) msgs :=
    Machine.always_of_each (NothingSwallowed ports) (fun s => ShadowPublished s ∧ InputsCurrent s)
      (fun s msg h hc => step_current ports h.1 hc) hstart hkept
  exact fun earlier hpre => (hrun earlier hpre).2

/-- An expander that reads the given samples, none for a bus failure. Each comes with the result of
the deliveries that follow it. -/
def scripted : Mcp23008Ports Unit (List (Option UInt8 × Result) × Result) where
  i2c := {
    writeStream := fun _ _ w => (.ok, w)
    writeRegs := fun _ _ _ w => (.ok, w)
    readRegs := fun _ _ _ w =>
      match w.1 with
      | [] => ((.errNack, fun _ => 0), w)
      | (none, rc) :: samples => ((.errNack, fun _ => 0), (samples, rc))
      | (some rawGpio, rc) :: samples => ((.ok, fun _ => rawGpio), (samples, rc)) }
  delivery := { routes := RouteTable.generated, deliver := fun _ _ w => (w.2, w) }

/-- A press is published after boot, and held over a bus failure and a new configuration. -/
theorem inputs_current_held :
    Machine.Always (step scripted) InputsCurrent
      (.start (fresh ⟨0, 0x20⟩)
        ([(some 0xFF, .ok), (some 0xFE, .ok), (none, .ok), (some 0xFE, .ok), (some 0xFE, .ok)], .ok))
      [{ eventId := .bootCompleted }, { eventId := .tick100ms }, { eventId := .tick100ms },
        { eventId := .tick100ms }] := by
  apply inputs_current
  refine Machine.each_cons.mpr ⟨by decide +kernel, Machine.each_cons.mpr ⟨by decide +kernel, ?_⟩⟩
  exact Machine.each_cons.mpr
    ⟨by decide +kernel, Machine.each_cons.mpr ⟨by decide +kernel, Machine.each_nil⟩⟩

/-- A published press is released. In the first run the publication of the release fails, and the
next tick finds nothing to publish; in the second the release falls into a bus failure, and the
configuration takes it over without a publication. -/
theorem inputs_lost :
    ¬Machine.Always (step scripted) InputsCurrent
        (.start (fresh ⟨0, 0x20⟩)
          ([(some 0xFF, .ok), (some 0xFE, .ok), (some 0xFF, .errFull), (some 0xFF, .ok)], .ok))
        [{ eventId := .bootCompleted }, { eventId := .tick100ms }, { eventId := .tick100ms },
          { eventId := .tick100ms }] ∧
      ¬Machine.Always (step scripted) InputsCurrent
        (.start (fresh ⟨0, 0x20⟩)
          ([(some 0xFF, .ok), (some 0xFE, .ok), (none, .ok), (some 0xFF, .ok), (some 0xFF, .ok)], .ok))
        [{ eventId := .bootCompleted }, { eventId := .tick100ms }, { eventId := .tick100ms },
          { eventId := .tick100ms }] := by
  constructor
  · intro h
    have hlast := h.last (by decide +kernel) (by decide +kernel) 0 (by decide +kernel) 1 (by decide +kernel)
    exact absurd hlast (by decide)
  · intro h
    have hlast := h.last (by decide +kernel) (by decide +kernel) 0 (by decide +kernel) 1 (by decide +kernel)
    exact absurd hlast (by decide)

end Mcp23008Actor

end EventFramework
