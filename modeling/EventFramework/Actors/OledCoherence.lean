import EventFramework.Actors.OledStaging

/-!
# The coherence of the OLED cache

In the ready state the panel shows the framebuffer outside the dirty ranges. The handlers keep
this, unless a synchronization fails: the actor then goes on to the ready state.
-/

namespace EventFramework
set_option autoImplicit false

variable {P ω : Type}

namespace OledActor

section Runs

variable (ports : OledPorts P ω) {controller : OledController} {s : OledState P ω}

structure InStep (controller : OledController) (s : OledState P ω) : Prop where
  controller_eq : s.ctx.controller = controller
  staged : Staged s.ctx
  shows : s.ctx.state = .ready → AllAddressed controller s ∧
    ∀ panel, Possible controller s.world.history panel → Shows controller s.ctx panel

theorem InStep.coherent (h : InStep controller s) : Coherent controller s := by
  intro hready panel hpanel
  have hshows := (h.shows hready).2 panel hpanel
  exact ⟨fun page hpage column hcolumn _ => hshows page hpage column hcolumn, fun _ => hshows⟩

theorem InStep.restage (h : InStep controller s) {ctx : OledActor} (hctx : Restaged s.ctx ctx) :
    InStep controller (s.setCtx ctx) where
  controller_eq := hctx.controller.trans h.controller_eq
  staged := hctx.staged h.staged
  shows hready := by
    obtain ⟨haddressed, hshows⟩ := h.shows (hctx.state.symm.trans hready)
    refine ⟨haddressed, fun panel hpanel page hpage column hcolumn => ?_⟩
    refine (hshows panel hpanel page hpage column hcolumn).trans ?_
    exact congrFun (congrFun hctx.framebuffer page) column |>.symm

/-- Away from the ready state nothing is said of the panel. -/
theorem inStep_of_not_ready (hcontroller : s.ctx.controller = controller) (hstaged : Staged s.ctx)
    (h : s.ctx.state ≠ .ready) : InStep controller s :=
  ⟨hcontroller, hstaged, fun hready => absurd hready h⟩

theorem Transfers.staged {s' : OledState P ω} (h : Transfers s s') (hstaged : Staged s.ctx) :
    Staged s'.ctx := by
  obtain ⟨_, _, _, hctx⟩ := h
  rw [hctx]
  exact ⟨hstaged.bounded, hstaged.clean⟩

theorem flushPending_inStep (h : InStep controller s) (hready : s.ctx.state = .ready) :
    InStep controller (flushPending ports s).2 := by
  unfold flushPending
  split
  · exact h
  · rename_i hpending
    rw [Bool.not_eq_true', Bool.not_eq_false] at hpending
    generalize hcounted : s.setCtx { s.ctx with
      stats := { s.ctx.stats with flushAttempts := s.ctx.stats.flushAttempts + 1 } } = t
    have hin : InStep controller t := by
      rw [← hcounted]
      exact h.restage ⟨fun h => ⟨h.bounded, h.clean⟩, rfl, rfl, rfl⟩
    have hready' : t.ctx.state = .ready := by
      rw [← hcounted]
      exact hready
    have hpending' : t.ctx.pendingFlush = true := by
      rw [← hcounted]
      exact hpending
    have htransfers := flushPages_transfers ports (List.range oledPageCount) t
    have hstaged := htransfers.staged hin.staged
    have hcontroller := htransfers.controller_eq.trans hin.controller_eq
    simp only
    split
    · exact inStep_of_not_ready hcontroller ⟨hstaged.bounded, hstaged.clean⟩ fun h => by cases h
    · rename_i hok
      rw [ne_eq, not_not] at hok
      obtain ⟨haddressed, hshows⟩ := hin.shows hready'
      have hredrawn {next : OledPanel} (hnext : Possible controller
          (flushPages ports (List.range oledPageCount) t).2.world.history next) :=
        flushPages_possible ports _ t hin.controller_eq haddressed hin.staged.bounded hok hnext
      refine ⟨hcontroller, ⟨fun _ => Nat.zero_le _, fun h => by cases h⟩, fun _ => ⟨?_, ?_⟩⟩
      · intro next hnext
        obtain ⟨panel, _, hframe⟩ := hredrawn hnext
        exact hframe.addressed
      · intro next hnext page hpage column hcolumn
        obtain ⟨panel, hpanel, hframe⟩ := hredrawn hnext
        refine Eq.trans ?_ (congrFun (congrFun htransfers.staging page) column).symm
        by_cases hdirty : Dirty t.ctx page column
        · exact hframe.changed page column ⟨List.mem_range.mpr hpage, hdirty⟩
        · rw [hframe.kept page column fun h => hdirty h.2,
            hin.staged.clean hpending' page column hpage hcolumn hdirty]
          exact hshows panel hpanel page hpage column hcolumn

theorem possible_quiet {history : List (ActorEvent P DeviceCall)} {event : ActorEvent P DeviceCall}
    (hevent : ∀ call, event ≠ .called call) (panel : OledPanel) :
    Possible controller (history ++ [event]) panel ↔ Possible controller history panel := by
  rw [possible_snoc]
  have hsame (before : OledPanel) : PanelStep controller event before panel ↔ panel = before := by
    cases event with
    | called call => exact absurd rfl (hevent call)
    | received msg => rfl
    | published msg result => rfl
    | returned result => rfl
  constructor
  · rintro ⟨before, hbefore, hstep⟩
    rwa [(hsame before).mp hstep]
  · exact fun h => ⟨panel, h, (hsame panel).mpr rfl⟩

theorem inStep_note (h : InStep controller s) (event : ActorEvent P DeviceCall)
    (hevent : ∀ call, event ≠ .called call) : InStep controller (s.note event) where
  controller_eq := h.controller_eq
  staged := h.staged
  shows hready := by
    obtain ⟨haddressed, hshows⟩ := h.shows hready
    exact ⟨fun panel hpanel => haddressed panel ((possible_quiet hevent panel).mp hpanel),
      fun panel hpanel => hshows panel ((possible_quiet hevent panel).mp hpanel)⟩

theorem publishReady_inStep (h : InStep controller s) :
    InStep controller (publishReady ports s).2 ∧
      (publishReady ports s).2.ctx = s.ctx := by
  obtain ⟨rc, outside, heq⟩ :=
    Running.publishEvent_spec ports.delivery .oledReady .oled none (by rfl) s
  unfold publishReady
  rw [heq]
  refine ⟨?_, rfl⟩
  have hnoted := inStep_note h (.published (ActorWorld.outgoing .oledReady .oled none) rc)
    fun call hcall => by cases hcall
  exact ⟨hnoted.controller_eq, hnoted.staged, hnoted.shows⟩

theorem enterReady_inStep (hcontroller : s.ctx.controller = controller) (hstaged : Staged s.ctx)
    (haddressed : AllAddressed controller s)
    (hshows : ∀ panel, Possible controller s.world.history panel → Shows controller s.ctx panel) :
    InStep controller (enterReady ports s).2 := by
  have hentered : InStep controller (s.setCtx { s.ctx with
      state := .ready
      stats := { s.ctx.stats with initSuccesses := s.ctx.stats.initSuccesses + 1 } }) :=
    ⟨hcontroller, ⟨hstaged.bounded, hstaged.clean⟩, fun _ => ⟨haddressed, hshows⟩⟩
  obtain ⟨hpublished, hctx⟩ := publishReady_inStep ports hentered
  unfold enterReady
  simp only
  split
  · exact hpublished
  · split
    · apply flushPending_inStep ports hpublished
      rw [hctx]
      rfl
    · exact hpublished

def attempting (s : OledState P ω) : OledState P ω :=
  s.setCtx { s.ctx with stats := { s.ctx.stats with initAttempts := s.ctx.stats.initAttempts + 1 } }

/-- Once the initialization commands are accepted, so is every transfer of the synchronization. -/
def SyncAccepted (s : OledState P ω) : Prop :=
  (sendCommands ports (initSequence s.ctx.controller) (attempting s)).1 = .ok →
    (syncPages ports (List.range oledPageCount)
      (sendCommands ports (initSequence s.ctx.controller) (attempting s)).2).1 = .ok

theorem syncFullFramebuffer_ok (hok : (syncPages ports (List.range oledPageCount) s).1 = .ok) :
    syncFullFramebuffer ports s =
      (.ok, (syncPages ports (List.range oledPageCount) s).2.setCtx
        { (syncPages ports (List.range oledPageCount) s).2.ctx with
          stats := { (syncPages ports (List.range oledPageCount) s).2.ctx.stats with
            flushAttempts := s.ctx.stats.flushAttempts + 1
            flushSuccesses := s.ctx.stats.flushSuccesses + 1 } }) := by
  unfold syncFullFramebuffer
  simp only
  rw [if_neg (fun h => h hok)]

theorem tryInitialize_inStep (h : InStep controller s) (hsync : SyncAccepted ports s) :
    InStep controller (tryInitialize ports s).2 := by
  have hattempting : attempting s = s.setCtx { s.ctx with
      stats := { s.ctx.stats with initAttempts := s.ctx.stats.initAttempts + 1 } } := rfl
  unfold SyncAccepted at hsync
  unfold tryInitialize
  rw [← hattempting]
  have htransfers := sendCommands_transfers ports (initSequence s.ctx.controller) (attempting s)
  have hstaged := htransfers.staged ⟨h.staged.bounded, h.staged.clean⟩
  have hcontroller := htransfers.controller_eq.trans h.controller_eq
  have hcommands {next : OledPanel} (hok : (sendCommands ports (initSequence s.ctx.controller)
      (attempting s)).1 = .ok) (hnext : Possible controller (sendCommands ports
        (initSequence s.ctx.controller) (attempting s)).2.world.history next) :
      OledPanel.Addressed controller next := by
    have hshort : (initSequence s.ctx.controller).length ≤ oledDataChunkBytes := by
      cases s.ctx.controller <;> decide
    obtain ⟨panel, _, rfl⟩ := sendCommands_possible ports hok hnext hshort
    rw [h.controller_eq]
    exact OledPanel.init_addressed controller panel
  generalize sendCommands ports (initSequence s.ctx.controller) (attempting s) = sent
    at hsync hstaged hcontroller hcommands ⊢
  simp only
  by_cases hsent : sent.1 = .ok
  · have hok := hsync hsent
    have htransfers' := syncPages_transfers ports (List.range oledPageCount) sent.2
    have hstaged' := htransfers'.staged hstaged
    have hcontroller' := htransfers'.controller_eq.trans hcontroller
    have hredrawn {next : OledPanel} (hnext : Possible controller
        (syncPages ports (List.range oledPageCount) sent.2).2.world.history next) :=
      syncPages_possible ports _ sent.2 hcontroller (fun _ => hcommands hsent) hok hnext
    rw [if_neg (fun h => h hsent), syncFullFramebuffer_ok ports hok]
    simp only [ne_eq, not_true_eq_false, ↓reduceIte]
    refine enterReady_inStep ports hcontroller' ⟨hstaged'.bounded, hstaged'.clean⟩ ?_ ?_
    · intro next hnext
      obtain ⟨panel, _, hframe⟩ := hredrawn hnext
      exact hframe.addressed
    · intro next hnext page hpage column hcolumn
      obtain ⟨panel, _, hframe⟩ := hredrawn hnext
      refine Eq.trans ?_ (congrFun (congrFun htransfers'.framebuffer page) column).symm
      exact hframe.changed page column ⟨List.mem_range.mpr hpage, hcolumn⟩
  · rw [if_pos hsent]
    exact inStep_of_not_ready hcontroller ⟨hstaged.bounded, hstaged.clean⟩ fun h => by cases h

/-- The state in which a message makes the actor initialize the panel, if it does. -/
def initializing (s : OledState P ω) (msg : Inbound) : Option (OledState P ω) :=
  match msg.eventId with
  | .bootCompleted =>
    some (s.setCtx { s.ctx with
      bootObserved := true
      stats := { s.ctx.stats with bootEventsSeen := s.ctx.stats.bootEventsSeen + 1 } })
  | .tick1s =>
    let t := s.setCtx { s.ctx with
      tickCounter := s.ctx.tickCounter + 1
      stats := { s.ctx.stats with tickEventsSeen := s.ctx.stats.tickEventsSeen + 1 } }
    if !t.ctx.bootObserved then none
    else
      match t.ctx.state with
      | .waitBoot => some t
      | .error => if (t.ctx.tickCounter - t.ctx.retryDueTick).toInt32 < 0 then none else some t
      | _ => none
  | _ => none

/-- An initialization that the message starts is synchronized, unless the panel refuses the
initialization commands. -/
def Synchronizes (s : OledState P ω) (msg : Inbound) : Prop :=
  ∀ t, initializing (s.note (.received msg)) msg = some t → SyncAccepted ports t

instance (s : OledState P ω) : Decidable (SyncAccepted ports s) :=
  inferInstanceAs (Decidable (_ = Result.ok → _ = Result.ok))

instance (s : OledState P ω) (msg : Inbound) : Decidable (Synchronizes ports s msg) :=
  inferInstanceAs (Decidable (∀ t ∈ initializing (s.note (.received msg)) msg, SyncAccepted ports t))

variable (s) in
theorem tick_restaged (counter : UInt32) (stats : OledStats) :
    Restaged s.ctx { s.ctx with tickCounter := counter, stats := stats } :=
  ⟨fun h => ⟨h.bounded, h.clean⟩, rfl, rfl, rfl⟩

theorem commitStaged_inStep (h : InStep controller s) :
    InStep controller (commitStaged ports s).2 := by
  unfold commitStaged
  split
  · exact h
  · split
    · exact h
    · rename_i hready
      exact flushPending_inStep ports h (not_not.mp hready)

theorem handleCommitFrame_inStep (h : InStep controller s) (msg : Inbound) :
    InStep controller (handleCommitFrame ports s msg).2 := by
  unfold handleCommitFrame
  split
  · exact commitStaged_inStep ports h
  · rename_i payload _
    have hrestaged := h.restage (prepareSceneCommit_restaged s.ctx (readScene payload))
    split
    · exact commitStaged_inStep ports h
    · split
      · exact h
      · simp only
        split
        · exact hrestaged
        · exact commitStaged_inStep ports hrestaged

theorem handle_inStep (h : InStep controller s) {msg : Inbound}
    (hsync : ∀ t, initializing s msg = some t → SyncAccepted ports t) :
    InStep controller (handle ports s msg).2 := by
  unfold initializing at hsync
  unfold handle
  split
  · rename_i hevent
    rw [hevent] at hsync
    refine tryInitialize_inStep ports ?_ (hsync _ rfl)
    exact h.restage ⟨fun h => ⟨h.bounded, h.clean⟩, rfl, rfl, rfl⟩
  · rename_i hevent
    rw [hevent] at hsync
    have hticked := h.restage (tick_restaged s (s.ctx.tickCounter + 1)
      { s.ctx.stats with tickEventsSeen := s.ctx.stats.tickEventsSeen + 1 })
    unfold handleTick
    simp only at hsync ⊢
    split
    · exact hticked
    · rename_i hboot
      rw [if_neg hboot] at hsync
      split
      · rename_i hready
        split
        · exact flushPending_inStep ports hticked hready
        · exact hticked
      · rename_i hwait
        rw [hwait] at hsync
        exact tryInitialize_inStep ports hticked (hsync _ rfl)
      · rename_i herror
        rw [herror] at hsync
        split
        · exact hticked
        · rename_i hdue
          simp only [if_neg hdue] at hsync
          exact tryInitialize_inStep ports hticked (hsync _ rfl)
      · exact hticked
  · obtain ⟨hworld, hrestaged⟩ := handleDisplayText_restaged s msg
    have hnext : (handleDisplayText s msg).2 = s.setCtx (handleDisplayText s msg).2.ctx := by
      rw [Running.setCtx, ← hworld]
    rw [hnext]
    exact h.restage hrestaged
  · exact handleCommitFrame_inStep ports h msg
  · exact h

theorem step_inStep (h : InStep controller s) {msg : Inbound} (hsync : Synchronizes ports s msg) :
    InStep controller (step ports s msg) := by
  have hreceived := inStep_note h (.received msg) fun call hcall => by cases hcall
  have hhandled := handle_inStep ports hreceived hsync
  exact inStep_note hhandled _ fun call hcall => by cases hcall

/-- In a run whose synchronizations are all accepted the cache is coherent in every state. -/
theorem coherent_of_synchronized (device : I2cDevice) (controller : OledController) (outside : ω)
    (msgs : List Inbound)
    (h : Machine.Each (step ports) (Synchronizes ports) (.start (.fresh device controller) outside)
      msgs) :
    Machine.Always (step ports) (Coherent controller) (.start (.fresh device controller) outside)
      msgs := by
  have hfirst : InStep (P := P) controller (.start (.fresh device controller) outside) := by
    apply inStep_of_not_ready
    · rfl
    · exact ⟨fun _ => Nat.zero_le _, fun h => by cases h⟩
    · exact fun h => by cases h
  have halways := Machine.always_of_each (Synchronizes ports) (InStep controller)
    (fun s msg hin hsync => step_inStep ports hin hsync) hfirst h
  exact halways.imp fun s hin => hin.coherent

end Runs

def latePorts : OledPorts Unit Nat where
  i2c :=
    { writeStream := fun _ _ sent => (if sent = 0 then .errNack else .ok, sent + 1)
      writeRegs := fun _ _ _ sent => (.ok, sent)
      readRegs := fun _ _ _ sent => ((.ok, fun _ => 0), sent) }
  delivery := { routes := RouteTable.generated, deliver := fun _ _ sent => (.ok, sent) }

/-- The boot fails, the fifth tick initializes the panel, and a text in its second line is flushed. -/
theorem coherent_of_synchronized_late :
    let text : Inbound :=
      { eventId := .oledDisplayTextCmd, payloadSize := 24
        payload := some fun i => if i = 0 then 1 else if i = 1 then 20 else if i < 6 then 65 else 0 }
    let msgs : List Inbound := [{ eventId := .bootCompleted }, { eventId := .tick1s },
      { eventId := .tick1s }, { eventId := .tick1s }, { eventId := .tick1s }, { eventId := .tick1s },
      text, { eventId := .oledCommitFrame }]
    (Machine.run (step latePorts) (.start (.fresh ⟨0, 0x3C⟩ .ssd1306) 0) msgs).ctx.stats.flushSuccesses =
        2 ∧
      Machine.Always (step latePorts) (Coherent .ssd1306) (.start (.fresh ⟨0, 0x3C⟩ .ssd1306) 0)
        msgs := by
  intro text msgs
  refine ⟨by decide +kernel, coherent_of_synchronized latePorts ⟨0, 0x3C⟩ .ssd1306 0 msgs ?_⟩
  iterate 8 refine Machine.each_cons.mpr ⟨by decide +kernel, ?_⟩
  exact Machine.each_nil

def nackingPorts : OledPorts Unit Nat where
  i2c :=
    { writeStream := fun _ _ sent => (if sent = 0 then .ok else .errNack, sent + 1)
      writeRegs := fun _ _ _ sent => (.errNack, sent)
      readRegs := fun _ _ _ sent => ((.errNack, fun _ => 0), sent) }
  delivery := { routes := RouteTable.generated, deliver := fun _ _ sent => (.ok, sent) }

def onesPanel : OledPanel where
  ram := fun _ _ => 0xFF
  horizontal := true
  page := 0
  column := 0
  pageStart := 0
  pageEnd := 0
  columnStart := 0
  columnEnd := 0

/-- The panel takes the initialization commands and then stops answering: the actor is ready, and
the memory may still be full of ones. -/
theorem incoherent_after_failed_sync :
    ¬Machine.Always (step nackingPorts) (Coherent .ssd1306)
      (.start (.fresh ⟨0, 0x3C⟩ .ssd1306) 0) [{ eventId := .bootCompleted }] := by
  intro h
  have hpossible : Possible .ssd1306 (step nackingPorts (.start (.fresh ⟨0, 0x3C⟩ .ssd1306) 0)
      { eventId := .bootCompleted }).world.history onesPanel := by
    have hhistory : (step nackingPorts (.start (.fresh ⟨0, 0x3C⟩ .ssd1306) 0)
        { eventId := .bootCompleted }).world.history =
        [.received { eventId := .bootCompleted }, .called (.writeStream (0x00 :: oledSsd1306Init) .ok),
          .called (.writeStream [0x00, 0x21, 28, 99, 0x22, 0, 0] .errNack),
          .published (ActorWorld.outgoing .oledReady .oled none) .ok, .returned .ok] := rfl
    rw [hhistory]
    exact ⟨onesPanel, ⟨onesPanel, ⟨_, ⟨_, ⟨onesPanel, trivial, rfl⟩, rfl⟩, trivial⟩, rfl⟩, rfl⟩
  have hlost := (h.last (by decide +kernel) _ hpossible).2 (by decide +kernel) 0 (by decide) 0
    (by decide)
  revert hlost
  decide +kernel

end OledActor

end EventFramework
