import EventFramework.Actors.OledStaging

/-!
# The dirty ranges

A page's bit stands for a range of columns on the panel, and a flush is pending while a bit is set.
Every handler keeps this, whatever the bus and the deliveries answer.
-/

namespace EventFramework
set_option autoImplicit false

variable {P ω : Type}

namespace OledActor

structure Ranges (ctx : OledActor) : Prop where
  bit : ∀ page, ctx.dirtyPageMask.testBit page = true ↔
    ctx.dirtyColumnStart page < ctx.dirtyColumnEnd page
  panel : ∀ page, ctx.dirtyPageMask.testBit page = true → page < oledPageCount
  pending : ctx.pendingFlush = true ↔ ∃ page, ctx.dirtyPageMask.testBit page = true

theorem resetDirty_ranges (ctx : OledActor) : Ranges ctx.resetDirty := by
  have hnone (page : Nat) : ¬(0 : Nat).testBit page = true := by simp
  refine ⟨fun page => ?_, fun page hbit => absurd hbit (hnone page), ?_⟩
  · constructor
    · exact fun hbit => absurd hbit (hnone page)
    · exact fun hlt => absurd hlt (Nat.not_lt_zero _)
  · constructor
    · exact fun hpending => by cases hpending
    · rintro ⟨page, hbit⟩
      exact absurd hbit (hnone page)

theorem markDirty_ranges {ctx : OledActor} (h : Ranges ctx) (page startColumn endColumn : Nat) :
    Ranges (ctx.markDirty page startColumn endColumn) := by
  unfold markDirty
  split
  · exact h
  rename_i hgood
  have hbit (other : Nat) : (ctx.dirtyPageMask ||| 1 <<< page).testBit other = true ↔
      other = page ∨ ctx.dirtyPageMask.testBit other = true := by
    rw [Nat.testBit_or, Bool.or_eq_true, Nat.one_shiftLeft, Nat.testBit_two_pow,
      decide_eq_true_eq, or_comm, eq_comm]
  refine ⟨fun other => ?_, fun other hother => ?_, ?_⟩
  · rw [hbit]
    by_cases hsame : other = page
    · subst hsame
      simp only [Function.update_self, true_or, true_iff]
      omega
    · simp only [Function.update_of_ne hsame, hsame, false_or]
      exact h.bit other
  · rcases (hbit other).mp hother with rfl | hbefore
    · omega
    · exact h.panel other hbefore
  · exact ⟨fun _ => ⟨page, (hbit page).mpr (.inl rfl)⟩, fun _ => rfl⟩

theorem foldl_ranges {mark : OledActor → Nat → OledActor}
    (hmark : ∀ ctx n, Ranges ctx → Ranges (mark ctx n)) (ns : List Nat) :
    ∀ ctx, Ranges ctx → Ranges (ns.foldl mark ctx) := by
  induction ns with
  | nil => exact fun _ h => h
  | cons n ns ih => exact fun ctx h => ih _ (hmark ctx n h)

theorem markPage_ranges (ctx : OledActor) (page : Nat) (h : Ranges ctx) :
    Ranges (markPage ctx page) := by
  refine foldl_ranges (fun ctx column h => ?_) _ ctx h
  unfold markColumn
  split
  · exact markDirty_ranges h _ _ _
  · exact h

theorem prepareSceneCommit_ranges {ctx : OledActor} (h : Ranges ctx) (scene : OledScene) :
    Ranges (ctx.prepareSceneCommit scene).2 := by
  unfold prepareSceneCommit
  split
  · exact h
  · generalize (if scene.flags &&& 0x01 ≠ 0 then
      renderLines scene (List.range oledSceneLineCount) fun _ _ => 0
      else (.ok, fun _ _ => 0) : Result × Framebuffer) = staged
    simp only
    split
    · exact ⟨h.bit, h.panel, h.pending⟩
    · dsimp only
      exact foldl_ranges markPage_ranges (List.range oledPageCount) _ (resetDirty_ranges _)

theorem seedStaging_ranges {ctx : OledActor} (h : Ranges ctx) : Ranges ctx.seedStaging := by
  unfold seedStaging
  split
  · exact ⟨h.bit, h.panel, h.pending⟩
  · exact h

/-- The dirty ranges are sound and cover every difference. -/
structure Tracked (ctx : OledActor) : Prop where
  staged : Staged ctx
  ranges : Ranges ctx

theorem Tracked.congr {ctx ctx' : OledActor} (h : Tracked ctx)
    (hpending : ctx'.pendingFlush = ctx.pendingFlush) (hmask : ctx'.dirtyPageMask = ctx.dirtyPageMask)
    (hstart : ctx'.dirtyColumnStart = ctx.dirtyColumnStart)
    (hend : ctx'.dirtyColumnEnd = ctx.dirtyColumnEnd) (hframe : ctx'.framebuffer = ctx.framebuffer)
    (hstaging : ctx'.stagingFramebuffer = ctx.stagingFramebuffer) : Tracked ctx' := by
  obtain ⟨⟨hbounded, hclean⟩, hbit, hpanel, hsome⟩ := h
  refine ⟨⟨?_, ?_⟩, ?_, ?_, ?_⟩
  · rw [hend]
    exact hbounded
  · unfold Dirty at hclean ⊢
    rw [hpending, hmask, hstart, hend, hframe, hstaging]
    exact hclean
  · rw [hmask, hstart, hend]
    exact hbit
  · rw [hmask]
    exact hpanel
  · rw [hpending, hmask]
    exact hsome

theorem Tracked.transfers {s s' : OledState P ω} (h : Tracked s.ctx) (htransfers : Transfers s s') :
    Tracked s'.ctx := by
  obtain ⟨_, _, _, hctx⟩ := htransfers
  rw [hctx]
  exact h.congr rfl rfl rfl rfl rfl rfl

variable (ports : OledPorts P ω) {s : OledState P ω}

theorem flushPending_tracked (h : Tracked s.ctx) : Tracked (flushPending ports s).2.ctx := by
  unfold flushPending
  split
  · exact h
  have hcounted : Tracked (s.setCtx { s.ctx with
      stats := { s.ctx.stats with flushAttempts := s.ctx.stats.flushAttempts + 1 } }).ctx :=
    h.congr rfl rfl rfl rfl rfl rfl
  have hflushed := hcounted.transfers (flushPages_transfers ports (List.range oledPageCount) _)
  simp only
  split
  · exact hflushed.congr rfl rfl rfl rfl rfl rfl
  · refine ⟨⟨fun _ => Nat.zero_le _, fun hpending => by cases hpending⟩, ?_⟩
    obtain ⟨hbit, hpanel, hpending⟩ := resetDirty_ranges s.ctx
    exact ⟨hbit, hpanel, hpending⟩

theorem syncFullFramebuffer_tracked (h : Tracked s.ctx) :
    Tracked (syncFullFramebuffer ports s).2.ctx := by
  have hsynced := h.transfers (syncPages_transfers ports (List.range oledPageCount) s)
  unfold syncFullFramebuffer
  generalize syncPages ports (List.range oledPageCount) s = synced at hsynced ⊢
  simp only
  split
  · exact hsynced.congr rfl rfl rfl rfl rfl rfl
  · exact hsynced.congr rfl rfl rfl rfl rfl rfl

theorem publishReady_ctx : (publishReady ports s).2.ctx = s.ctx := by
  obtain ⟨rc, outside, heq⟩ :=
    Running.publishEvent_spec ports.delivery .oledReady .oled none (by rfl) s
  unfold publishReady
  rw [heq]

theorem enterReady_tracked (h : Tracked s.ctx) : Tracked (enterReady ports s).2.ctx := by
  have hready : Tracked (publishReady ports (s.setCtx { s.ctx with
      state := .ready
      stats := { s.ctx.stats with initSuccesses := s.ctx.stats.initSuccesses + 1 } })).2.ctx := by
    rw [publishReady_ctx]
    exact h.congr rfl rfl rfl rfl rfl rfl
  unfold enterReady
  simp only
  split
  · exact hready
  · split
    · exact flushPending_tracked ports hready
    · exact hready

theorem tryInitialize_tracked (h : Tracked s.ctx) : Tracked (tryInitialize ports s).2.ctx := by
  have hcommands : Tracked (sendCommands ports (initSequence s.ctx.controller) (s.setCtx { s.ctx with
      stats := { s.ctx.stats with initAttempts := s.ctx.stats.initAttempts + 1 } })).2.ctx :=
    Tracked.transfers (h.congr rfl rfl rfl rfl rfl rfl) (sendCommands_transfers ports _ _)
  unfold tryInitialize
  simp only
  split
  · exact hcommands.congr rfl rfl rfl rfl rfl rfl
  · have hsynced := syncFullFramebuffer_tracked ports hcommands
    generalize syncFullFramebuffer ports _ = synced at hsynced ⊢
    split
    · exact hsynced.congr rfl rfl rfl rfl rfl rfl
    · exact enterReady_tracked ports hsynced

theorem handleDisplayText_tracked (h : Tracked s.ctx) (msg : Inbound) :
    Tracked (handleDisplayText s msg).2.ctx := by
  refine ⟨(handleDisplayText_restaged s msg).2.staged h.staged, ?_⟩
  have hseeded := seedStaging_ranges h.ranges
  unfold handleDisplayText
  split
  · exact h.ranges
  · split
    · exact h.ranges
    · simp only
      split
      · exact ⟨hseeded.bit, hseeded.panel, hseeded.pending⟩
      · change Ranges (OledActor.markDirty _ _ _ _)
        apply markDirty_ranges
        exact ⟨hseeded.bit, hseeded.panel, hseeded.pending⟩

theorem commitStaged_tracked (h : Tracked s.ctx) : Tracked (commitStaged ports s).2.ctx := by
  unfold commitStaged
  split
  · exact h
  · split
    · exact h
    · exact flushPending_tracked ports h

theorem handleCommitFrame_tracked (h : Tracked s.ctx) (msg : Inbound) :
    Tracked (handleCommitFrame ports s msg).2.ctx := by
  have hprepared (scene : OledScene) : Tracked (s.ctx.prepareSceneCommit scene).2 :=
    ⟨(prepareSceneCommit_restaged s.ctx scene).staged h.staged, prepareSceneCommit_ranges h.ranges scene⟩
  unfold handleCommitFrame
  split
  · exact commitStaged_tracked ports h
  · split
    · exact commitStaged_tracked ports h
    · split
      · exact h
      · simp only
        split
        · exact hprepared _
        · exact commitStaged_tracked ports (hprepared _)

theorem handleTick_tracked (h : Tracked s.ctx) : Tracked (handleTick ports s).2.ctx := by
  have hticked : Tracked (s.setCtx { s.ctx with
      tickCounter := s.ctx.tickCounter + 1
      stats := { s.ctx.stats with tickEventsSeen := s.ctx.stats.tickEventsSeen + 1 } }).ctx :=
    h.congr rfl rfl rfl rfl rfl rfl
  unfold handleTick
  simp only
  split
  · exact hticked
  · split
    · split
      · exact flushPending_tracked ports hticked
      · exact hticked
    · exact tryInitialize_tracked ports hticked
    · split
      · exact hticked
      · exact tryInitialize_tracked ports hticked
    · exact hticked

theorem handle_tracked (h : Tracked s.ctx) (msg : Inbound) : Tracked (handle ports s msg).2.ctx := by
  unfold handle
  split
  · exact tryInitialize_tracked ports (h.congr rfl rfl rfl rfl rfl rfl)
  · exact handleTick_tracked ports h
  · exact handleDisplayText_tracked h msg
  · exact handleCommitFrame_tracked ports h msg
  · exact h

theorem step_tracked (h : Tracked s.ctx) (msg : Inbound) : Tracked (step ports s msg).ctx :=
  let received := s.note (.received msg)
  have hreceived : Tracked received.ctx := h
  handle_tracked ports hreceived msg

/-- What the dirty ranges say in a state. -/
structure DirtyTracked (ctx : OledActor) : Prop where
  range : ∀ page, page < oledPageCount → ctx.dirtyPageMask.testBit page = true →
    ctx.dirtyColumnStart page < ctx.dirtyColumnEnd page ∧ ctx.dirtyColumnEnd page ≤ oledWidth
  bit : ∀ page, page < oledPageCount → (ctx.dirtyPageMask.testBit page = true ↔
    ctx.dirtyColumnStart page < ctx.dirtyColumnEnd page)
  pending : ctx.pendingFlush = true ↔
    ∃ page, page < oledPageCount ∧ ctx.dirtyPageMask.testBit page = true
  covers : ctx.pendingFlush = true → ∀ page column, page < oledPageCount → column < oledWidth →
    ctx.stagingFramebuffer page column ≠ ctx.framebuffer page column → Dirty ctx page column

theorem Tracked.dirtyTracked {ctx : OledActor} (h : Tracked ctx) : DirtyTracked ctx := by
  refine ⟨?_, fun page _ => h.ranges.bit page, ?_, ?_⟩
  · exact fun page _ hbit => ⟨(h.ranges.bit page).mp hbit, h.staged.bounded page⟩
  · rw [h.ranges.pending]
    constructor
    · rintro ⟨page, hbit⟩
      exact ⟨page, h.ranges.panel page hbit, hbit⟩
    · rintro ⟨page, -, hbit⟩
      exact ⟨page, hbit⟩
  · intro hpending page column hpage hcolumn hdiffers
    by_contra hclean
    exact hdiffers (h.staged.clean hpending page column hpage hcolumn hclean)

structure Flushed (before after : OledActor) : Prop where
  framebuffer : after.framebuffer = before.stagingFramebuffer
  staging : after.stagingFramebuffer = before.stagingFramebuffer
  idle : after.pendingFlush = false
  clean : ∀ page column, ¬Dirty after page column
  mask : after.dirtyPageMask = 0

def flushTransfers (s : OledState P ω) : Result × OledState P ω :=
  flushPages ports (List.range oledPageCount) (s.setCtx { s.ctx with
    stats := { s.ctx.stats with flushAttempts := s.ctx.stats.flushAttempts + 1 } })

theorem flushPending_flushed (hpending : s.ctx.pendingFlush = true)
    (hok : (flushTransfers ports s).1 = .ok) : Flushed s.ctx (flushPending ports s).2.ctx := by
  have htransfers := flushPages_transfers ports (List.range oledPageCount) (s.setCtx { s.ctx with
    stats := { s.ctx.stats with flushAttempts := s.ctx.stats.flushAttempts + 1 } })
  have hstaging := htransfers.staging
  unfold flushTransfers at hok
  unfold flushPending
  rw [hpending, if_neg (by decide)]
  simp only
  rw [if_neg (fun h => h hok)]
  refine ⟨hstaging, hstaging, rfl, ?_, rfl⟩
  rintro page column ⟨hbit, -⟩
  exact absurd hbit (by simp [resetDirty, Running.setCtx])

/-- In every reachable state the dirty ranges cover what differs from the framebuffer, and a flush
that succeeds, from whatever state, leaves nothing dirty. -/
theorem dirty_tracking_complete (device : I2cDevice) (controller : OledController) (outside : ω)
    (msgs : List Inbound) :
    Machine.Always (step ports) (fun s => DirtyTracked s.ctx)
      (.start (.fresh device controller) outside : OledState P ω) msgs ∧
    ∀ s : OledState P ω, s.ctx.pendingFlush = true → (flushTransfers ports s).1 = .ok →
      Flushed s.ctx (flushPending ports s).2.ctx := by
  have hfirst : Tracked (.fresh device controller) := by
    refine ⟨⟨fun _ => Nat.zero_le _, fun hpending => by cases hpending⟩, ?_⟩
    obtain ⟨hbit, hpanel, hpending⟩ := resetDirty_ranges (.fresh device controller)
    exact ⟨hbit, hpanel, hpending⟩
  have halways : Machine.Always (step ports) (fun s => Tracked s.ctx)
      (.start (.fresh device controller) outside : OledState P ω) msgs :=
    Machine.always_of_step (fun (_ : OledState P ω) msg h => step_tracked ports h msg) hfirst msgs
  exact ⟨halways.imp fun s h => h.dirtyTracked, fun s => flushPending_flushed ports⟩

end OledActor

end EventFramework
