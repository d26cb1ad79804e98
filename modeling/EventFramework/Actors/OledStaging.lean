import EventFramework.Actors.OledRedraw

/-!
# The staging buffer

Texts and scenes are drawn into the staging buffer. Wherever it differs from the framebuffer the
dirty range of the page covers the column.
-/

namespace EventFramework
set_option autoImplicit false

variable {P ω : Type}

namespace OledActor

section Staging

/-- The staging buffer differs from the framebuffer in the dirty ranges only, which lie on the
panel. -/
structure Staged (ctx : OledActor) : Prop where
  bounded : ∀ page, ctx.dirtyColumnEnd page ≤ oledWidth
  clean : ctx.pendingFlush = true → ∀ page column, page < oledPageCount → column < oledWidth →
    ¬Dirty ctx page column → ctx.stagingFramebuffer page column = ctx.framebuffer page column

/-- A glyph leaves the columns before its target as they were. -/
theorem renderGlyph_before (glyph : List UInt8) :
    ∀ (target : Nat) (row : Nat → UInt8) (column : Nat), column < target →
      renderGlyph glyph target row column = row column := by
  induction glyph with
  | nil => exact fun _ _ _ _ => rfl
  | cons byte glyph ih =>
    intro target row column hbefore
    unfold renderGlyph
    split
    · rfl
    · rename_i hinside
      have hwidth : oledWidth = 72 := rfl
      rw [ih _ _ _ (by omega), Function.update_of_ne (by omega)]

theorem renderChars_before {start : Nat} (text : List UInt8) :
    ∀ (idx : Nat) (row : Nat → UInt8) (column : Nat), start < oledWidth →
      idx + text.length ≤ oledTextMaxChars → column < start →
      renderChars start text idx row column = row column := by
  induction text with
  | nil => exact fun _ _ _ _ _ _ => rfl
  | cons c text ih =>
    intro idx row column hstart hfits hbefore
    have hwidth : oledWidth = 72 := rfl
    have hchars : oledTextMaxChars = 22 := rfl
    rw [List.length_cons] at hfits
    unfold renderChars
    simp only
    split
    · rfl
    · have hadvance : idx * 6 % 256 = idx * 6 := by omega
      have htarget : (start + idx * 6 % 256) % 256 = start + idx * 6 := by omega
      rw [ih _ _ _ hstart (by omega) hbefore, htarget, renderGlyph_before _ _ _ _ (by omega)]

theorem boundedText_length (text : List UInt8) (maxLen : Nat) :
    (boundedText text maxLen).length ≤ maxLen := by
  have hprefix := (List.takeWhile_prefix (· ≠ 0) (l := text.take maxLen)).length_le
  rw [List.length_take] at hprefix
  exact Nat.le_trans hprefix (Nat.min_le_left _ _)

/-- Rendered text changes its own page from its own column on. -/
theorem renderTextInto_kept {framebuffer : Framebuffer} {cmd : OledDisplayTextCmd}
    (hpage : cmd.page < oledPageCount) (hcolumn : cmd.column < oledWidth) {page column : Nat}
    (hout : page ≠ cmd.page ∨ column < cmd.column) :
    (renderTextInto framebuffer cmd).2 page column = framebuffer page column := by
  unfold renderTextInto
  rw [if_neg (by omega)]
  simp only
  by_cases hsame : page = cmd.page
  · have hbefore : column < cmd.column := by
      rcases hout with h | h
      · exact absurd hsame h
      · exact h
    rw [hsame, Function.update_self, renderChars_before _ _ _ _ hcolumn _ hbefore]
    · rw [if_neg (by omega)]
    · rw [Nat.zero_add]
      exact boundedText_length _ _
  · rw [Function.update_of_ne hsame]

structure Marked (ctx ctx' : OledActor) : Prop where
  bounded : (∀ page, ctx.dirtyColumnEnd page ≤ oledWidth) → ∀ page, ctx'.dirtyColumnEnd page ≤ oledWidth
  staging : ctx'.stagingFramebuffer = ctx.stagingFramebuffer
  framebuffer : ctx'.framebuffer = ctx.framebuffer
  controller : ctx'.controller = ctx.controller
  grows : ∀ page column, Dirty ctx page column → Dirty ctx' page column

theorem Marked.refl (ctx : OledActor) : Marked ctx ctx :=
  ⟨id, rfl, rfl, rfl, fun _ _ h => h⟩

theorem Marked.trans {ctx ctx' ctx'' : OledActor} (h : Marked ctx ctx') (h' : Marked ctx' ctx'') :
    Marked ctx ctx'' where
  bounded hctx := h'.bounded (h.bounded hctx)
  staging := h'.staging.trans h.staging
  framebuffer := h'.framebuffer.trans h.framebuffer
  controller := h'.controller.trans h.controller
  grows page column hdirty := h'.grows page column (h.grows page column hdirty)

theorem markDirty_marked (ctx : OledActor) (page startColumn endColumn : Nat) :
    Marked ctx (ctx.markDirty page startColumn endColumn) := by
  unfold markDirty
  split
  · exact .refl ctx
  · rename_i hgood
    refine ⟨fun hbounded q => ?_, rfl, rfl, rfl, ?_⟩
    · simp only [Function.update_apply]
      split
      · exact Nat.max_le.mpr ⟨by omega, hbounded page⟩
      · exact hbounded q
    · rintro q column ⟨hbit, hfrom, hto⟩
      refine ⟨?_, ?_, ?_⟩
      · simp only [Nat.testBit_or, hbit, Bool.true_or]
      · simp only [Function.update_apply]
        split
        · rename_i hq
          rw [← hq]
          exact Nat.le_trans (Nat.min_le_right _ _) hfrom
        · exact hfrom
      · simp only [Function.update_apply]
        split
        · rename_i hq
          rw [← hq]
          exact Nat.lt_of_lt_of_le hto (Nat.le_max_right _ _)
        · exact hto

theorem markDirty_dirty (ctx : OledActor) {page startColumn endColumn column : Nat}
    (hpage : page < oledPageCount) (hend : endColumn ≤ oledWidth) (hfrom : startColumn ≤ column)
    (hto : column < endColumn) : Dirty (ctx.markDirty page startColumn endColumn) page column := by
  unfold markDirty
  rw [if_neg (by omega)]
  refine ⟨?_, ?_, ?_⟩
  · simp
  · simp only [Function.update_self]
    exact Nat.le_trans (Nat.min_le_left _ _) hfrom
  · simp only [Function.update_self]
    exact Nat.lt_of_lt_of_le hto (Nat.le_max_left _ _)

theorem markColumn_marked (page : Nat) (ctx : OledActor) (column : Nat) :
    Marked ctx (markColumn page ctx column) := by
  unfold markColumn
  split
  · exact markDirty_marked ctx _ _ _
  · exact .refl ctx

theorem foldl_marked {mark : OledActor → Nat → OledActor} (h : ∀ ctx n, Marked ctx (mark ctx n))
    (ns : List Nat) : ∀ ctx, Marked ctx (ns.foldl mark ctx) := by
  induction ns with
  | nil => exact .refl
  | cons n ns ih => exact fun ctx => (h ctx n).trans (ih _)

theorem markPage_marked (ctx : OledActor) (page : Nat) : Marked ctx (markPage ctx page) :=
  foldl_marked (markColumn_marked page) _ ctx

theorem foldl_dirty {mark : OledActor → Nat → OledActor} (h : ∀ ctx n, Marked ctx (mark ctx n))
    {n page column : Nat} {staging framebuffer : Framebuffer}
    (hmark : ∀ ctx, ctx.stagingFramebuffer = staging → ctx.framebuffer = framebuffer →
      Dirty (mark ctx n) page column) (ns : List Nat) (hn : n ∈ ns) :
    ∀ ctx, ctx.stagingFramebuffer = staging → ctx.framebuffer = framebuffer →
      Dirty (ns.foldl mark ctx) page column := by
  induction ns with
  | nil => exact absurd hn List.not_mem_nil
  | cons n' ns ih =>
    intro ctx hstaging hframebuffer
    rcases List.mem_cons.mp hn with rfl | hlater
    · exact (foldl_marked h ns _).grows page column (hmark ctx hstaging hframebuffer)
    · exact ih hlater _ ((h ctx n').staging.trans hstaging) ((h ctx n').framebuffer.trans hframebuffer)

/-- A scene leaves no difference unmarked. -/
theorem foldl_markPage_dirty (ctx : OledActor) {page column : Nat} (hpage : page < oledPageCount)
    (hcolumn : column < oledWidth)
    (hdiffers : ctx.stagingFramebuffer page column ≠ ctx.framebuffer page column) :
    Dirty ((List.range oledPageCount).foldl markPage ctx) page column := by
  refine foldl_dirty markPage_marked ?_ _ (List.mem_range.mpr hpage) ctx rfl rfl
  intro ctx' hstaging hframebuffer
  refine foldl_dirty (markColumn_marked page) ?_ _ (List.mem_range.mpr hcolumn) ctx' hstaging
    hframebuffer
  intro ctx'' hstaging' hframebuffer'
  unfold markColumn
  rw [if_pos (by rw [hstaging', hframebuffer']; exact hdiffers)]
  exact markDirty_dirty ctx'' hpage (by omega) (Nat.le_refl _) (Nat.lt_succ_self _)

/-- What a handler of texts or scenes may change: the staging buffer and the dirty ranges. -/
structure Restaged (ctx ctx' : OledActor) : Prop where
  staged : Staged ctx → Staged ctx'
  framebuffer : ctx'.framebuffer = ctx.framebuffer
  controller : ctx'.controller = ctx.controller
  state : ctx'.state = ctx.state

theorem Restaged.refl (ctx : OledActor) : Restaged ctx ctx := ⟨id, rfl, rfl, rfl⟩

theorem prepareSceneCommit_restaged (ctx : OledActor) (scene : OledScene) :
    Restaged ctx (ctx.prepareSceneCommit scene).2 := by
  have hstate := prepareSceneCommit_state ctx scene
  revert hstate
  unfold prepareSceneCommit
  split
  · exact fun _ => .refl ctx
  · have hrendered (lines : List Nat) : ∀ staging, (renderLines scene lines staging).1 = .ok := by
      rename_i hcolumn
      induction lines with
      | nil => exact fun _ => rfl
      | cons line lines ih =>
        intro staging
        unfold renderLines
        simp only
        split
        · exact ih staging
        · rename_i hpage
          have hok : (renderTextInto staging ⟨(scene.pageOffset + line) % 256, scene.columnOffset,
              terminated (scene.lines line)⟩).1 = .ok := by
            unfold renderTextInto
            rw [if_neg (by simp only; omega)]
          rw [if_neg (fun h => h hok)]
          exact ih _
    generalize hstaged : (if scene.flags &&& 0x01 ≠ 0 then
      renderLines scene (List.range oledSceneLineCount) fun _ _ => 0
      else (.ok, fun _ _ => 0) : Result × Framebuffer) = staged
    have hok : staged.1 = .ok := by
      rw [← hstaged]
      split
      · exact hrendered _ _
      · rfl
    simp only [hok, ne_eq, not_true_eq_false, ↓reduceIte]
    intro hstate
    have hmarked := foldl_marked markPage_marked (List.range oledPageCount)
      (resetDirty { ctx with stagingFramebuffer := staged.2 })
    refine ⟨fun _ => ⟨?_, ?_⟩, hmarked.framebuffer, hmarked.controller, hstate⟩
    · exact hmarked.bounded fun _ => Nat.zero_le _
    · intro _ page column hpage hcolumn hclean
      rw [hmarked.staging, hmarked.framebuffer]
      by_contra hdiffers
      exact hclean (foldl_markPage_dirty _ hpage hcolumn hdiffers)

theorem seedStaging_restaged (ctx : OledActor) : Restaged ctx ctx.seedStaging ∧
    ctx.seedStaging.pendingFlush = ctx.pendingFlush ∧ Dirty ctx.seedStaging = Dirty ctx ∧
    (ctx.pendingFlush = false → ctx.seedStaging.stagingFramebuffer = ctx.framebuffer) := by
  unfold seedStaging
  split
  · rename_i hidle
    rw [Bool.not_eq_true'] at hidle
    refine ⟨⟨fun h => ⟨h.bounded, fun hpending => ?_⟩, rfl, rfl, rfl⟩, rfl, rfl, fun _ => rfl⟩
    rw [hidle] at hpending
    cases hpending
  · rename_i hpending
    rw [Bool.not_eq_true', Bool.not_eq_false] at hpending
    refine ⟨.refl ctx, rfl, rfl, fun hidle => ?_⟩
    rw [hpending] at hidle
    cases hidle

theorem handleDisplayText_restaged (s : OledState P ω) (msg : Inbound) :
    (handleDisplayText s msg).2.world = s.world ∧
      Restaged s.ctx (handleDisplayText s msg).2.ctx := by
  have hstate := (handleDisplayText_quiet s msg).2
  revert hstate
  unfold handleDisplayText
  split
  · exact fun _ => ⟨rfl, .refl _⟩
  · rename_i payload _
    simp only
    split
    · exact fun _ => ⟨rfl, .refl _⟩
    · obtain ⟨hseed, hpending, hdirty, hfresh⟩ := seedStaging_restaged s.ctx
      split
      · rename_i hrefused
        intro hstate
        refine ⟨rfl, ⟨fun h => ⟨(hseed.staged h).bounded, fun hnow => ?_⟩, hseed.framebuffer,
          hseed.controller, hstate⟩⟩
        have hsame : (renderTextInto s.ctx.seedStaging.stagingFramebuffer
            (readDisplayTextCmd payload)).2 = s.ctx.seedStaging.stagingFramebuffer := by
          unfold renderTextInto at hrefused ⊢
          split
          · rfl
          · rename_i hgood
            rw [if_neg hgood] at hrefused
            exact absurd rfl hrefused
        simp only [hsame]
        exact (hseed.staged h).clean hnow
      · rename_i hrendered
        intro hstate
        have hgood : ¬(oledPageCount ≤ (readDisplayTextCmd payload).page ∨
            oledWidth ≤ (readDisplayTextCmd payload).column) := by
          intro hbad
          apply hrendered
          unfold renderTextInto
          rw [if_pos hbad]
          exact (by decide : Result.errOutOfRange ≠ .ok)
        have hmarked := markDirty_marked { s.ctx.seedStaging with
          stagingFramebuffer := (renderTextInto s.ctx.seedStaging.stagingFramebuffer
            (readDisplayTextCmd payload)).2
          stats := { s.ctx.seedStaging.stats with
            displayCommandsSeen := s.ctx.seedStaging.stats.displayCommandsSeen + 1 } }
          (readDisplayTextCmd payload).page (readDisplayTextCmd payload).column oledWidth
        refine ⟨rfl, ⟨fun h => ⟨hmarked.bounded (hseed.staged h).bounded, ?_⟩,
          hmarked.framebuffer.trans hseed.framebuffer, hmarked.controller.trans hseed.controller,
          hstate⟩⟩
        intro _ page column hpage hcolumn hclean
        have hout : page ≠ (readDisplayTextCmd payload).page ∨
            column < (readDisplayTextCmd payload).column := by
          by_contra hin
          simp only [not_or, not_not, Nat.not_lt] at hin
          apply hclean
          rw [hin.1]
          exact markDirty_dirty _ (by omega) (Nat.le_refl _) hin.2 hcolumn
        have hseeded : s.ctx.seedStaging.stagingFramebuffer page column =
            s.ctx.seedStaging.framebuffer page column := by
          cases hidle : s.ctx.pendingFlush with
          | false => rw [hfresh hidle, hseed.framebuffer]
          | true =>
            refine (hseed.staged h).clean (hpending.trans hidle) page column hpage hcolumn fun hd => ?_
            exact hclean (hmarked.grows page column hd)
        refine (congrFun (congrFun hmarked.staging page) column).trans ?_
        refine Eq.trans ?_ (congrFun (congrFun hmarked.framebuffer page) column).symm
        refine Eq.trans ?_ hseeded
        exact renderTextInto_kept (by omega) (by omega) hout

end Staging

end OledActor

end EventFramework
