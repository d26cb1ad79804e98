import EventFramework.Actors.OledStaging

/-!
# The frame of a scene

Where the lines of a scene land. The columns are cut at the right edge; a page number that passes 255
starts over at the top of the panel.
-/

namespace EventFramework
set_option autoImplicit false

namespace OledActor

/-- The byte of a text at an offset from its first column: five columns of a glyph and a blank one
for each character, and blank behind the text. -/
def textByte (text : List UInt8) (offset : Nat) : UInt8 :=
  match text[offset / 6]? with
  | none => 0
  | some c => (glyphForChar c).getD (offset % 6) 0

def lineText (line : List UInt8) : List UInt8 :=
  (line.take (oledTextMaxChars - 1)).takeWhile (· ≠ 0)

/-- The blank frame with the lines of a scene over it, clipped at the edges of the panel. -/
def sceneFrame (scene : OledScene) : Framebuffer := fun page column =>
  if page < oledPageCount ∧ scene.pageOffset ≤ page ∧ page < scene.pageOffset + oledSceneLineCount ∧
      scene.columnOffset ≤ column ∧ column < oledWidth then
    textByte (lineText (scene.lines (page - scene.pageOffset))) (column - scene.columnOffset)
  else 0

theorem takeWhile_terminated (text : List UInt8) :
    (text ++ [0]).takeWhile (· ≠ 0) = text.takeWhile (· ≠ 0) := by
  induction text with
  | nil => rfl
  | cons c text ih => rw [List.cons_append, List.takeWhile_cons, List.takeWhile_cons, ih]

theorem boundedText_terminated (line : List UInt8) :
    boundedText (terminated line) oledTextMaxChars = lineText line := by
  have hchars : oledTextMaxChars = 21 + 1 := rfl
  unfold boundedText terminated lineText
  rw [hchars, Nat.add_sub_cancel]
  by_cases hlong : 21 < line.length
  · have hset : 21 < (line.set 21 0).length := by rwa [List.length_set]
    rw [List.take_succ_eq_append_getElem hset, List.take_set_of_le (Nat.le_refl _),
      List.getElem_set_self, takeWhile_terminated]
  · rw [List.set_eq_of_length_le (Nat.le_of_not_lt hlong),
      List.take_of_length_le (Nat.le_succ_of_le (Nat.le_of_not_lt hlong)),
      List.take_of_length_le (Nat.le_of_not_lt hlong)]

theorem glyphForChar_length (c : UInt8) : (glyphForChar c).length = 5 := by
  have hrows : ∀ row ∈ oledFont5x7, row.length = 5 := by decide
  have hindex : (if c < 32 ∨ 126 < c then 63 else c.toNat) - 32 < oledFont5x7.length := by
    have hfont : oledFont5x7.length = 95 := rfl
    split
    · decide
    · rename_i hprintable
      have hhigh : c.toNat ≤ 126 := UInt8.le_iff_toNat_le.mp (UInt8.not_lt.mp (not_or.mp hprintable).2)
      omega
  unfold glyphForChar
  simp only
  rw [List.getD_eq_getElem?_getD, List.getElem?_eq_getElem hindex]
  exact hrows _ (List.getElem_mem hindex)

/-- A glyph is drawn from its target on, cut at the right edge. -/
theorem renderGlyph_eq (glyph : List UInt8) : ∀ (target : Nat) (row : Nat → UInt8) (column : Nat),
    renderGlyph glyph target row column =
      if target ≤ column ∧ column < target + glyph.length ∧ column < oledWidth then
        glyph.getD (column - target) 0
      else row column := by
  have hwidth : oledWidth = 72 := rfl
  induction glyph with
  | nil =>
    intro target row column
    rw [if_neg (by simp only [List.length_nil]; omega)]
    rfl
  | cons byte glyph ih =>
    intro target row column
    unfold renderGlyph
    split
    · rw [if_neg (by omega)]
    · have hnext : (target + 1) % 256 = target + 1 := by omega
      rw [ih, hnext, List.length_cons]
      by_cases hfirst : column = target
      · rw [if_neg (by omega), hfirst, Function.update_self, if_pos (by omega), Nat.sub_self]
        rfl
      · rw [Function.update_of_ne hfirst]
        by_cases hlater : target + 1 ≤ column ∧ column < target + 1 + glyph.length ∧ column < oledWidth
        · obtain ⟨index, hindex⟩ : ∃ index, column - target = index + 1 :=
            Nat.exists_eq_succ_of_ne_zero (by omega)
          rw [if_pos hlater, if_pos (by omega), hindex, List.getD_cons_succ]
          congr 1
          omega
        · rw [if_neg hlater, if_neg (by omega)]

theorem textByte_cons (c : UInt8) (text : List UInt8) (offset : Nat) :
    textByte (c :: text) offset =
      if offset < 6 then (glyphForChar c).getD offset 0 else textByte text (offset - 6) := by
  unfold textByte
  by_cases hfirst : offset < 6
  · rw [if_pos hfirst, Nat.div_eq_of_lt hfirst, Nat.mod_eq_of_lt hfirst]
    rfl
  · have hdiv : offset / 6 = (offset - 6) / 6 + 1 := by omega
    have hmod : offset % 6 = (offset - 6) % 6 := by omega
    rw [if_neg hfirst, hdiv, hmod, List.getElem?_cons_succ]

theorem renderChars_eq {start : Nat} (hstart : start < oledWidth) (text : List UInt8) :
    ∀ (idx : Nat) (row : Nat → UInt8) (column : Nat), idx + text.length ≤ oledTextMaxChars →
      (∀ blank, start + 6 * idx ≤ blank → blank < oledWidth → row blank = 0) →
      renderChars start text idx row column =
        if start + 6 * idx ≤ column ∧ column < oledWidth then textByte text (column - (start + 6 * idx))
        else row column := by
  have hwidth : oledWidth = 72 := rfl
  have hchars : oledTextMaxChars = 22 := rfl
  induction text with
  | nil =>
    intro idx row column _ hblank
    unfold renderChars
    split
    · rename_i hin
      exact hblank column hin.1 hin.2
    · rfl
  | cons c text ih =>
    intro idx row column hfits hblank
    rw [List.length_cons] at hfits
    have htarget : (start + idx * 6 % 256) % 256 = start + 6 * idx := by omega
    unfold renderChars
    simp only [htarget]
    split
    · rw [if_neg (by omega)]
    · have hglyph := glyphForChar_length c
      have hblank' : ∀ blank, start + 6 * (idx + 1) ≤ blank → blank < oledWidth →
          renderGlyph (glyphForChar c) (start + 6 * idx) row blank = 0 := by
        intro blank hfrom hto
        rw [renderGlyph_eq, hglyph, if_neg (by omega)]
        exact hblank blank (by omega) hto
      rw [ih (idx + 1) _ column (by omega) hblank', renderGlyph_eq, hglyph, textByte_cons]
      by_cases hlater : start + 6 * (idx + 1) ≤ column ∧ column < oledWidth
      · have hoffset : column - (start + 6 * idx) - 6 = column - (start + 6 * (idx + 1)) := by omega
        rw [if_pos hlater, if_pos (by omega), if_neg (by omega), hoffset]
      · rw [if_neg hlater]
        by_cases hcell : start + 6 * idx ≤ column ∧ column < oledWidth
        · have hsix : column - (start + 6 * idx) < 6 := by omega
          rw [if_pos hcell, if_pos hsix]
          by_cases hbyte : column < start + 6 * idx + 5
          · rw [if_pos ⟨hcell.1, hbyte, hcell.2⟩]
          · rw [if_neg (by omega), hblank column hcell.1 hcell.2, List.getD_eq_default]
            omega
        · rw [if_neg (by omega), if_neg hcell]

theorem renderTextInto_eq (framebuffer : Framebuffer) {cmd : OledDisplayTextCmd}
    (hpage : cmd.page < oledPageCount) (hcolumn : cmd.column < oledWidth) (page column : Nat) :
    (renderTextInto framebuffer cmd).1 = .ok ∧ (renderTextInto framebuffer cmd).2 page column =
      if page = cmd.page ∧ cmd.column ≤ column ∧ column < oledWidth then
        textByte (boundedText cmd.text oledTextMaxChars) (column - cmd.column)
      else framebuffer page column := by
  unfold renderTextInto
  rw [if_neg (by omega)]
  refine ⟨rfl, ?_⟩
  simp only
  by_cases hsame : page = cmd.page
  · subst hsame
    rw [Function.update_self, renderChars_eq hcolumn]
    · rw [Nat.mul_zero, Nat.add_zero]
      by_cases hin : cmd.column ≤ column ∧ column < oledWidth
      · rw [if_pos hin, if_pos ⟨rfl, hin⟩]
      · rw [if_neg hin, if_neg hin, if_neg fun h => hin h.2]
    · rw [Nat.zero_add]
      exact boundedText_length _ _
    · intro blank hfrom hto
      rw [if_pos ⟨by omega, hto⟩]
  · rw [Function.update_of_ne hsame, if_neg (fun h => hsame h.1)]

def linePage (scene : OledScene) (line : Nat) : Nat := (scene.pageOffset + line) % 256

def drawLine (scene : OledScene) (framebuffer : Framebuffer) (line : Nat) : Framebuffer :=
  fun page column =>
    if linePage scene line = page ∧ page < oledPageCount ∧ scene.columnOffset ≤ column ∧
        column < oledWidth then
      textByte (lineText (scene.lines line)) (column - scene.columnOffset)
    else framebuffer page column

theorem renderLines_eq {scene : OledScene} (hcolumn : scene.columnOffset < oledWidth)
    (lines : List Nat) : ∀ framebuffer : Framebuffer,
      renderLines scene lines framebuffer = (.ok, lines.foldl (drawLine scene) framebuffer) := by
  induction lines with
  | nil => exact fun _ => rfl
  | cons line lines ih =>
    intro framebuffer
    unfold renderLines
    rw [List.foldl_cons]
    simp only
    split
    · rename_i hout
      have hnone : drawLine scene framebuffer line = framebuffer := by
        funext page column
        refine if_neg ?_
        rintro ⟨rfl, hpage, -⟩
        exact absurd hpage (Nat.not_lt.mpr hout)
      rw [ih, hnone]
    · rename_i hpage
      have hline (page column : Nat) : (renderTextInto framebuffer
          ⟨linePage scene line, scene.columnOffset, terminated (scene.lines line)⟩).1 = .ok ∧ _ :=
        renderTextInto_eq framebuffer (Nat.lt_of_not_le hpage) hcolumn page column
      have hdrawn : (renderTextInto framebuffer
          ⟨linePage scene line, scene.columnOffset, terminated (scene.lines line)⟩).2 =
          drawLine scene framebuffer line := by
        funext page column
        rw [(hline page column).2, boundedText_terminated, drawLine]
        by_cases hcell : page = linePage scene line ∧ scene.columnOffset ≤ column ∧ column < oledWidth
        · rw [if_pos hcell, if_pos ⟨hcell.1.symm, hcell.1 ▸ Nat.lt_of_not_le hpage, hcell.2⟩]
        · rw [if_neg hcell, if_neg fun h => hcell ⟨h.1.symm, h.2.2⟩]
      rw [if_neg (fun h => h (hline 0 0).1), ih]
      exact congrArg (fun frame => (Result.ok, lines.foldl (drawLine scene) frame)) hdrawn

/-- The three lines of a scene over a frame: the one whose page it is, or else the frame. -/
theorem drawLines_eq (scene : OledScene) (framebuffer : Framebuffer) {page column : Nat} :
    (∀ line, line < oledSceneLineCount → linePage scene line = page → page < oledPageCount →
      scene.columnOffset ≤ column → column < oledWidth →
      (List.range oledSceneLineCount).foldl (drawLine scene) framebuffer page column =
        textByte (lineText (scene.lines line)) (column - scene.columnOffset)) ∧
    ((∀ line, line < oledSceneLineCount → ¬(linePage scene line = page ∧ page < oledPageCount ∧
        scene.columnOffset ≤ column ∧ column < oledWidth)) →
      (List.range oledSceneLineCount).foldl (drawLine scene) framebuffer page column =
        framebuffer page column) := by
  have hlines : List.range oledSceneLineCount = [0, 1, 2] := rfl
  have hcount : oledSceneLineCount = 3 := rfl
  have hpages (line : Nat) : linePage scene line = (scene.pageOffset + line) % 256 := rfl
  simp only [hlines, List.foldl_cons, List.foldl_nil, drawLine]
  constructor
  · intro line hline hlands hpage hfrom hto
    have hother (other : Nat) (hother : other < oledSceneLineCount) (hne : other ≠ line) :
        ¬(linePage scene other = page ∧ page < oledPageCount ∧ scene.columnOffset ≤ column ∧
          column < oledWidth) := by
      rintro ⟨hlands', -⟩
      rw [hpages] at hlands hlands'
      omega
    obtain rfl | rfl | rfl : line = 0 ∨ line = 1 ∨ line = 2 := by omega
    · rw [if_neg (hother 2 (by decide) (by decide)), if_neg (hother 1 (by decide) (by decide)),
        if_pos ⟨hlands, hpage, hfrom, hto⟩]
    · rw [if_neg (hother 2 (by decide) (by decide)), if_pos ⟨hlands, hpage, hfrom, hto⟩]
    · rw [if_pos ⟨hlands, hpage, hfrom, hto⟩]
  · intro hnone
    rw [if_neg (hnone 2 (by decide)), if_neg (hnone 1 (by decide)), if_neg (hnone 0 (by decide))]

/-- The lines whose page number passes 255 show nothing. -/
def WrapsBlank (scene : OledScene) : Prop :=
  ∀ line, line < oledSceneLineCount → 256 ≤ scene.pageOffset + line → ∀ column,
    scene.columnOffset ≤ column → column < oledWidth →
      textByte (lineText (scene.lines line)) (column - scene.columnOffset) = 0

/-- A visible scene is accepted, and the staging buffer holds its lines. -/
theorem prepareSceneCommit_staging (ctx : OledActor) {scene : OledScene}
    (hcolumn : scene.columnOffset < oledWidth) (hvisible : scene.flags &&& 0x01 ≠ 0) :
    (ctx.prepareSceneCommit scene).1 = .ok ∧
      (ctx.prepareSceneCommit scene).2.stagingFramebuffer =
        (List.range oledSceneLineCount).foldl (drawLine scene) fun _ _ => 0 := by
  unfold prepareSceneCommit
  rw [if_neg (Nat.not_le.mpr hcolumn), if_pos hvisible, renderLines_eq hcolumn]
  simp only [ne_eq, not_true_eq_false, if_false]
  exact ⟨trivial, (foldl_marked markPage_marked _ _).staging⟩

theorem renderLines_outside {scene : OledScene} (hcolumn : scene.columnOffset < oledWidth)
    (framebuffer : Framebuffer) {page column : Nat}
    (hout : oledPageCount ≤ page ∨ oledWidth ≤ column) :
    (renderLines scene (List.range oledSceneLineCount) framebuffer).2 page column =
      framebuffer page column := by
  rw [renderLines_eq hcolumn]
  refine (drawLines_eq scene framebuffer).2 ?_
  rintro line - ⟨-, hpage, -, hinside⟩
  rcases hout with hout | hout
  · exact absurd hpage (Nat.not_lt.mpr hout)
  · exact absurd hinside (Nat.not_lt.mpr hout)

theorem drawn_iff_wrapsBlank {scene : OledScene} (hbyte : scene.pageOffset < 256) :
    (List.range oledSceneLineCount).foldl (drawLine scene) (fun _ _ => 0) = sceneFrame scene ↔
      WrapsBlank scene := by
  have hcount : oledSceneLineCount = 3 := rfl
  have hpanel : oledPageCount = 5 := rfl
  have hpages (line : Nat) : linePage scene line = (scene.pageOffset + line) % 256 := rfl
  constructor
  · intro hframe line hline hwraps column hfrom hto
    have hat := congrFun (congrFun hframe (scene.pageOffset + line - 256)) column
    rw [(drawLines_eq scene _).1 line hline (by rw [hpages]; omega) (by omega) hfrom hto, sceneFrame,
      if_neg (by omega)] at hat
    exact hat
  · intro hblank
    funext page column
    unfold sceneFrame
    by_cases hcell : page < oledPageCount ∧ scene.columnOffset ≤ column ∧ column < oledWidth
    · obtain ⟨hpage, hfrom, hto⟩ := hcell
      by_cases hlands : ∃ line, line < oledSceneLineCount ∧ linePage scene line = page
      · obtain ⟨line, hline, hlands⟩ := hlands
        rw [(drawLines_eq scene _).1 line hline hlands hpage hfrom hto]
        rw [hpages] at hlands
        by_cases hwraps : 256 ≤ scene.pageOffset + line
        · rw [if_neg (by omega)]
          exact hblank line hline hwraps column hfrom hto
        · have hdirect : line = page - scene.pageOffset := by omega
          rw [if_pos (by omega), hdirect]
      · have hnone : ¬(scene.pageOffset ≤ page ∧ page < scene.pageOffset + oledSceneLineCount) := by
          rintro ⟨hle, hlt⟩
          exact hlands ⟨page - scene.pageOffset, by omega, by rw [hpages]; omega⟩
        rw [if_neg fun h => hnone ⟨h.2.1, h.2.2.1⟩]
        exact (drawLines_eq scene _).2 fun line hline h => hlands ⟨line, hline, h.1⟩
    · rw [if_neg fun h => hcell ⟨h.1, h.2.2.2⟩]
      exact (drawLines_eq scene _).2 fun line hline h => hcell h.2

/-- A visible scene is clipped at the panel just when no line whose page number passes 255 shows
anything. Whatever the scene, nothing is written outside the panel. -/
theorem scene_clipped_iff (ctx : OledActor) (pageOffset columnOffset flags : UInt8)
    (lines : Nat → List UInt8) (hcolumn : columnOffset.toNat < oledWidth)
    (hvisible : flags &&& 0x01 ≠ 0) :
    let scene : OledScene := ⟨pageOffset.toNat, columnOffset.toNat, flags, lines⟩
    ((ctx.prepareSceneCommit scene).1 = .ok ∧
      (ctx.prepareSceneCommit scene).2.stagingFramebuffer = sceneFrame scene ∧
      ∀ (framebuffer : Framebuffer) (page column : Nat), oledPageCount ≤ page ∨ oledWidth ≤ column →
        (renderLines scene (List.range oledSceneLineCount) framebuffer).2 page column =
          framebuffer page column) ↔ WrapsBlank scene := by
  intro scene
  obtain ⟨haccepted, hstaging⟩ := prepareSceneCommit_staging ctx (show scene.columnOffset < _ from hcolumn)
    hvisible
  have hdrawn : _ = sceneFrame scene ↔ WrapsBlank scene := drawn_iff_wrapsBlank pageOffset.toNat_lt
  rw [hstaging, hdrawn]
  constructor
  · rintro ⟨-, hblank, -⟩
    exact hblank
  · intro hblank
    refine ⟨haccepted, hblank, ?_⟩
    intro framebuffer page column hout
    exact renderLines_outside hcolumn framebuffer hout

def letterLine : Nat → List UInt8 := fun _ => 65 :: List.replicate 21 0

theorem scene_clipped_below :
    let ctx := fresh ⟨0, 0x3C⟩ .ssd1306
    let scene : OledScene := ⟨4, 66, 1, letterLine⟩
    ((ctx.prepareSceneCommit scene).1 = .ok ∧
      (ctx.prepareSceneCommit scene).2.stagingFramebuffer = sceneFrame scene ∧
      ∀ (framebuffer : Framebuffer) (page column : Nat), oledPageCount ≤ page ∨ oledWidth ≤ column →
        (renderLines scene (List.range oledSceneLineCount) framebuffer).2 page column =
          framebuffer page column) := by
  refine (scene_clipped_iff (fresh ⟨0, 0x3C⟩ .ssd1306) 4 66 1 letterLine (by decide) (by decide)).mpr ?_
  intro line hline hwraps
  have hcount : oledSceneLineCount = 3 := rfl
  have hoffset : (4 : UInt8).toNat = 4 := rfl
  simp only [hoffset] at hwraps
  omega

/-- A scene at page 255 shows its second line at the top of the panel. -/
theorem not_scene_clipped :
    ¬∀ (ctx : OledActor) (pageOffset columnOffset flags : UInt8) (lines : Nat → List UInt8),
      columnOffset.toNat < oledWidth → flags &&& 0x01 ≠ 0 →
      (ctx.prepareSceneCommit ⟨pageOffset.toNat, columnOffset.toNat, flags, lines⟩).2.stagingFramebuffer =
        sceneFrame ⟨pageOffset.toNat, columnOffset.toNat, flags, lines⟩ := by
  intro hclipped
  have hframe := hclipped (fresh ⟨0, 0x3C⟩ .ssd1306) 255 0 1 letterLine (by decide) (by decide)
  rw [(prepareSceneCommit_staging _ (by decide) (by decide)).2] at hframe
  have hblank := (drawn_iff_wrapsBlank (by decide)).mp hframe 1 (by decide) (by decide) 0 (by decide)
    (by decide)
  exact absurd hblank (by decide)

end OledActor

end EventFramework
