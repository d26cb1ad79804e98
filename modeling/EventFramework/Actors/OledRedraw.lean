import EventFramework.Actors.OledPanel
import EventFramework.Actors.DeviceReady

/-!
# What the transfers leave on the panel

The panels that a history may have left. A transfer that succeeds leaves the bytes that it sent,
so the page loops leave the framebuffer in the area they send.
-/

namespace EventFramework
set_option autoImplicit false

variable {P ω : Type}

namespace OledActor

/-- What an event of the history does to the panel. A transfer that failed may leave anything. -/
def PanelStep (controller : OledController) : ActorEvent P DeviceCall → OledPanel → OledPanel → Prop
  | .called (.writeStream data .ok), panel, next => next = OledPanel.applyStream controller data panel
  | .called (.writeStream _ _), _, _ => True
  | _, panel, next => next = panel

/-- The panels that a history may have left, from any panel at power-up. -/
def Possible (controller : OledController) (history : List (ActorEvent P DeviceCall)) :
    OledPanel → Prop :=
  history.foldl
    (fun reached event next => ∃ panel, reached panel ∧ PanelStep controller event panel next)
    fun _ => True

def Dirty (ctx : OledActor) (page column : Nat) : Prop :=
  ctx.dirtyPageMask.testBit page = true ∧ ctx.dirtyColumnStart page ≤ column ∧
    column < ctx.dirtyColumnEnd page

def Shows (controller : OledController) (ctx : OledActor) (panel : OledPanel) : Prop :=
  ∀ page, page < oledPageCount → ∀ column, column < oledWidth →
    OledPanel.shown controller panel page column = ctx.framebuffer page column

/-- The cache is coherent: in the ready state the panel shows the framebuffer, outside the dirty
ranges and everywhere when nothing is pending. -/
def Coherent (controller : OledController) (s : OledState P ω) : Prop :=
  s.ctx.state = .ready → ∀ panel, Possible controller s.world.history panel →
    (∀ page, page < oledPageCount → ∀ column, column < oledWidth → ¬Dirty s.ctx page column →
      OledPanel.shown controller panel page column = s.ctx.framebuffer page column) ∧
    (s.ctx.pendingFlush = false → Shows controller s.ctx panel)

section Transfers

variable {controller : OledController} (ports : OledPorts P ω) {next : OledPanel}

theorem possible_snoc {history : List (ActorEvent P DeviceCall)} {event : ActorEvent P DeviceCall} :
    Possible controller (history ++ [event]) next ↔
      ∃ panel, Possible controller history panel ∧ PanelStep controller event panel next := by
  unfold Possible
  rw [List.foldl_append]
  rfl

theorem writeStream_possible {data : List UInt8} {s : OledState P ω}
    (hok : (writeStream ports data s).1 = .ok)
    (hnext : Possible controller (writeStream ports data s).2.world.history next) :
    ∃ panel, Possible controller s.world.history panel ∧
      next = OledPanel.applyStream controller data panel := by
  obtain ⟨panel, hpanel, hstep⟩ := possible_snoc.mp hnext
  refine ⟨panel, hpanel, ?_⟩
  have hstatus : (ports.i2c.writeStream s.ctx.device data s.world.outside).1 = .ok := hok
  rw [hstatus] at hstep
  exact hstep

/-- The chunks of a data transfer are as good as one stream. -/
theorem sendChunks_possible (fuel : Nat) :
    ∀ (data : List UInt8) (s : OledState P ω), data.length ≤ fuel →
      (sendChunks ports 0x40 fuel data s).1 = .ok →
      Possible controller (sendChunks ports 0x40 fuel data s).2.world.history next →
      ∃ panel, Possible controller s.world.history panel ∧
        next = OledPanel.data controller data panel := by
  induction fuel with
  | zero =>
    intro data s hfuel _ hnext
    rw [List.length_eq_zero_iff.mp (Nat.le_zero.mp hfuel)]
    exact ⟨next, hnext, rfl⟩
  | succ fuel ih =>
    intro data s hfuel hok hnext
    unfold sendChunks at hok hnext
    by_cases hend : data = []
    · rw [if_pos hend] at hnext
      rw [hend]
      exact ⟨next, hnext, rfl⟩
    · have hpositive := List.length_pos_iff.mpr hend
      rw [if_neg hend] at hok hnext
      simp only at hok hnext
      by_cases hstatus : (writeStream ports (0x40 :: data.take oledDataChunkBytes) s).1 = .ok
      · simp only [hstatus, ne_eq, not_true_eq_false, ↓reduceIte] at hok hnext
        have hrest : (data.drop oledDataChunkBytes).length ≤ fuel := by
          rw [List.length_drop]
          unfold oledDataChunkBytes
          omega
        obtain ⟨middle, hmiddle, hlater⟩ := ih _ _ hrest hok hnext
        obtain ⟨panel, hpanel, hfirst⟩ := writeStream_possible ports hstatus hmiddle
        refine ⟨panel, hpanel, ?_⟩
        rw [hlater, hfirst]
        have hstream : OledPanel.applyStream controller (0x40 :: data.take oledDataChunkBytes) panel =
            OledPanel.data controller (data.take oledDataChunkBytes) panel := rfl
        rw [hstream, OledPanel.data, OledPanel.data, OledPanel.data, ← List.foldl_append,
          List.take_append_drop]
      · simp only [if_pos (show _ ≠ _ from hstatus)] at hok
        cases hok

theorem sendData_possible {data : List UInt8} {s : OledState P ω}
    (hok : (sendData ports data s).1 = .ok)
    (hnext : Possible controller (sendData ports data s).2.world.history next) :
    ∃ panel, Possible controller s.world.history panel ∧
      next = OledPanel.data controller data panel :=
  sendChunks_possible ports data.length data s (Nat.le_refl _) hok hnext

theorem sendCommands_possible {commands : List UInt8} {s : OledState P ω}
    (hok : (sendCommands ports commands s).1 = .ok)
    (hnext : Possible controller (sendCommands ports commands s).2.world.history next)
    (hfits : commands.length ≤ oledDataChunkBytes) :
    ∃ panel, Possible controller s.world.history panel ∧
      next = OledPanel.commands controller commands panel := by
  unfold sendCommands at hok hnext
  cases commands with
  | nil => exact ⟨next, hnext, rfl⟩
  | cons command commands =>
    have hdone (fuel : Nat) (t : OledState P ω) : sendChunks ports 0x00 fuel [] t = (.ok, t) := by
      cases fuel <;> rfl
    rw [List.length_cons, sendChunks, if_neg (List.cons_ne_nil _ _), List.take_of_length_le hfits,
      List.drop_eq_nil_of_le hfits] at hok hnext
    simp only [hdone] at hok hnext
    by_cases hstatus : (writeStream ports (0x00 :: command :: commands) s).1 = .ok
    · simp only [hstatus, ne_eq, not_true_eq_false, ↓reduceIte] at hnext
      exact writeStream_possible ports hstatus hnext
    · simp only [if_pos (show _ ≠ _ from hstatus)] at hok
      cases hok

theorem pageSlice_length (pageData : Nat → UInt8) (start count : Nat) :
    (pageSlice pageData start count).length = count := by
  rw [pageSlice, List.length_map, List.length_range']

theorem pageSlice_getD (pageData : Nat → UInt8) {start count index : Nat} (h : index < count) :
    (pageSlice pageData start count).getD index 0 = pageData (start + index) := by
  rw [pageSlice, List.getD_eq_getElem?_getD, List.getElem?_map, List.getElem?_range' h]
  simp

/-- A slice of a page is written where the panel's address points. -/
theorem slice_shown {panel : OledPanel} {pageData : Nat → UInt8} {page start count : Nat}
    (hpage : panel.page = page) (hcolumn : panel.column = start + OledPanel.columnOffset controller)
    (hfits : OledPanel.Fits controller panel count) (q column : Nat) :
    OledPanel.shown controller (OledPanel.data controller (pageSlice pageData start count) panel) q
        column =
      if q = page ∧ start ≤ column ∧ column < start + count then pageData column
      else OledPanel.shown controller panel q column := by
  have hlength := pageSlice_length pageData start count
  obtain ⟨hcells, _⟩ := OledPanel.data_spec controller (pageSlice pageData start count) panel
    (by rw [hlength]; exact hfits)
  rw [OledPanel.shown, hcells, hlength, hpage, hcolumn]
  by_cases hcell : q = page ∧ start ≤ column ∧ column < start + count
  · rw [if_pos (by omega), if_pos hcell, pageSlice_getD pageData (by omega)]
    congr 1
    omega
  · rw [if_neg (by omega), if_neg hcell]
    rfl

/-- What a transfer of a page's columns leaves on the panel. -/
structure Written (controller : OledController) (page startColumn endColumn : Nat)
    (pageData : Nat → UInt8) (panel next : OledPanel) : Prop where
  addressed : OledPanel.Addressed controller panel → OledPanel.Addressed controller next
  shown : ∀ q column, OledPanel.shown controller next q column =
    if q = page ∧ startColumn ≤ column ∧ column < endColumn then pageData column
    else OledPanel.shown controller panel q column

theorem sh1106Window_possible {page endColumn : Nat} {pageData : Nat → UInt8}
    (hpage : page < oledPageCount) (hend : endColumn ≤ oledWidth) (fuel : Nat) :
    ∀ (current : Nat) (s : OledState P ω), endColumn - current ≤ fuel →
      (applySh1106Window ports page endColumn pageData fuel current s).1 = .ok →
      Possible .sh1106 (applySh1106Window ports page endColumn pageData fuel current s).2.world.history
        next →
      ∃ panel, Possible .sh1106 s.world.history panel ∧
        Written .sh1106 page current endColumn pageData panel next := by
  induction fuel with
  | zero =>
    intro current s hfuel _ hnext
    refine ⟨next, hnext, id, fun q column => ?_⟩
    rw [if_neg (by omega)]
  | succ fuel ih =>
    intro current s hfuel hok hnext
    unfold applySh1106Window at hok hnext
    by_cases hdone : endColumn ≤ current
    · rw [if_pos hdone] at hnext
      refine ⟨next, hnext, id, fun q column => ?_⟩
      rw [if_neg (by omega)]
    · rw [if_neg hdone] at hok hnext
      simp only at hok hnext
      generalize hcommands : sendCommands ports [(0xB0 : UInt8) ||| UInt8.ofNat page,
        (0x00 : UInt8) ||| (UInt8.ofNat (current + oledSh1106ColumnOffset) &&& 0x0F),
        (0x10 : UInt8) ||| ((UInt8.ofNat (current + oledSh1106ColumnOffset) >>> 4) &&& 0x0F)] s =
          addressed at hok hnext
      by_cases haddressed : addressed.1 = .ok
      · simp only [haddressed, ne_eq, not_true_eq_false, ↓reduceIte] at hok hnext
        generalize hdata : sendData ports (pageSlice pageData current
          (min oledDataChunkBytes (endColumn - current))) addressed.2 = sent at hok hnext
        by_cases hsent : sent.1 = .ok
        · simp only [hsent, not_true_eq_false, ↓reduceIte] at hok hnext
          have hwidth : oledWidth = 72 := rfl
          have hpages : oledPageCount = 5 := rfl
          have hoffset : oledSh1106ColumnOffset = 2 := rfl
          have hchunk : 0 < min oledDataChunkBytes (endColumn - current) :=
            Nat.lt_min.mpr ⟨by decide, by omega⟩
          have hinside : min oledDataChunkBytes (endColumn - current) ≤ endColumn - current :=
            Nat.min_le_right _ _
          generalize min oledDataChunkBytes (endColumn - current) = chunk
            at hok hnext hdata hchunk hinside
          obtain ⟨middle, hmiddle, hwritten⟩ := ih _ _ (by omega) hok hnext
          rw [← hdata] at hsent hmiddle
          obtain ⟨start, hstart, rfl⟩ := sendData_possible ports hsent hmiddle
          rw [← hcommands] at haddressed hstart
          have hshort : 3 ≤ oledDataChunkBytes := by decide
          obtain ⟨panel, hpanel, haddress⟩ := sendCommands_possible ports haddressed hstart hshort
          refine ⟨panel, hpanel, ⟨fun _ h => ?_, fun q column => ?_⟩⟩
          · cases h
          rw [hwritten.shown, haddress]
          rw [OledPanel.sh1106_address panel (by omega) (by omega)]
          have hfits (panel : OledPanel) : OledPanel.Fits .sh1106 panel chunk := by
            intro h
            cases h
          rw [slice_shown rfl rfl (hfits _)]
          by_cases hline : q = page
          · by_cases hlater : current + chunk ≤ column ∧ column < endColumn
            · rw [if_pos ⟨hline, hlater⟩, if_pos (by omega)]
            · rw [if_neg (fun h => hlater h.2)]
              by_cases hfirst : current ≤ column ∧ column < current + chunk
              · rw [if_pos ⟨hline, hfirst⟩, if_pos (by omega)]
              · rw [if_neg (fun h => hfirst h.2), if_neg (by omega)]
                rfl
          · rw [if_neg (fun h => hline h.1), if_neg (fun h => hline h.1), if_neg (fun h => hline h.1)]
            rfl
        · simp only [if_pos (show _ ≠ _ from hsent)] at hok
          exact absurd hok hsent
      · simp only [if_pos (show _ ≠ _ from haddressed)] at hok
        exact absurd hok haddressed

theorem applyAddressWindow_possible {page startColumn endColumn : Nat} {pageData : Nat → UInt8}
    {s : OledState P ω} (hcontroller : s.ctx.controller = controller)
    (hok : (applyAddressWindow ports page startColumn endColumn pageData s).1 = .ok)
    (hnext : Possible controller
      (applyAddressWindow ports page startColumn endColumn pageData s).2.world.history next) :
    ∃ panel, Possible controller s.world.history panel ∧
      (OledPanel.Addressed controller panel →
        Written controller page startColumn endColumn pageData panel next) := by
  unfold applyAddressWindow at hok hnext
  by_cases hbad : oledPageCount ≤ page ∨ endColumn ≤ startColumn ∨ oledWidth < endColumn
  · rw [if_pos hbad] at hok
    cases hok
  · rw [if_neg hbad] at hok hnext
    rw [hcontroller] at hok hnext
    have hwidth : oledWidth = 72 := rfl
    have hpages : oledPageCount = 5 := rfl
    have hoffset : oledSsd1306ColumnOffset = 28 := rfl
    cases controller with
    | sh1106 =>
      obtain ⟨panel, hpanel, hwritten⟩ :=
        sh1106Window_possible ports (by omega) (by omega) _ _ _ (Nat.le_refl _) hok hnext
      exact ⟨panel, hpanel, fun _ => hwritten⟩
    | ssd1306 =>
      simp only at hok hnext
      generalize hcommands : sendCommands ports [0x21,
        UInt8.ofNat (startColumn + oledSsd1306ColumnOffset),
        UInt8.ofNat (endColumn - 1 + oledSsd1306ColumnOffset), 0x22, UInt8.ofNat page,
        UInt8.ofNat page] s = addressed at hok hnext
      by_cases haddressed : addressed.1 = .ok
      · simp only [haddressed, ne_eq, not_true_eq_false, ↓reduceIte] at hok hnext
        obtain ⟨start, hstart, rfl⟩ := sendData_possible ports hok hnext
        rw [← hcommands] at haddressed hstart
        have hshort : 6 ≤ oledDataChunkBytes := by decide
        obtain ⟨panel, hpanel, hwindow⟩ := sendCommands_possible ports haddressed hstart hshort
        rw [OledPanel.ssd1306_window] at hwindow
        refine ⟨panel, hpanel, fun hmode => ?_⟩
        rw [hwindow]
        have hfirst : (UInt8.ofNat (startColumn + oledSsd1306ColumnOffset)).toNat =
            startColumn + oledSsd1306ColumnOffset := by
          rw [UInt8.toNat_ofNat']
          omega
        have hlast : (UInt8.ofNat (endColumn - 1 + oledSsd1306ColumnOffset)).toNat =
            endColumn - 1 + oledSsd1306ColumnOffset := by
          rw [UInt8.toNat_ofNat']
          omega
        have hline : (UInt8.ofNat page).toNat = page := by
          rw [UInt8.toNat_ofNat']
          omega
        rw [hfirst, hlast, hline]
        have hfits : OledPanel.Fits .ssd1306
            { panel with
              columnStart := startColumn + oledSsd1306ColumnOffset
              columnEnd := endColumn - 1 + oledSsd1306ColumnOffset
              column := startColumn + oledSsd1306ColumnOffset
              pageStart := page, pageEnd := page, page := page } (endColumn - startColumn) := by
          intro _
          simp only
          omega
        refine ⟨fun _ hssd => ?_, fun q column => ?_⟩
        · rw [(OledPanel.data_spec .ssd1306 _ _ (by rw [pageSlice_length]; exact hfits)).2]
          exact hmode hssd
        · rw [slice_shown rfl rfl hfits, show startColumn + (endColumn - startColumn) = endColumn by omega]
          rfl
      · simp only [if_pos (show _ ≠ _ from haddressed)] at hok
        exact absurd hok haddressed

/-- What the page loops leave on the panel: the frame in the area, and the rest as it was. -/
structure Redrawn (controller : OledController) (area : Nat → Nat → Prop) (frame : Framebuffer)
    (panel next : OledPanel) : Prop where
  addressed : OledPanel.Addressed controller next
  changed : ∀ q column, area q column → OledPanel.shown controller next q column = frame q column
  kept : ∀ q column, ¬area q column →
    OledPanel.shown controller next q column = OledPanel.shown controller panel q column

theorem Redrawn.cons {page startColumn endColumn : Nat} {rest area : Nat → Nat → Prop}
    {frame : Framebuffer} {panel middle next : OledPanel}
    (hfirst : Written controller page startColumn endColumn (frame page) panel middle)
    (hrest : Redrawn controller rest frame middle next)
    (harea : ∀ q column, area q column ↔
      (q = page ∧ startColumn ≤ column ∧ column < endColumn) ∨ rest q column) :
    Redrawn controller area frame panel next where
  addressed := hrest.addressed
  changed := by
    intro q column hmem
    by_cases hlater : rest q column
    · exact hrest.changed q column hlater
    · rcases (harea q column).mp hmem with hcell | hlater'
      · rw [hrest.kept q column hlater, hfirst.shown, if_pos hcell, hcell.1]
      · exact absurd hlater' hlater
  kept := by
    intro q column hout
    have hneither := fun h => hout ((harea q column).mpr h)
    rw [hrest.kept q column fun h => hneither (.inr h), hfirst.shown,
      if_neg fun h => hneither (.inl h)]

variable (controller) in
def AllAddressed (s : OledState P ω) : Prop :=
  ∀ panel, Possible controller s.world.history panel → OledPanel.Addressed controller panel

theorem Transfers.controller_eq {s s' : OledState P ω} (h : Transfers s s') :
    s'.ctx.controller = s.ctx.controller := by
  obtain ⟨_, _, _, hctx⟩ := h
  rw [hctx]

theorem Transfers.framebuffer {s s' : OledState P ω} (h : Transfers s s') :
    s'.ctx.framebuffer = s.ctx.framebuffer := by
  obtain ⟨_, _, _, hctx⟩ := h
  rw [hctx]

theorem Transfers.staging {s s' : OledState P ω} (h : Transfers s s') :
    s'.ctx.stagingFramebuffer = s.ctx.stagingFramebuffer := by
  obtain ⟨_, _, _, hctx⟩ := h
  rw [hctx]

theorem Transfers.dirty {s s' : OledState P ω} (h : Transfers s s') :
    Dirty s'.ctx = Dirty s.ctx ∧ s'.ctx.dirtyColumnEnd = s.ctx.dirtyColumnEnd := by
  obtain ⟨_, _, _, hctx⟩ := h
  rw [hctx]
  exact ⟨rfl, rfl⟩

theorem syncPages_possible (pages : List Nat) :
    ∀ s : OledState P ω, s.ctx.controller = controller → AllAddressed controller s →
      (syncPages ports pages s).1 = .ok →
      Possible controller (syncPages ports pages s).2.world.history next →
      ∃ panel, Possible controller s.world.history panel ∧
        Redrawn controller (fun q column => q ∈ pages ∧ column < oledWidth) s.ctx.framebuffer panel
          next := by
  induction pages with
  | nil =>
    intro s _ haddressed _ hnext
    exact ⟨next, hnext, haddressed next hnext, fun _ _ h => absurd h.1 List.not_mem_nil,
      fun _ _ _ => rfl⟩
  | cons page pages ih =>
    intro s hcontroller haddressed hok hnext
    have htransfers := applyAddressWindow_transfers ports page 0 oledWidth (s.ctx.framebuffer page) s
    unfold syncPages at hok hnext
    simp only at hok hnext
    by_cases hpage : (applyAddressWindow ports page 0 oledWidth (s.ctx.framebuffer page) s).1 = .ok
    · rw [if_neg (fun h => h hpage)] at hok hnext
      have hwindow {middle : OledPanel} (hmiddle : Possible controller
          (applyAddressWindow ports page 0 oledWidth (s.ctx.framebuffer page) s).2.world.history
          middle) := applyAddressWindow_possible ports hcontroller hpage hmiddle
      have haddressed' : AllAddressed controller
          (applyAddressWindow ports page 0 oledWidth (s.ctx.framebuffer page) s).2 := by
        intro middle hmiddle
        obtain ⟨panel, hpanel, hwritten⟩ := hwindow hmiddle
        exact (hwritten (haddressed panel hpanel)).addressed (haddressed panel hpanel)
      obtain ⟨middle, hmiddle, hrest⟩ :=
        ih _ (htransfers.controller_eq.trans hcontroller) haddressed' hok hnext
      obtain ⟨panel, hpanel, hwritten⟩ := hwindow hmiddle
      rw [htransfers.framebuffer] at hrest
      refine ⟨panel, hpanel, .cons (hwritten (haddressed panel hpanel)) hrest fun q column => ?_⟩
      rw [List.mem_cons, or_and_right]
      simp
    · rw [if_pos (show _ ≠ _ from hpage)] at hok
      exact absurd hok hpage

theorem flushPages_possible (pages : List Nat) :
    ∀ s : OledState P ω, s.ctx.controller = controller → AllAddressed controller s →
      (∀ page, s.ctx.dirtyColumnEnd page ≤ oledWidth) → (flushPages ports pages s).1 = .ok →
      Possible controller (flushPages ports pages s).2.world.history next →
      ∃ panel, Possible controller s.world.history panel ∧
        Redrawn controller (fun q column => q ∈ pages ∧ Dirty s.ctx q column)
          s.ctx.stagingFramebuffer panel next := by
  induction pages with
  | nil =>
    intro s _ haddressed _ _ hnext
    exact ⟨next, hnext, haddressed next hnext, fun _ _ h => absurd h.1 List.not_mem_nil,
      fun _ _ _ => rfl⟩
  | cons page pages ih =>
    intro s hcontroller haddressed hbounded hok hnext
    have htransfers := applyAddressWindow_transfers ports page (s.ctx.dirtyColumnStart page)
      (s.ctx.dirtyColumnEnd page) (s.ctx.stagingFramebuffer page) s
    unfold flushPages at hok hnext
    simp only at hok hnext
    by_cases hskip : s.ctx.dirtyPageMask.testBit page = false ∨
        s.ctx.dirtyColumnEnd page ≤ s.ctx.dirtyColumnStart page ∨
        oledWidth < s.ctx.dirtyColumnEnd page
    · -- Nothing of the page is dirty.
      rw [if_pos hskip] at hok hnext
      obtain ⟨panel, hpanel, hrest⟩ := ih s hcontroller haddressed hbounded hok hnext
      have hclean (column : Nat) : ¬Dirty s.ctx page column := by
        rintro ⟨hbit, hfrom, hto⟩
        have hend := hbounded page
        rcases hskip with hbit' | hempty | hwide
        · rw [hbit] at hbit'
          cases hbit'
        · omega
        · omega
      refine ⟨panel, hpanel, hrest.addressed, ?_, ?_⟩
      · rintro q column ⟨hmem, hdirty⟩
        rcases List.mem_cons.mp hmem with rfl | hlater
        · exact absurd hdirty (hclean column)
        · exact hrest.changed q column ⟨hlater, hdirty⟩
      · intro q column hout
        exact hrest.kept q column fun h => hout ⟨List.mem_cons_of_mem page h.1, h.2⟩
    · rw [if_neg hskip] at hok hnext
      by_cases hpage : (applyAddressWindow ports page (s.ctx.dirtyColumnStart page)
          (s.ctx.dirtyColumnEnd page) (s.ctx.stagingFramebuffer page) s).1 = .ok
      · rw [if_neg (fun h => h hpage)] at hok hnext
        have hwindow {middle : OledPanel} (hmiddle : Possible controller
            (applyAddressWindow ports page (s.ctx.dirtyColumnStart page)
              (s.ctx.dirtyColumnEnd page) (s.ctx.stagingFramebuffer page) s).2.world.history
            middle) := applyAddressWindow_possible ports hcontroller hpage hmiddle
        have haddressed' : AllAddressed controller
            (applyAddressWindow ports page (s.ctx.dirtyColumnStart page)
              (s.ctx.dirtyColumnEnd page) (s.ctx.stagingFramebuffer page) s).2 := by
          intro middle hmiddle
          obtain ⟨panel, hpanel, hwritten⟩ := hwindow hmiddle
          exact (hwritten (haddressed panel hpanel)).addressed (haddressed panel hpanel)
        obtain ⟨middle, hmiddle, hrest⟩ :=
          ih _ (htransfers.controller_eq.trans hcontroller) haddressed'
            (by rw [htransfers.dirty.2]; exact hbounded) hok hnext
        obtain ⟨panel, hpanel, hwritten⟩ := hwindow hmiddle
        rw [htransfers.staging, htransfers.dirty.1] at hrest
        refine ⟨panel, hpanel, .cons (hwritten (haddressed panel hpanel)) hrest fun q column => ?_⟩
        have hdirty : Dirty s.ctx page column ↔
            s.ctx.dirtyColumnStart page ≤ column ∧ column < s.ctx.dirtyColumnEnd page := by
          have hbit : s.ctx.dirtyPageMask.testBit page = true := by
            rw [not_or, Bool.not_eq_false] at hskip
            exact hskip.1
          exact ⟨fun h => h.2, fun h => ⟨hbit, h⟩⟩
        rw [List.mem_cons, or_and_right]
        constructor
        · rintro (⟨rfl, h⟩ | h)
          · exact .inl ⟨rfl, hdirty.mp h⟩
          · exact .inr h
        · rintro (⟨rfl, h⟩ | h)
          · exact .inl ⟨rfl, hdirty.mpr h⟩
          · exact .inr h
      · rw [if_pos (show _ ≠ _ from hpage)] at hok
        exact absurd hok hpage

end Transfers

end OledActor

end EventFramework
