import EventFramework.Actors.OledActor

/-!
# The OLED panel

The memory of an SSD1306 or SH1106 panel and the part of its commands that addresses it. A stream
starts with a control byte; the bytes behind it are commands or data.
-/

namespace EventFramework
set_option autoImplicit false

variable {P ω : Type}

/-- The display memory by page and column, and where the next data byte goes. -/
structure OledPanel where
  ram : Nat → Nat → UInt8
  horizontal : Bool
  page : Nat
  column : Nat
  pageStart : Nat
  pageEnd : Nat
  columnStart : Nat
  columnEnd : Nat

namespace OledPanel

def arguments : OledController → UInt8 → Nat
  | .ssd1306, command =>
    if command = 0x21 ∨ command = 0x22 then 2
    else if command ∈ [0x20, 0x81, 0x8D, 0xA8, 0xAD, 0xD3, 0xD5, 0xD9, 0xDA, 0xDB] then 1
    else 0
  | .sh1106, command => if command ∈ [0x81, 0xA8, 0xAD, 0xD3, 0xD5, 0xD9, 0xDA, 0xDB] then 1 else 0

def execute : OledController → List UInt8 → OledPanel → OledPanel
  | .ssd1306, [command, mode], panel =>
    if command = 0x20 then { panel with horizontal := mode = 0 } else panel
  | .ssd1306, [command, first, last], panel =>
    if command = 0x21 then
      { panel with columnStart := first.toNat, columnEnd := last.toNat, column := first.toNat }
    else { panel with pageStart := first.toNat, pageEnd := last.toNat, page := first.toNat }
  | .sh1106, [command], panel =>
    if command &&& 0xF8 = 0xB0 then { panel with page := (command &&& 0x07).toNat }
    else if command &&& 0xF0 = 0x00 then
      { panel with column := panel.column / 16 * 16 + (command &&& 0x0F).toNat }
    else if command &&& 0xF0 = 0x10 then
      { panel with column := (command &&& 0x0F).toNat * 16 + panel.column % 16 }
    else panel
  | _, _, panel => panel

/-- One byte of a command stream, behind the bytes of a command that is not complete. -/
def acceptByte (controller : OledController) (received : List UInt8 × OledPanel) (byte : UInt8) :
    List UInt8 × OledPanel :=
  let bytes := received.1 ++ [byte]
  if bytes.length ≤ arguments controller (bytes.headD 0) then (bytes, received.2)
  else ([], execute controller bytes received.2)

def store (panel : OledPanel) (byte : UInt8) : OledPanel :=
  let line := Function.update (panel.ram panel.page) panel.column byte
  { panel with ram := Function.update panel.ram panel.page line }

/-- The address of the next data byte. The horizontal mode goes on in the next page of the
window. -/
def advance (controller : OledController) (panel : OledPanel) : OledPanel :=
  if controller = .ssd1306 ∧ panel.horizontal ∧ panel.column = panel.columnEnd then
    { panel with
      column := panel.columnStart
      page := if panel.page = panel.pageEnd then panel.pageStart else panel.page + 1 }
  else { panel with column := panel.column + 1 }

def writeByte (controller : OledController) (panel : OledPanel) (byte : UInt8) : OledPanel :=
  advance controller (store panel byte)

def commands (controller : OledController) (bytes : List UInt8) (panel : OledPanel) : OledPanel :=
  (bytes.foldl (acceptByte controller) ([], panel)).2

def data (controller : OledController) (bytes : List UInt8) (panel : OledPanel) : OledPanel :=
  bytes.foldl (writeByte controller) panel

def applyStream (controller : OledController) : List UInt8 → OledPanel → OledPanel
  | [], panel => panel
  | control :: bytes, panel =>
    if control = 0x00 then commands controller bytes panel
    else if control = 0x40 then data controller bytes panel
    else panel

def columnOffset : OledController → Nat
  | .ssd1306 => oledSsd1306ColumnOffset
  | .sh1106 => oledSh1106ColumnOffset

def shown (controller : OledController) (panel : OledPanel) (page column : Nat) : UInt8 :=
  panel.ram page (column + columnOffset controller)

/-- The mode in which the address windows of the actor mean what they say. -/
def Addressed (controller : OledController) (panel : OledPanel) : Prop :=
  controller = .ssd1306 → panel.horizontal = true

/-- `count` data bytes fit into the rest of the window's line. -/
def Fits (controller : OledController) (panel : OledPanel) (count : Nat) : Prop :=
  controller = .ssd1306 → panel.column + count ≤ panel.columnEnd + 1

/-- Before the end of the window's line, the next byte goes to the next column. -/
theorem writeByte_goes {controller : OledController} {panel : OledPanel} {byte : UInt8}
    (h : controller = .ssd1306 → panel.column ≠ panel.columnEnd) :
    writeByte controller panel byte = { store panel byte with column := panel.column + 1 } := by
  unfold writeByte advance
  rw [if_neg]
  · rfl
  · rintro ⟨hcontroller, -, hend⟩
    exact h hcontroller hend

theorem data_spec (controller : OledController) (bytes : List UInt8) :
    ∀ panel, Fits controller panel bytes.length →
      (∀ page column, (data controller bytes panel).ram page column =
        if page = panel.page ∧ panel.column ≤ column ∧ column < panel.column + bytes.length then
          bytes.getD (column - panel.column) 0
        else panel.ram page column) ∧
      (data controller bytes panel).horizontal = panel.horizontal := by
  induction bytes with
  | nil =>
    intro panel _
    refine ⟨fun page column => ?_, rfl⟩
    rw [if_neg]
    · rfl
    · simp only [List.length_nil, Nat.add_zero]
      omega
  | cons byte bytes ih =>
    intro panel hfits
    have hram (page column : Nat) : (writeByte controller panel byte).ram page column =
        if page = panel.page ∧ column = panel.column then byte else panel.ram page column := by
      have hstore : (writeByte controller panel byte).ram = (store panel byte).ram := by
        unfold writeByte advance
        split <;> rfl
      rw [hstore, store]
      by_cases hpage : page = panel.page
      · simp only [hpage, true_and, Function.update_self, Function.update_apply]
      · simp only [hpage, false_and, Function.update_of_ne hpage, if_false]
    have hmode : (writeByte controller panel byte).horizontal = panel.horizontal := by
      unfold writeByte advance
      split <;> rfl
    have hnext : data controller (byte :: bytes) panel =
        data controller bytes (writeByte controller panel byte) := rfl
    rw [hnext]
    cases bytes with
    | nil =>
      refine ⟨fun page column => ?_, hmode⟩
      refine (hram page column).trans ?_
      by_cases hcell : page = panel.page ∧ column = panel.column
      · rw [if_pos hcell, if_pos (by simp only [List.length_singleton]; omega), hcell.2,
          Nat.sub_self]
        rfl
      · rw [if_neg hcell, if_neg]
        simp only [List.length_singleton]
        omega
    | cons next bytes =>
      have hgoes : writeByte controller panel byte =
          { store panel byte with column := panel.column + 1 } := by
        apply writeByte_goes
        intro hcontroller
        have hroom := hfits hcontroller
        simp only [List.length_cons] at hroom
        omega
      have hpage : (writeByte controller panel byte).page = panel.page := by rw [hgoes]; rfl
      have hcolumn : (writeByte controller panel byte).column = panel.column + 1 := by rw [hgoes]
      have hend : (writeByte controller panel byte).columnEnd = panel.columnEnd := by
        rw [hgoes]
        rfl
      have hfits' : Fits controller (writeByte controller panel byte) (next :: bytes).length := by
        intro hcontroller
        have hroom := hfits hcontroller
        rw [hcolumn, hend]
        simp only [List.length_cons] at hroom ⊢
        omega
      obtain ⟨hcells, hmode'⟩ := ih _ hfits'
      refine ⟨fun page column => ?_, hmode'.trans hmode⟩
      rw [hcells page column, hpage, hcolumn, hram]
      simp only [List.length_cons]
      by_cases hpanel : page = panel.page
      · by_cases hfirst : column = panel.column
        · rw [if_neg (by omega), if_pos ⟨hpanel, hfirst⟩, if_pos (by omega), hfirst, Nat.sub_self]
          rfl
        · by_cases hlater : panel.column + 1 ≤ column ∧ column < panel.column + 1 + (bytes.length + 1)
          · rw [if_pos ⟨hpanel, hlater⟩, if_pos (by omega)]
            obtain ⟨index, hindex⟩ : ∃ index, column - panel.column = index + 1 :=
              Nat.exists_eq_succ_of_ne_zero (by omega)
            rw [hindex, List.getD_cons_succ]
            congr 1
            omega
          · rw [if_neg (fun h => hlater h.2), if_neg (fun h => hfirst h.2), if_neg (by omega)]
      · rw [if_neg (fun h => hpanel h.1), if_neg (fun h => hpanel h.1), if_neg (fun h => hpanel h.1)]

section Commands

variable {controller : OledController} {command first last : UInt8} {rest : List UInt8}
  {panel : OledPanel}

theorem commands_plain (h : arguments controller command = 0) :
    commands controller (command :: rest) panel =
      commands controller rest (execute controller [command] panel) := by
  have hbyte : acceptByte controller ([], panel) command = ([], execute controller [command] panel) := by
    simp [acceptByte, h]
  rw [commands, List.foldl_cons, hbyte]
  rfl

theorem commands_one (h : arguments controller command = 1) :
    commands controller (command :: first :: rest) panel =
      commands controller rest (execute controller [command, first] panel) := by
  have hcommand : acceptByte controller ([], panel) command = ([command], panel) := by
    simp [acceptByte, h]
  have hfirst : acceptByte controller ([command], panel) first =
      ([], execute controller [command, first] panel) := by
    simp [acceptByte, h]
  rw [commands, List.foldl_cons, hcommand, List.foldl_cons, hfirst]
  rfl

theorem commands_two (h : arguments controller command = 2) :
    commands controller (command :: first :: last :: rest) panel =
      commands controller rest (execute controller [command, first, last] panel) := by
  have hcommand : acceptByte controller ([], panel) command = ([command], panel) := by
    simp [acceptByte, h]
  have hfirst : acceptByte controller ([command], panel) first = ([command, first], panel) := by
    simp [acceptByte, h]
  have hlast : acceptByte controller ([command, first], panel) last =
      ([], execute controller [command, first, last] panel) := by
    simp [acceptByte, h]
  rw [commands, List.foldl_cons, hcommand, List.foldl_cons, hfirst, List.foldl_cons, hlast]
  rfl

end Commands

theorem ssd1306_window (panel : OledPanel) (first last page : UInt8) :
    commands .ssd1306 [0x21, first, last, 0x22, page, page] panel =
      { panel with
        columnStart := first.toNat, columnEnd := last.toNat, column := first.toNat
        pageStart := page.toNat, pageEnd := page.toNat, page := page.toNat } := by
  rw [commands_two rfl, commands_two rfl]
  rfl

theorem sh1106_page {page : Nat} (h : page < 8) :
    arguments .sh1106 ((0xB0 : UInt8) ||| UInt8.ofNat page) = 0 ∧
      ((0xB0 : UInt8) ||| UInt8.ofNat page) &&& 0xF8 = 0xB0 ∧
      (((0xB0 : UInt8) ||| UInt8.ofNat page) &&& 0x07).toNat = page := by
  revert page
  decide

theorem sh1106_low {column : Nat} (h : column < 128) :
    arguments .sh1106 ((0x00 : UInt8) ||| (UInt8.ofNat column &&& 0x0F)) = 0 ∧
      ((0x00 : UInt8) ||| (UInt8.ofNat column &&& 0x0F)) &&& 0xF8 ≠ 0xB0 ∧
      ((0x00 : UInt8) ||| (UInt8.ofNat column &&& 0x0F)) &&& 0xF0 = 0x00 ∧
      (((0x00 : UInt8) ||| (UInt8.ofNat column &&& 0x0F)) &&& 0x0F).toNat = column % 16 := by
  revert column
  decide +kernel

theorem sh1106_high {column : Nat} (h : column < 128) :
    arguments .sh1106 ((0x10 : UInt8) ||| ((UInt8.ofNat column >>> 4) &&& 0x0F)) = 0 ∧
      ((0x10 : UInt8) ||| ((UInt8.ofNat column >>> 4) &&& 0x0F)) &&& 0xF8 ≠ 0xB0 ∧
      ((0x10 : UInt8) ||| ((UInt8.ofNat column >>> 4) &&& 0x0F)) &&& 0xF0 = 0x10 ∧
      (((0x10 : UInt8) ||| ((UInt8.ofNat column >>> 4) &&& 0x0F)) &&& 0x0F).toNat = column / 16 := by
  revert column
  decide +kernel

theorem sh1106_address (panel : OledPanel) {page column : Nat} (hpage : page < 8)
    (hcolumn : column < 128) :
    commands .sh1106 [(0xB0 : UInt8) ||| UInt8.ofNat page,
        (0x00 : UInt8) ||| (UInt8.ofNat column &&& 0x0F),
        (0x10 : UInt8) ||| ((UInt8.ofNat column >>> 4) &&& 0x0F)] panel =
      { panel with page := page, column := column } := by
  obtain ⟨hplain, hselect, hvalue⟩ := sh1106_page hpage
  obtain ⟨hplain', hnone', hselect', hvalue'⟩ := sh1106_low hcolumn
  obtain ⟨hplain'', hnone'', hselect'', hvalue''⟩ := sh1106_high hcolumn
  rw [commands_plain hplain, commands_plain hplain', commands_plain hplain'']
  simp only [execute, if_pos hselect, if_neg hnone', if_pos hselect', if_neg hnone'', hselect'',
    hvalue, hvalue', hvalue'']
  rw [if_neg (by decide), if_true]
  simp only [commands, List.foldl_nil, OledPanel.mk.injEq, true_and, and_true]
  omega

theorem init_addressed (controller : OledController) (panel : OledPanel) :
    Addressed controller (commands controller (OledActor.initSequence controller) panel) := by
  intro hcontroller
  rw [hcontroller]
  unfold OledActor.initSequence oledSsd1306Init
  repeat first | rw [commands_plain rfl] | rw [commands_one rfl]
  rfl

end OledPanel

end EventFramework
