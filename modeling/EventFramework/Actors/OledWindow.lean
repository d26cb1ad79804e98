import EventFramework.Actors.OledRedraw

/-!
# The streams of an address window

What the bytes of an address window write on the panel, in order, and what remains of them when a
transfer fails.
-/

namespace EventFramework
set_option autoImplicit false

variable {P ω : Type}

namespace OledPanel

variable {controller : OledController}

abbrev Write := Nat × Nat × UInt8

def Write.apply (ram : Nat → Nat → UInt8) (write : Write) : Nat → Nat → UInt8 :=
  Function.update ram write.1 (Function.update (ram write.1) write.2.1 write.2.2)

def dataWrites (controller : OledController) : List UInt8 → OledPanel → List Write
  | [], _ => []
  | byte :: bytes, panel =>
    (panel.page, panel.column, byte) :: dataWrites controller bytes (writeByte controller panel byte)

def streamWrites (controller : OledController) : List UInt8 → OledPanel → List Write
  | [], _ => []
  | control :: bytes, panel => if control = 0x40 then dataWrites controller bytes panel else []

def applyStreams (controller : OledController) (streams : List (List UInt8)) (panel : OledPanel) :
    OledPanel :=
  streams.foldl (fun panel stream => applyStream controller stream panel) panel

def decode (controller : OledController) : List (List UInt8) → OledPanel → List Write
  | [], _ => []
  | stream :: streams, panel =>
    streamWrites controller stream panel ++
      decode controller streams (applyStream controller stream panel)

theorem decode_append (earlier later : List (List UInt8)) : ∀ panel,
    decode controller (earlier ++ later) panel =
      decode controller earlier panel ++
        decode controller later (applyStreams controller earlier panel) := by
  induction earlier with
  | nil => exact fun _ => rfl
  | cons stream earlier ih =>
    intro panel
    rw [List.cons_append, decode, ih, decode, List.append_assoc]
    rfl

theorem dataWrites_append (earlier later : List UInt8) : ∀ panel,
    dataWrites controller (earlier ++ later) panel =
      dataWrites controller earlier panel ++
        dataWrites controller later (data controller earlier panel) := by
  induction earlier with
  | nil => exact fun _ => rfl
  | cons byte earlier ih =>
    intro panel
    rw [List.cons_append, dataWrites, ih, dataWrites, List.cons_append]
    rfl

theorem applyStreams_append (earlier later : List (List UInt8)) (panel : OledPanel) :
    applyStreams controller (earlier ++ later) panel =
      applyStreams controller later (applyStreams controller earlier panel) := by
  rw [applyStreams, applyStreams, applyStreams, List.foldl_append]

theorem applyStreams_commands (bytes : List UInt8) (panel : OledPanel) :
    applyStreams controller [0x00 :: bytes] panel = commands controller bytes panel := rfl

theorem execute_ram (bytes : List UInt8) (panel : OledPanel) :
    (execute controller bytes panel).ram = panel.ram := by
  unfold execute
  split
  · split <;> rfl
  · split <;> rfl
  · split
    · rfl
    · split
      · rfl
      · split <;> rfl
  · rfl

theorem commands_ram (bytes : List UInt8) (panel : OledPanel) :
    (commands controller bytes panel).ram = panel.ram := by
  have hkept (received : List UInt8 × OledPanel) :
      (bytes.foldl (acceptByte controller) received).2.ram = received.2.ram := by
    induction bytes generalizing received with
    | nil => rfl
    | cons byte bytes ih =>
      rw [List.foldl_cons, ih]
      unfold acceptByte
      simp only
      split
      · rfl
      · exact execute_ram _ _
  exact hkept ([], panel)

theorem data_ram (bytes : List UInt8) : ∀ panel,
    (data controller bytes panel).ram = (dataWrites controller bytes panel).foldl Write.apply panel.ram := by
  induction bytes with
  | nil => exact fun _ => rfl
  | cons byte bytes ih =>
    intro panel
    have hstore : (writeByte controller panel byte).ram = (store panel byte).ram := by
      unfold writeByte advance
      split <;> rfl
    refine (ih (writeByte controller panel byte)).trans ?_
    rw [hstore, dataWrites, List.foldl_cons]
    rfl

theorem data_horizontal (bytes : List UInt8) : ∀ panel,
    (data controller bytes panel).horizontal = panel.horizontal := by
  induction bytes with
  | nil => exact fun _ => rfl
  | cons byte bytes ih =>
    intro panel
    have hmode : (writeByte controller panel byte).horizontal = panel.horizontal := by
      unfold writeByte advance
      split <;> rfl
    exact (ih (writeByte controller panel byte)).trans hmode

theorem applyStreams_ram (streams : List (List UInt8)) : ∀ panel,
    (applyStreams controller streams panel).ram =
      (decode controller streams panel).foldl Write.apply panel.ram := by
  induction streams with
  | nil => exact fun _ => rfl
  | cons stream streams ih =>
    intro panel
    have hstream : (applyStream controller stream panel).ram =
        (streamWrites controller stream panel).foldl Write.apply panel.ram := by
      cases stream with
      | nil => rfl
      | cons control bytes =>
        rw [applyStream, streamWrites]
        by_cases hcommands : control = 0x00
        · rw [if_pos hcommands, hcommands, if_neg (by decide)]
          exact commands_ram bytes panel
        · rw [if_neg hcommands]
          split
          · exact data_ram bytes panel
          · rfl
    refine (ih (applyStream controller stream panel)).trans ?_
    rw [decode, List.foldl_append, hstream]

/-- Data bytes that fit go to consecutive columns of the addressed page. -/
theorem dataWrites_slice (pageData : Nat → UInt8) (offset count : Nat) : ∀ (start : Nat) (panel : OledPanel),
    panel.column = start + offset → Fits controller panel count →
    dataWrites controller (OledActor.pageSlice pageData start count) panel =
      (List.range' start count).map fun column => (panel.page, column + offset, pageData column) := by
  unfold OledActor.pageSlice
  induction count with
  | zero => exact fun _ _ _ _ => rfl
  | succ count ih =>
    intro start panel hcolumn hfits
    rw [List.range'_succ, List.map_cons, List.map_cons, dataWrites, hcolumn]
    refine congrArg _ ?_
    cases count with
    | zero => rfl
    | succ count =>
      have hgoes : writeByte controller panel (pageData start) =
          { store panel (pageData start) with column := panel.column + 1 } := by
        apply writeByte_goes
        intro hcontroller
        have hroom := hfits hcontroller
        omega
      refine (ih (start + 1) _ ?_ ?_).trans ?_
      · rw [hgoes]
        simp only
        omega
      · intro hcontroller
        have hroom := hfits hcontroller
        rw [hgoes]
        simp only [store]
        omega
      · rw [hgoes]
        rfl

end OledPanel

namespace OledActor

section Streams

/-- The streams that `bytes` are cut into. -/
def chunkStreams (control : UInt8) : Nat → List UInt8 → List (List UInt8)
  | 0, _ => []
  | fuel + 1, bytes =>
    if bytes = [] then []
    else (control :: bytes.take oledDataChunkBytes) ::
      chunkStreams control fuel (bytes.drop oledDataChunkBytes)

def commandStreams (commands : List UInt8) : List (List UInt8) :=
  chunkStreams 0x00 commands.length commands

def dataStreams (data : List UInt8) : List (List UInt8) := chunkStreams 0x40 data.length data

/-- The streams of an SH1106 window from a column on. -/
def sh1106Streams (page endColumn : Nat) (pageData : Nat → UInt8) : Nat → Nat → List (List UInt8)
  | 0, _ => []
  | fuel + 1, current =>
    if endColumn ≤ current then []
    else
      let physicalColumn := UInt8.ofNat (current + oledSh1106ColumnOffset)
      let chunk := min oledDataChunkBytes (endColumn - current)
      commandStreams [(0xB0 : UInt8) ||| UInt8.ofNat page,
          (0x00 : UInt8) ||| (physicalColumn &&& 0x0F),
          (0x10 : UInt8) ||| ((physicalColumn >>> 4) &&& 0x0F)] ++
        (dataStreams (pageSlice pageData current chunk) ++
          sh1106Streams page endColumn pageData fuel (current + chunk))

/-- The streams of an address window when every transfer succeeds. -/
def windowStreams (controller : OledController) (page startColumn endColumn : Nat)
    (pageData : Nat → UInt8) : List (List UInt8) :=
  match controller with
  | .sh1106 => sh1106Streams page endColumn pageData (endColumn - startColumn) startColumn
  | .ssd1306 =>
    commandStreams [0x21, UInt8.ofNat (startColumn + oledSsd1306ColumnOffset),
        UInt8.ofNat (endColumn - 1 + oledSsd1306ColumnOffset), 0x22, UInt8.ofNat page,
        UInt8.ofNat page] ++
      dataStreams (pageSlice pageData startColumn (endColumn - startColumn))

/-- A run that makes the transfers `calls` and nothing else: `streams` in order up to the first
failure. -/
structure Delivers (streams : List (List UInt8)) (calls : List (List UInt8 × I2cStatus))
    (s : OledState P ω) (out : Result × OledState P ω) : Prop where
  history : out.2.world.history =
    s.world.history ++ calls.map fun call => .called (.writeStream call.1 call.2)
  sent : calls.map Prod.fst <+: streams
  ok_iff : out.1 = .ok ↔ ∀ call ∈ calls, call.2 = .ok
  complete : out.1 = .ok → calls.map Prod.fst = streams
  stops : ∀ call ∈ calls.dropLast, call.2 = .ok

theorem Delivers.nothing (s : OledState P ω) : Delivers [] [] s (.ok, s) where
  history := (List.append_nil _).symm
  sent := List.prefix_refl _
  ok_iff := ⟨fun _ _ h => absurd h List.not_mem_nil, fun _ => rfl⟩
  complete _ := rfl
  stops _ h := absurd h List.not_mem_nil

variable {earlier later : List (List UInt8)} {calls : List (List UInt8 × I2cStatus)}
  {s : OledState P ω} {mid : Result × OledState P ω}

theorem Delivers.failed (h : Delivers earlier calls s mid) (hbad : mid.1 ≠ .ok) :
    Delivers (earlier ++ later) calls s mid where
  history := h.history
  sent := h.sent.trans (List.prefix_append earlier later)
  ok_iff := h.ok_iff
  complete hok := absurd hok hbad
  stops := h.stops

theorem Delivers.append {calls' : List (List UInt8 × I2cStatus)} {out : Result × OledState P ω}
    (h : Delivers earlier calls s mid) (hok : mid.1 = .ok) (h' : Delivers later calls' mid.2 out) :
    Delivers (earlier ++ later) (calls ++ calls') s out where
  history := by rw [h'.history, h.history, List.map_append, List.append_assoc]
  sent := by
    rw [List.map_append, h.complete hok]
    exact (List.prefix_append_right_inj earlier).mpr h'.sent
  ok_iff := by
    rw [h'.ok_iff]
    constructor
    · intro hlater call hcall
      rcases List.mem_append.mp hcall with hearlier | hcall
      · exact h.ok_iff.mp hok call hearlier
      · exact hlater call hcall
    · exact fun hall call hcall => hall call (List.mem_append_right calls hcall)
  complete hout := by rw [List.map_append, h.complete hok, h'.complete hout]
  stops call hcall := by
    by_cases hnone : calls' = []
    · rw [hnone, List.append_nil] at hcall
      exact h.stops call hcall
    · rw [List.dropLast_append_of_ne_nil hnone] at hcall
      rcases List.mem_append.mp hcall with hearlier | hlater
      · exact h.ok_iff.mp hok call hearlier
      · exact h'.stops call hlater

theorem Delivers.andThen {out : Result × OledState P ω} (h : Delivers earlier calls s mid)
    (hnext : ∃ calls', Delivers later calls' mid.2 out) :
    ∃ calls', Delivers (earlier ++ later) calls' s (if mid.1 ≠ .ok then mid else out) := by
  by_cases hok : mid.1 = .ok
  · rw [if_neg (fun h => h hok)]
    obtain ⟨calls', hlater⟩ := hnext
    exact ⟨calls ++ calls', h.append hok hlater⟩
  · rw [if_pos hok]
    exact ⟨calls, h.failed hok⟩

variable (ports : OledPorts P ω)

theorem writeStream_delivers (stream : List UInt8) (s : OledState P ω) :
    Delivers [stream] [(stream, (writeStream ports stream s).1)] s
      (if (writeStream ports stream s).1 = .ok then .ok else .errState, (writeStream ports stream s).2) where
  history := rfl
  sent := List.prefix_refl _
  ok_iff := by
    rw [List.forall_mem_singleton]
    split
    · rename_i hok
      exact ⟨fun _ => hok, fun _ => rfl⟩
    · rename_i hbad
      exact ⟨fun h => Result.noConfusion h, fun h => absurd h hbad⟩
  complete _ := rfl
  stops _ h := absurd h List.not_mem_nil

theorem sendChunks_delivers (control : UInt8) (fuel : Nat) : ∀ (bytes : List UInt8) (s : OledState P ω),
    ∃ calls, Delivers (chunkStreams control fuel bytes) calls s (sendChunks ports control fuel bytes s) := by
  induction fuel with
  | zero => exact fun _ s => ⟨[], .nothing s⟩
  | succ fuel ih =>
    intro bytes s
    unfold chunkStreams sendChunks
    split
    · exact ⟨[], .nothing s⟩
    · obtain ⟨calls, hdelivers⟩ :=
        (writeStream_delivers ports (control :: bytes.take oledDataChunkBytes) s).andThen
          (ih (bytes.drop oledDataChunkBytes) _)
      refine ⟨calls, ?_⟩
      simp only
      by_cases hok : (writeStream ports (control :: bytes.take oledDataChunkBytes) s).1 = .ok
      · simp only [hok, if_true, ne_eq, not_true_eq_false, if_false] at hdelivers ⊢
        exact hdelivers
      · have hfailed : Result.errState ≠ .ok := by decide
        rw [if_neg hok, if_pos hfailed] at hdelivers
        rw [if_pos hok]
        exact hdelivers

theorem sendCommands_delivers (commands : List UInt8) (s : OledState P ω) :
    ∃ calls, Delivers (commandStreams commands) calls s (sendCommands ports commands s) :=
  sendChunks_delivers ports 0x00 _ commands s

theorem sendData_delivers (data : List UInt8) (s : OledState P ω) :
    ∃ calls, Delivers (dataStreams data) calls s (sendData ports data s) :=
  sendChunks_delivers ports 0x40 _ data s

theorem sh1106Window_delivers (page endColumn : Nat) (pageData : Nat → UInt8) (fuel : Nat) :
    ∀ (current : Nat) (s : OledState P ω), ∃ calls,
      Delivers (sh1106Streams page endColumn pageData fuel current) calls s
        (applySh1106Window ports page endColumn pageData fuel current s) := by
  induction fuel with
  | zero => exact fun _ s => ⟨[], .nothing s⟩
  | succ fuel ih =>
    intro current s
    unfold sh1106Streams applySh1106Window
    split
    · exact ⟨[], .nothing s⟩
    · obtain ⟨_, hcommands⟩ := sendCommands_delivers ports _ s
      apply hcommands.andThen
      obtain ⟨_, hdata⟩ := sendData_delivers ports _ _
      apply hdata.andThen
      exact ih _ _

theorem applyAddressWindow_delivers {page startColumn endColumn : Nat} (pageData : Nat → UInt8)
    (s : OledState P ω) (hpage : page < oledPageCount) (hstart : startColumn < endColumn)
    (hend : endColumn ≤ oledWidth) : ∃ calls,
      Delivers (windowStreams s.ctx.controller page startColumn endColumn pageData) calls s
        (applyAddressWindow ports page startColumn endColumn pageData s) := by
  unfold windowStreams applyAddressWindow
  rw [if_neg (by omega)]
  cases s.ctx.controller with
  | sh1106 => exact sh1106Window_delivers ports page endColumn pageData _ _ s
  | ssd1306 =>
    obtain ⟨_, hcommands⟩ := sendCommands_delivers ports _ s
    apply hcommands.andThen
    exact sendData_delivers ports _ _

end Streams

section Windows

variable {controller : OledController}

/-- A control byte and at least one byte behind it, not more than a chunk. -/
def Framed (stream : List UInt8) : Prop :=
  ∃ control bytes, stream = control :: bytes ∧ (control = 0x00 ∨ control = 0x40) ∧
    0 < bytes.length ∧ bytes.length ≤ oledDataChunkBytes

theorem chunkStreams_framed {control : UInt8} (hcontrol : control = 0x00 ∨ control = 0x40)
    (fuel : Nat) : ∀ bytes, ∀ stream ∈ chunkStreams control fuel bytes, Framed stream := by
  induction fuel with
  | zero => exact fun _ _ h => absurd h List.not_mem_nil
  | succ fuel ih =>
    intro bytes stream hstream
    unfold chunkStreams at hstream
    split at hstream
    · exact absurd hstream List.not_mem_nil
    · rename_i hsome
      rcases List.mem_cons.mp hstream with rfl | hlater
      · have hpositive := List.length_pos_iff.mpr hsome
        have hchunk : oledDataChunkBytes = 32 := rfl
        refine ⟨control, _, rfl, hcontrol, ?_, List.length_take_le _ _⟩
        rw [List.length_take]
        omega
      · exact ih _ stream hlater

theorem sh1106Streams_framed (page endColumn : Nat) (pageData : Nat → UInt8) (fuel : Nat) :
    ∀ current, ∀ stream ∈ sh1106Streams page endColumn pageData fuel current, Framed stream := by
  induction fuel with
  | zero => exact fun _ _ h => absurd h List.not_mem_nil
  | succ fuel ih =>
    intro current stream hstream
    unfold sh1106Streams at hstream
    split at hstream
    · exact absurd hstream List.not_mem_nil
    · rcases List.mem_append.mp hstream with hcommand | hstream
      · exact chunkStreams_framed (.inl rfl) _ _ stream hcommand
      · rcases List.mem_append.mp hstream with hdata | hlater
        · exact chunkStreams_framed (.inr rfl) _ _ stream hdata
        · exact ih _ stream hlater

theorem windowStreams_framed (page startColumn endColumn : Nat) (pageData : Nat → UInt8) :
    ∀ stream ∈ windowStreams controller page startColumn endColumn pageData, Framed stream := by
  intro stream hstream
  cases controller with
  | sh1106 => exact sh1106Streams_framed page endColumn pageData _ _ stream hstream
  | ssd1306 =>
    rcases List.mem_append.mp hstream with hcommand | hdata
    · exact chunkStreams_framed (.inl rfl) _ _ stream hcommand
    · exact chunkStreams_framed (.inr rfl) _ _ stream hdata

theorem commandStreams_eq {command : UInt8} {commands : List UInt8}
    (hfits : (command :: commands).length ≤ oledDataChunkBytes) :
    commandStreams (command :: commands) = [0x00 :: command :: commands] := by
  have hdone : chunkStreams 0x00 commands.length [] = [] := by cases commands.length <;> rfl
  rw [commandStreams, List.length_cons, chunkStreams, if_neg (List.cons_ne_nil _ _),
    List.take_of_length_le hfits, List.drop_eq_nil_of_le hfits, hdone]

/-- Commands that fit into one chunk write nothing and act as one stream. -/
theorem commandStreams_decode {command : UInt8} {commands : List UInt8}
    (hfits : (command :: commands).length ≤ oledDataChunkBytes) (later : List (List UInt8))
    (panel : OledPanel) :
    OledPanel.decode controller (commandStreams (command :: commands) ++ later) panel =
      OledPanel.decode controller later
        (OledPanel.commands controller (command :: commands) panel) := by
  rw [commandStreams_eq hfits]
  rfl

theorem chunkStreams_decode (fuel : Nat) : ∀ (bytes : List UInt8) (panel : OledPanel),
    bytes.length ≤ fuel →
    OledPanel.decode controller (chunkStreams 0x40 fuel bytes) panel =
      OledPanel.dataWrites controller bytes panel := by
  induction fuel with
  | zero =>
    intro bytes panel hfuel
    rw [List.length_eq_zero_iff.mp (Nat.le_zero.mp hfuel)]
    rfl
  | succ fuel ih =>
    intro bytes panel hfuel
    unfold chunkStreams
    split
    · rename_i hnone
      rw [hnone]
      rfl
    · rename_i hsome
      have hpositive := List.length_pos_iff.mpr hsome
      have hrest : (bytes.drop oledDataChunkBytes).length ≤ fuel := by
        rw [List.length_drop]
        unfold oledDataChunkBytes
        omega
      rw [OledPanel.decode, ih _ _ hrest]
      conv_rhs => rw [← List.take_append_drop oledDataChunkBytes bytes, OledPanel.dataWrites_append]
      rfl

theorem chunkStreams_horizontal (fuel : Nat) : ∀ (bytes : List UInt8) (panel : OledPanel),
    (OledPanel.applyStreams controller (chunkStreams 0x40 fuel bytes) panel).horizontal =
      panel.horizontal := by
  induction fuel with
  | zero => exact fun _ _ => rfl
  | succ fuel ih =>
    intro bytes panel
    unfold chunkStreams
    split
    · rfl
    · exact (ih _ _).trans (OledPanel.data_horizontal _ panel)

/-- A slice of a page is written in order where the panel's address points. -/
theorem dataStreams_decode {panel : OledPanel} {page start count : Nat} (pageData : Nat → UInt8)
    (hpage : panel.page = page) (hcolumn : panel.column = start + OledPanel.columnOffset controller)
    (hfits : OledPanel.Fits controller panel count) :
    OledPanel.decode controller (dataStreams (pageSlice pageData start count)) panel =
      (List.range' start count).map fun column =>
        (page, column + OledPanel.columnOffset controller, pageData column) := by
  rw [dataStreams, chunkStreams_decode _ _ _ (Nat.le_refl _),
    OledPanel.dataWrites_slice pageData _ _ _ _ hcolumn hfits, hpage]

theorem sh1106Streams_decode {page endColumn : Nat} (pageData : Nat → UInt8)
    (hpage : page < oledPageCount) (hend : endColumn ≤ oledWidth) (fuel : Nat) :
    ∀ (current : Nat) (panel : OledPanel), endColumn - current ≤ fuel →
      OledPanel.decode .sh1106 (sh1106Streams page endColumn pageData fuel current) panel =
        (List.range' current (endColumn - current)).map fun column =>
          (page, column + OledPanel.columnOffset .sh1106, pageData column) := by
  have hwidth : oledWidth = 72 := rfl
  have hpages : oledPageCount = 5 := rfl
  have hchunk : oledDataChunkBytes = 32 := rfl
  have hoffset : oledSh1106ColumnOffset = 2 := rfl
  induction fuel with
  | zero =>
    intro current panel hfuel
    rw [Nat.le_zero.mp hfuel]
    rfl
  | succ fuel ih =>
    intro current panel hfuel
    unfold sh1106Streams
    split
    · rename_i hdone
      rw [Nat.sub_eq_zero_of_le hdone]
      rfl
    · simp only
      have hfits (panel : OledPanel) :
          OledPanel.Fits .sh1106 panel (min oledDataChunkBytes (endColumn - current)) := by
        intro h
        cases h
      rw [commandStreams_decode (Nat.le_of_ble_eq_true rfl), OledPanel.decode_append,
        OledPanel.sh1106_address panel (by omega) (by omega), dataStreams_decode pageData rfl rfl (hfits _),
        ih _ _ (by omega), ← List.map_append]
      have hsplit : endColumn - current = min oledDataChunkBytes (endColumn - current) +
          (endColumn - (current + min oledDataChunkBytes (endColumn - current))) := by omega
      conv_rhs => rw [hsplit, ← List.range'_append_1]

/-- The streams of a window write its columns, each once and in order. -/
theorem windowStreams_decode {page startColumn endColumn : Nat} (pageData : Nat → UInt8)
    (hpage : page < oledPageCount) (hstart : startColumn < endColumn) (hend : endColumn ≤ oledWidth)
    {panel : OledPanel} (haddressed : OledPanel.Addressed controller panel) :
    OledPanel.decode controller (windowStreams controller page startColumn endColumn pageData) panel =
      (List.range' startColumn (endColumn - startColumn)).map fun column =>
        (page, column + OledPanel.columnOffset controller, pageData column) := by
  cases controller with
  | sh1106 => exact sh1106Streams_decode pageData hpage hend _ _ _ (Nat.le_refl _)
  | ssd1306 =>
    have hwidth : oledWidth = 72 := rfl
    have hpages : oledPageCount = 5 := rfl
    have hoffset : oledSsd1306ColumnOffset = 28 := rfl
    have hbyte {n : Nat} (h : n < 256) : (UInt8.ofNat n).toNat = n := by
      rw [UInt8.toNat_ofNat']
      exact Nat.mod_eq_of_lt h
    unfold windowStreams
    simp only
    rw [commandStreams_decode (Nat.le_of_ble_eq_true rfl), OledPanel.ssd1306_window, hbyte (by omega),
      hbyte (by omega), hbyte (by omega)]
    apply dataStreams_decode pageData rfl rfl
    intro _
    simp only
    omega

/-- The panel stays in the mode that the next window needs. -/
theorem windowStreams_addressed (page startColumn endColumn : Nat) (pageData : Nat → UInt8)
    {panel : OledPanel} (haddressed : OledPanel.Addressed controller panel) :
    OledPanel.Addressed controller
      (OledPanel.applyStreams controller
        (windowStreams controller page startColumn endColumn pageData) panel) := by
  cases controller with
  | sh1106 =>
    intro h
    cases h
  | ssd1306 =>
    intro hssd
    unfold windowStreams
    rw [OledPanel.applyStreams_append]
    refine (chunkStreams_horizontal _ _ _).trans ?_
    rw [commandStreams_eq (Nat.le_of_ble_eq_true rfl), OledPanel.applyStreams_commands,
      OledPanel.ssd1306_window]
    exact haddressed hssd

/-- When every transfer of a window succeeds, the streams write the columns of the window where the
panel shows them, each once and in order, and nothing else. When one fails, the transfers so far are
a prefix of these streams. -/
theorem window_writes_exact (ports : OledPorts P ω) (s : OledState P ω)
    {page startColumn endColumn : Nat} (pageData : Nat → UInt8) (hpage : page < oledPageCount)
    (hstart : startColumn < endColumn) (hend : endColumn ≤ oledWidth) :
    let out := applyAddressWindow ports page startColumn endColumn pageData s
    let streams := windowStreams s.ctx.controller page startColumn endColumn pageData
    let writes := (List.range' startColumn (endColumn - startColumn)).map fun column =>
      (page, column + OledPanel.columnOffset s.ctx.controller, pageData column)
    ∃ calls, Delivers streams calls s out ∧ (∀ call ∈ calls, Framed call.1) ∧
      ∀ panel, OledPanel.Addressed s.ctx.controller panel →
        OledPanel.decode s.ctx.controller streams panel = writes ∧
        (OledPanel.applyStreams s.ctx.controller streams panel).ram =
          writes.foldl OledPanel.Write.apply panel.ram ∧
        OledPanel.Addressed s.ctx.controller
          (OledPanel.applyStreams s.ctx.controller streams panel) := by
  intro out streams writes
  obtain ⟨calls, hdelivers⟩ := applyAddressWindow_delivers ports pageData s hpage hstart hend
  refine ⟨calls, hdelivers, ?_, ?_⟩
  · intro call hcall
    exact windowStreams_framed page startColumn endColumn pageData call.1
      (hdelivers.sent.subset (List.mem_map_of_mem hcall))
  · intro panel haddressed
    have hdecode := windowStreams_decode pageData hpage hstart hend haddressed
    refine ⟨hdecode, ?_, windowStreams_addressed page startColumn endColumn pageData haddressed⟩
    rw [OledPanel.applyStreams_ram, hdecode]

/-- A full line of an SH1106, which takes three chunks. -/
theorem window_writes_exact_line :
    let ports : OledPorts Unit Unit := ⟨onesI2c, refusingDelivery⟩
    let s : OledState Unit Unit := .start (.fresh ⟨0, 0x3C⟩ .sh1106) ()
    let streams := windowStreams .sh1106 4 0 72 fun column => UInt8.ofNat column
    let writes := (List.range' 0 72).map fun column => (4, column + 2, UInt8.ofNat column)
    ∃ calls, Delivers streams calls s
        (applyAddressWindow ports 4 0 72 (fun column => UInt8.ofNat column) s) ∧
      (∀ call ∈ calls, Framed call.1) ∧
      ∀ panel, OledPanel.Addressed .sh1106 panel →
        OledPanel.decode .sh1106 streams panel = writes ∧
        (OledPanel.applyStreams .sh1106 streams panel).ram =
          writes.foldl OledPanel.Write.apply panel.ram ∧
        OledPanel.Addressed .sh1106 (OledPanel.applyStreams .sh1106 streams panel) :=
  window_writes_exact ⟨onesI2c, refusingDelivery⟩ (.start (.fresh ⟨0, 0x3C⟩ .sh1106) ()) _ (by decide)
    (by decide) (Nat.le_refl 72)

end Windows

end OledActor

end EventFramework
