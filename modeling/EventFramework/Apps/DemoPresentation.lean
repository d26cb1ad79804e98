import EventFramework.Actors.CommandDecimal
import EventFramework.Actors.Mcp23008Actor
import EventFramework.Actors.NetworkEffect
import EventFramework.Actors.OledScene
import EventFramework.Actors.RtcActor
import EventFramework.Actors.SupervisorActor
import EventFramework.Library.Pendulum

/-!
# What the demo application presents

`ev_demo_presentation.c`: the texts of the time and of the temperature, the scene that shows them, and
the screen saver that moves the scene.
-/

namespace EventFramework
set_option autoImplicit false

open Pendulum CommandParser

structure LightPayload where
  milliLux : UInt32 := 0
  raw : UInt16 := 0
  deriving DecidableEq, Repr

/-- `EV_OLED_SCENE_FLAG_VISIBLE`. -/
def oledSceneFlagVisible : UInt8 := 0x01

/-- `EV_DEMO_APP_OLED_TITLE_TEXT`. -/
def oledTitleText : List UInt8 := asciiBytes ['A', 'T', 'N', 'E', 'L', ' ', 'A', 'I', 'R']

def oledTitlePages : Nat := 3

def oledTextCellAdvance : Nat := 6

def oledBlockWidthPx : Nat := oledTitleText.length * oledTextCellAdvance

/-- `EV_DEMO_APP_OLED_MAX_COLUMN_OFFSET`. -/
def oledMaxColumnOffset : UInt8 := UInt8.ofNat (oledWidth - oledBlockWidthPx)

/-- `EV_DEMO_APP_OLED_MAX_PAGE_OFFSET`. -/
def oledMaxPageOffset : UInt8 := UInt8.ofNat (oledPageCount - oledTitlePages)

/-- `ev_demo_app_actor_state_t` as `ev_demo_app_init` leaves it, without its application. -/
structure AppActor where
  lastSnapshotSequence : UInt32 := 0
  lastDiagTicksSeen : UInt32 := 0
  lastTime : TimePayload := {}
  lastTemp : Int16 := 0
  lastLight : LightPayload := {}
  timeValid : Bool := false
  tempValid : Bool := false
  lightValid : Bool := false
  oledFrameVisible : Bool := false
  systemReady : Bool := false
  activeHardwareMask : UInt32 := 0
  screensaverPaused : Bool := false
  panelLedMask : UInt8 := 0
  currentPageOffset : UInt8 := 0
  currentColumnOffset : UInt8 := 0
  lastPageOffset : UInt8 := 0
  lastColumnOffset : UInt8 := 0
  directionX : Int8 := 1
  directionY : Int8 := 1
  oledScene : OledScene := ⟨0, 0, 0, fun _ => List.replicate oledTextMaxChars 0⟩

/-- What `snprintf` leaves in a zeroed buffer. -/
def snprintf (size : Nat) (text : List UInt8) : List UInt8 :=
  text.take (size - 1) ++ List.replicate (size - (text.take (size - 1)).length) 0

def cString (buffer : List UInt8) : List UInt8 := buffer.takeWhile (· ≠ 0)

/-- `%02u`. -/
def twoDigits (value : Nat) : List UInt8 :=
  if value < 10 then asciiBytes ['0'] ++ decimalText value else decimalText value

def clockText (time : TimePayload) : List UInt8 :=
  twoDigits time.hours.toNat ++ asciiBytes [':'] ++ twoDigits time.minutes.toNat ++ asciiBytes [':'] ++
    twoDigits time.seconds.toNat

def celsiusText (centiCelsius : Int) : List UInt8 :=
  let absCentiCelsius := centiCelsius.natAbs
  (if centiCelsius < 0 then asciiBytes ['-'] else []) ++ decimalText (absCentiCelsius / 100) ++
    asciiBytes ['.'] ++ twoDigits (absCentiCelsius % 100) ++ asciiBytes [' ', 'C']

namespace AppActor

/-- `ev_demo_app_format_time_text`. -/
def formatTimeText (state : AppActor) : List UInt8 :=
  if !state.timeValid then asciiBytes ['-', '-', ':', '-', '-', ':', '-', '-']
  else clockText state.lastTime

/-- `ev_demo_app_format_temp_text`. -/
def formatTempText (state : AppActor) : List UInt8 :=
  if !state.tempValid then asciiBytes ['-', '-', '.', '-', '-', ' ', 'C']
  else celsiusText state.lastTemp.toInt

/-- `ev_demo_app_hardware_active`. -/
def hardwareActive (state : AppActor) (hwMask : UInt32) : Bool :=
  state.systemReady && state.activeHardwareMask &&& hwMask != 0

/-- The lines that `ev_demo_app_render_oled_frame` fills in; the two texts are formatted into buffers
first. -/
def sceneLines (state : AppActor) : Nat → List UInt8
  | 0 => snprintf oledTextMaxChars oledTitleText
  | 1 => snprintf oledTextMaxChars (cString (snprintf oledTextMaxChars state.formatTimeText))
  | 2 => snprintf oledTextMaxChars (cString (snprintf oledTextMaxChars state.formatTempText))
  | _ => List.replicate oledTextMaxChars 0

def scene (state : AppActor) : OledScene where
  pageOffset := state.currentPageOffset.toNat
  columnOffset := state.currentColumnOffset.toNat
  flags := oledSceneFlagVisible
  lines := state.sceneLines

/-- The state in which `ev_demo_app_render_oled_frame` publishes the scene. -/
def rendered (state : AppActor) : AppActor :=
  { state with
    oledScene := state.scene
    lastPageOffset := state.currentPageOffset
    lastColumnOffset := state.currentColumnOffset
    oledFrameVisible := true }

end AppActor

/-- `ev_demo_app_screensaver_step_axis`. -/
def screensaverStepAxis (value : UInt8) (direction : Int8) (maxValue : UInt8) : UInt8 × Int8 :=
  if maxValue = 0 then (0, 1)
  else if 0 ≤ direction then
    if maxValue ≤ value then (if 0 < value then value - 1 else value, -1) else (value + 1, direction)
  else if value = 0 then (value + 1, 1)
  else (value - 1, direction)

/-- The part of `ev_demo_app_handle_tick_for_oled` before the frame. -/
def AppActor.stepped (state : AppActor) : AppActor :=
  if state.screensaverPaused then state
  else
    let x := screensaverStepAxis state.currentColumnOffset state.directionX oledMaxColumnOffset
    let y := screensaverStepAxis state.currentPageOffset state.directionY oledMaxPageOffset
    { state with
      currentColumnOffset := x.1, directionX := x.2, currentPageOffset := y.1, directionY := y.2 }

/-- The memory of an `ev_oled_scene_t`. -/
def OledScene.bytes (scene : OledScene) : List UInt8 :=
  [UInt8.ofNat scene.pageOffset, UInt8.ofNat scene.columnOffset, scene.flags, 0] ++
    scene.lines 0 ++ scene.lines 1 ++ scene.lines 2

/-! ## The screen saver -/

/-- An axis of the screen saver as a point that goes to and fro. -/
def axisSwing (value : UInt8) (direction : Int8) : Swing := ⟨value.toNat, decide (0 ≤ direction)⟩

theorem screensaverStepAxis_move (value : UInt8) (direction : Int8) (maxValue : UInt8) :
    axisSwing (screensaverStepAxis value direction maxValue).1
        (screensaverStepAxis value direction maxValue).2 =
      (axisSwing value direction).move maxValue.toNat := by
  have hzero (byte : UInt8) : byte = 0 ↔ byte.toNat = 0 := UInt8.toNat_inj.symm
  have hless (a b : UInt8) : a ≤ b ↔ a.toNat ≤ b.toNat := UInt8.le_iff_toNat_le
  have hvalue := value.toNat_lt
  have hmax := maxValue.toNat_lt
  unfold screensaverStepAxis Swing.move axisSwing
  simp only [hzero]
  split
  · rfl
  · rename_i hmoves
    by_cases hrising : 0 ≤ direction
    · simp only [hrising, decide_true, if_true, hless]
      split
      · rename_i hend
        have hpos : 0 < value := UInt8.lt_iff_toNat_lt.mpr (by change 0 < value.toNat; omega)
        rw [if_pos hpos]
        refine congrArg₂ Swing.mk ?_ rfl
        rw [UInt8.toNat_sub_of_le _ _ (UInt8.le_iff_toNat_le.mpr (by change 1 ≤ value.toNat; omega))]
        rfl
      · rename_i hinside
        refine congrArg₂ Swing.mk ?_ (decide_eq_true hrising)
        rw [UInt8.toNat_add]
        change (value.toNat + 1) % 256 = _
        omega
    · simp only [hrising, decide_false, Bool.false_eq_true, if_false]
      split
      · rename_i hstart
        refine congrArg₂ Swing.mk ?_ rfl
        rw [UInt8.toNat_add, hstart]
        rfl
      · rename_i hinside
        refine congrArg₂ Swing.mk ?_ (decide_eq_false hrising)
        rw [UInt8.toNat_sub_of_le _ _ (UInt8.le_iff_toNat_le.mpr (by change 1 ≤ value.toNat; omega))]
        rfl

/-! ## The texts -/

def Unterminated (text : List UInt8) : Prop := ∀ c ∈ text, c ≠ 0

instance decidableUnterminated (text : List UInt8) : Decidable (Unterminated text) :=
  List.decidableBAll (fun c => c ≠ 0) text

theorem takeWhile_padded {text : List UInt8} (h : Unterminated text) (padding : Nat) :
    (text ++ List.replicate padding 0).takeWhile (· ≠ 0) = text := by
  rw [List.takeWhile_append_of_pos fun c hc => decide_eq_true (h c hc)]
  cases padding with
  | zero => exact List.append_nil text
  | succ padding => exact List.append_nil text

theorem cString_snprintf {size : Nat} {text : List UInt8} (hfits : text.length < size)
    (h : Unterminated text) : cString (snprintf size text) = text := by
  unfold cString snprintf
  rw [List.take_of_length_le (Nat.le_sub_one_of_lt hfits)]
  exact takeWhile_padded h _

theorem snprintf_length {size : Nat} (hsize : 0 < size) (text : List UInt8) :
    (snprintf size text).length = size := by
  unfold snprintf
  simp only [List.length_append, List.length_replicate, List.length_take]
  omega

theorem lineText_snprintf {text : List UInt8} (hfits : text.length < oledTextMaxChars)
    (h : Unterminated text) : OledActor.lineText (snprintf oledTextMaxChars text) = text := by
  unfold OledActor.lineText snprintf
  rw [List.take_of_length_le (Nat.le_sub_one_of_lt hfits), List.take_append,
    List.take_of_length_le (Nat.le_sub_one_of_lt hfits), List.take_replicate]
  exact takeWhile_padded h _

theorem digit_byte {c : Char} (h : c.isDigit = true) :
    (UInt8.ofNat c.toNat).toNat = c.toNat ∧ 0x30 ≤ c.toNat ∧ c.toNat ≤ 0x39 := by
  simp only [Char.isDigit, Bool.and_eq_true, decide_eq_true_eq, ge_iff_le] at h
  have hlow : 0x30 ≤ c.toNat := UInt32.le_iff_toNat_le.mp h.1
  have hhigh : c.toNat ≤ 0x39 := UInt32.le_iff_toNat_le.mp h.2
  exact ⟨UInt8.toNat_ofNat_of_lt' (by change c.toNat < 256; omega), hlow, hhigh⟩

theorem digit_of_mem_decimalText {value : Nat} {c : UInt8} (h : c ∈ decimalText value) :
    0x30 ≤ c.toNat ∧ c.toNat ≤ 0x39 := by
  obtain ⟨digit, hdigit, rfl⟩ := List.mem_map.mp h
  obtain ⟨hbyte, hrange⟩ := digit_byte (Nat.isDigit_of_mem_toDigits (by decide) (by decide) hdigit)
  rw [hbyte]
  exact hrange

theorem digit_of_mem_twoDigits {value : Nat} {c : UInt8} (h : c ∈ twoDigits value) :
    0x30 ≤ c.toNat ∧ c.toNat ≤ 0x39 := by
  unfold twoDigits at h
  split at h
  · rcases List.mem_append.mp h with hzero | hdigit
    · obtain rfl : c = 0x30 := List.mem_singleton.mp hzero
      decide
    · exact digit_of_mem_decimalText hdigit
  · exact digit_of_mem_decimalText h

theorem decimalFrom_digits (digits : List Char) (h : ∀ c ∈ digits, c.isDigit = true) :
    ∀ init, decimalFrom init (asciiBytes digits) = Nat.ofDigitChars 10 digits init := by
  induction digits with
  | nil => exact fun _ => rfl
  | cons c digits ih =>
    intro init
    have hbyte := (digit_byte (h c (List.mem_cons_self ..))).1
    have hstep : decimalFrom init (asciiBytes (c :: digits)) =
        decimalFrom (init * 10 + ((UInt8.ofNat c.toNat).toNat - 0x30)) (asciiBytes digits) := rfl
    rw [hstep, hbyte, ih fun c hc => h c (List.mem_cons_of_mem _ hc), Nat.ofDigitChars_cons, Nat.mul_comm]
    rfl

theorem decimalValue_decimalText (value : Nat) : decimalValue (decimalText value) = value := by
  rw [decimalValue_eq, decimalText,
    decimalFrom_digits _ fun c hc => Nat.isDigit_of_mem_toDigits (by decide) (by decide) hc]
  exact Nat.ofDigitChars_ten_toDigits

theorem decimalValue_twoDigits (value : Nat) : decimalValue (twoDigits value) = value := by
  have hpadded : decimalValue (asciiBytes ['0'] ++ decimalText value) = decimalValue (decimalText value) := by
    rw [decimalValue_eq, decimalValue_eq]
    rfl
  unfold twoDigits
  split
  · rw [hpadded, decimalValue_decimalText]
  · exact decimalValue_decimalText value

theorem twoDigits_length {value : Nat} (h : value < 100) : (twoDigits value).length = 2 := by
  have hle : (decimalText value).length ≤ 2 := NetworkActor.decimalText_length_le 2 (by decide) h
  unfold twoDigits
  split
  · rename_i hsmall
    rw [decimalText, Nat.toDigits_of_lt_base hsmall]
    rfl
  · rename_i hlarge
    refine Nat.le_antisymm hle (Nat.lt_of_not_le fun hshort => hlarge ?_)
    rw [decimalText, asciiBytes, List.length_map] at hshort
    exact (Nat.length_toDigits_le_iff (by decide) (by decide)).mp hshort

theorem twoDigits_length_le {value : Nat} (h : value < 1000) : (twoDigits value).length ≤ 3 := by
  by_cases hsmall : value < 100
  · rw [twoDigits_length hsmall]
    decide
  · unfold twoDigits
    rw [if_neg (by omega)]
    exact NetworkActor.decimalText_length_le 3 (by decide) h

/-- What a reader of the second line takes for the time. -/
def readClock (text : List UInt8) : Nat × Nat × Nat :=
  (decimalValue (text.take 2), decimalValue ((text.drop 3).take 2), decimalValue ((text.drop 6).take 2))

theorem readClock_clockText {time : TimePayload} (hhours : time.hours.toNat < 100)
    (hminutes : time.minutes.toNat < 100) (hseconds : time.seconds.toNat < 100) :
    readClock (clockText time) = (time.hours.toNat, time.minutes.toNat, time.seconds.toNat) := by
  have hvalue (value : Nat) := decimalValue_twoDigits value
  have hfirst := twoDigits_length hhours
  have hsecond := twoDigits_length hminutes
  have hthird := twoDigits_length hseconds
  have htail : (clockText time).drop 3 = twoDigits time.minutes.toNat ++ (asciiBytes [':'] ++
      twoDigits time.seconds.toNat) := by
    unfold clockText
    simp only [List.append_assoc]
    rw [← List.append_assoc]
    exact List.drop_left' (by rw [List.length_append, hfirst]; rfl)
  have hlast : (clockText time).drop 6 = twoDigits time.seconds.toNat := by
    have hsplit : (clockText time).drop 6 = ((clockText time).drop 3).drop 3 := by rw [List.drop_drop]
    rw [hsplit, htail, ← List.append_assoc]
    exact List.drop_left' (by rw [List.length_append, hsecond]; rfl)
  have htaken : (clockText time).take 2 = twoDigits time.hours.toNat := by
    unfold clockText
    simp only [List.append_assoc]
    exact List.take_left' hfirst
  unfold readClock
  rw [htaken, htail, hlast, List.take_left' hsecond, List.take_of_length_le (Nat.le_of_eq hthird), hvalue,
    hvalue, hvalue]

/-- What a reader of the third line takes for the temperature, in hundredths of a degree: the digits
before the point and two digits behind it. -/
def readDegrees (text : List UInt8) : Nat :=
  decimalValue (text.takeWhile (· ≠ 0x2E)) * 100 +
    decimalValue (((text.dropWhile (· ≠ 0x2E)).drop 1).take 2)

def readCelsius (text : List UInt8) : Int :=
  if text.head? = some 0x2D then -readDegrees text.tail else readDegrees text

def degreesText (absCentiCelsius : Nat) : List UInt8 :=
  decimalText (absCentiCelsius / 100) ++ asciiBytes ['.'] ++ twoDigits (absCentiCelsius % 100) ++
    asciiBytes [' ', 'C']

theorem celsiusText_eq (centiCelsius : Int) : celsiusText centiCelsius =
    (if centiCelsius < 0 then asciiBytes ['-'] else []) ++ degreesText centiCelsius.natAbs := by
  unfold celsiusText degreesText
  simp only [List.append_assoc]

theorem readDegrees_degreesText (absCentiCelsius : Nat) :
    readDegrees (degreesText absCentiCelsius) = absCentiCelsius := by
  have hwhole : ∀ c ∈ decimalText (absCentiCelsius / 100), decide (c ≠ 0x2E) = true := by
    intro c hc
    refine decide_eq_true fun hpoint => ?_
    exact absurd (hpoint ▸ (digit_of_mem_decimalText hc).1) (by decide)
  have hfraction : (twoDigits (absCentiCelsius % 100)).length = 2 := twoDigits_length (Nat.mod_lt _ (by decide))
  unfold readDegrees degreesText
  simp only [List.append_assoc]
  rw [List.takeWhile_append_of_pos hwhole, List.dropWhile_append_of_pos hwhole]
  have hpoint : (asciiBytes ['.'] ++ (twoDigits (absCentiCelsius % 100) ++ asciiBytes [' ', 'C'])).takeWhile
      (· ≠ 0x2E) = [] := rfl
  have hbehind : ((asciiBytes ['.'] ++ (twoDigits (absCentiCelsius % 100) ++
      asciiBytes [' ', 'C'])).dropWhile (· ≠ 0x2E)).drop 1 =
        twoDigits (absCentiCelsius % 100) ++ asciiBytes [' ', 'C'] := rfl
  rw [hpoint, hbehind, List.append_nil, List.take_left' hfraction, decimalValue_decimalText,
    decimalValue_twoDigits]
  exact Nat.div_add_mod' absCentiCelsius 100

/-- The temperature is read back from its text, with its sign. -/
theorem readCelsius_celsiusText (centiCelsius : Int) :
    readCelsius (celsiusText centiCelsius) = centiCelsius := by
  have hread := readDegrees_degreesText centiCelsius.natAbs
  rw [celsiusText_eq]
  unfold readCelsius
  by_cases hnegative : centiCelsius < 0
  · rw [if_pos hnegative]
    have hhead : (asciiBytes ['-'] ++ degreesText centiCelsius.natAbs).head? = some 0x2D := rfl
    have htail : (asciiBytes ['-'] ++ degreesText centiCelsius.natAbs).tail =
        degreesText centiCelsius.natAbs := rfl
    rw [if_pos hhead, htail, hread]
    omega
  · rw [if_neg hnegative, List.nil_append, hread, if_neg]
    · omega
    · intro hhead
      have hfirst : (degreesText centiCelsius.natAbs).head? =
          (decimalText (centiCelsius.natAbs / 100)).head? := by
        unfold degreesText
        simp only [List.append_assoc]
        refine List.head?_append_of_ne_nil _ fun hnil => ?_
        exact Nat.toDigits_ne_nil (List.map_eq_nil_iff.mp hnil)
      rw [hfirst] at hhead
      exact absurd (digit_of_mem_decimalText (List.mem_of_head? hhead)).1 (by decide)

theorem unterminated_append {a b : List UInt8} (ha : Unterminated a) (hb : Unterminated b) :
    Unterminated (a ++ b) := fun c hc => (List.mem_append.mp hc).elim (ha c) (hb c)

theorem unterminated_decimalText (value : Nat) : Unterminated (decimalText value) :=
  fun _ hc hzero => absurd (hzero ▸ (digit_of_mem_decimalText hc).1) (by decide)

theorem unterminated_twoDigits (value : Nat) : Unterminated (twoDigits value) :=
  fun _ hc hzero => absurd (hzero ▸ (digit_of_mem_twoDigits hc).1) (by decide)

theorem unterminated_clockText (time : TimePayload) : Unterminated (clockText time) := by
  have hcolon : Unterminated (asciiBytes [':']) := by decide
  unfold clockText
  exact unterminated_append (unterminated_append (unterminated_append (unterminated_append
    (unterminated_twoDigits _) hcolon) (unterminated_twoDigits _)) hcolon) (unterminated_twoDigits _)

theorem unterminated_celsiusText (centiCelsius : Int) : Unterminated (celsiusText centiCelsius) := by
  have hsign : Unterminated (if centiCelsius < 0 then asciiBytes ['-'] else []) := by
    split <;> decide
  have hpoint : Unterminated (asciiBytes ['.']) := by decide
  have hunit : Unterminated (asciiBytes [' ', 'C']) := by decide
  rw [celsiusText_eq]
  exact unterminated_append hsign (unterminated_append (unterminated_append (unterminated_append
    (unterminated_decimalText _) hpoint) (unterminated_twoDigits _)) hunit)

theorem clockText_length_le (time : TimePayload) : (clockText time).length ≤ 11 := by
  have hbyte (byte : UInt8) : (twoDigits byte.toNat).length ≤ 3 :=
    twoDigits_length_le (Nat.lt_trans byte.toNat_lt (by decide))
  have hhours := hbyte time.hours
  have hminutes := hbyte time.minutes
  have hseconds := hbyte time.seconds
  have hcolon : (asciiBytes [':']).length = 1 := rfl
  unfold clockText
  simp only [List.length_append]
  omega

/-- Nine characters show every temperature that sixteen bits can hold. -/
theorem celsiusText_length_le (temp : Int16) : (celsiusText temp.toInt).length ≤ 9 := by
  have hlow := temp.le_toInt
  have hhigh := temp.toInt_lt
  have hwhole : (decimalText (temp.toInt.natAbs / 100)).length ≤ 3 :=
    NetworkActor.decimalText_length_le 3 (by decide) (by omega)
  have hfraction : (twoDigits (temp.toInt.natAbs % 100)).length = 2 := twoDigits_length (Nat.mod_lt _ (by decide))
  have hsign : (if temp.toInt < 0 then asciiBytes ['-'] else []).length ≤ 1 := by
    split <;> decide
  have hpoint : (asciiBytes ['.']).length = 1 := rfl
  have hunit : (asciiBytes [' ', 'C']).length = 2 := rfl
  rw [celsiusText_eq]
  unfold degreesText
  simp only [List.length_append]
  omega

/-! ## The scene -/

namespace AppActor

theorem formatTimeText_fits (state : AppActor) :
    state.formatTimeText.length < oledTextMaxChars ∧ Unterminated state.formatTimeText := by
  unfold formatTimeText
  split
  · decide
  · exact ⟨Nat.lt_of_le_of_lt (clockText_length_le _) (by decide), unterminated_clockText _⟩

theorem formatTempText_length_le (state : AppActor) : state.formatTempText.length ≤ 9 := by
  unfold formatTempText
  split
  · decide
  · exact celsiusText_length_le _

theorem formatTempText_fits (state : AppActor) :
    state.formatTempText.length < oledTextMaxChars ∧ Unterminated state.formatTempText := by
  refine ⟨Nat.lt_of_le_of_lt state.formatTempText_length_le (by decide), ?_⟩
  unfold formatTempText
  split
  · decide
  · exact unterminated_celsiusText _

def lineTexts (state : AppActor) : Nat → List UInt8
  | 0 => oledTitleText
  | 1 => state.formatTimeText
  | 2 => state.formatTempText
  | _ => []

theorem lineText_sceneLines (state : AppActor) {line : Nat} (h : line < oledSceneLineCount) :
    OledActor.lineText (state.sceneLines line) = state.lineTexts line := by
  obtain ⟨htime, htimePlain⟩ := state.formatTimeText_fits
  obtain ⟨htemp, htempPlain⟩ := state.formatTempText_fits
  have hcount : oledSceneLineCount = 3 := rfl
  obtain rfl | rfl | rfl : line = 0 ∨ line = 1 ∨ line = 2 := by omega
  · exact lineText_snprintf (by decide) (by decide)
  · unfold sceneLines lineTexts
    rw [cString_snprintf htime htimePlain]
    exact lineText_snprintf htime htimePlain
  · unfold sceneLines lineTexts
    rw [cString_snprintf htemp htempPlain]
    exact lineText_snprintf htemp htempPlain

theorem sceneLines_length (state : AppActor) (line : Nat) :
    (state.sceneLines line).length = oledTextMaxChars := by
  unfold sceneLines
  split
  · exact snprintf_length (by decide) _
  · exact snprintf_length (by decide) _
  · exact snprintf_length (by decide) _
  · exact List.length_replicate

end AppActor

/-- A scene as it lies in memory. -/
structure OledScene.WellSized (scene : OledScene) : Prop where
  page : scene.pageOffset < 256
  column : scene.columnOffset < 256
  line : ∀ line, (scene.lines line).length = oledTextMaxChars

theorem AppActor.scene_wellSized (state : AppActor) : state.scene.WellSized :=
  ⟨state.currentPageOffset.toNat_lt, state.currentColumnOffset.toNat_lt, state.sceneLines_length⟩

theorem getD_between {before middle after : List UInt8} {i : Nat} (h : i < middle.length) :
    (before ++ middle ++ after).getD (before.length + i) 0 = middle[i] := by
  rw [List.append_assoc, List.getD_append_right _ _ _ _ (Nat.le_add_right _ _), Nat.add_sub_cancel_left,
    List.getD_append _ _ _ _ h, List.getD_eq_getElem _ _ h]

namespace OledScene.WellSized

variable {scene : OledScene}

theorem bytes_line (h : scene.WellSized) {line : Nat} (hline : line < oledSceneLineCount) :
    (List.range' (4 + oledTextMaxChars * line) oledTextMaxChars).map (fun i => scene.bytes.getD i 0) =
      scene.lines line := by
  have hchars : oledTextMaxChars = 22 := rfl
  have hcount : oledSceneLineCount = 3 := rfl
  let header : List UInt8 := [UInt8.ofNat scene.pageOffset, UInt8.ofNat scene.columnOffset, scene.flags, 0]
  have hheader : header.length = 4 := rfl
  obtain ⟨before, after, hbytes, hbefore⟩ : ∃ before after,
      scene.bytes = before ++ scene.lines line ++ after ∧ before.length = 4 + oledTextMaxChars * line := by
    obtain rfl | rfl | rfl : line = 0 ∨ line = 1 ∨ line = 2 := by omega
    · refine ⟨header, scene.lines 1 ++ scene.lines 2, ?_, rfl⟩
      unfold OledScene.bytes
      simp only [List.append_assoc, header]
    · refine ⟨header ++ scene.lines 0, scene.lines 2, rfl, ?_⟩
      rw [List.length_append, h.line, hheader, Nat.mul_one]
    · refine ⟨header ++ scene.lines 0 ++ scene.lines 1, [], (List.append_nil _).symm, ?_⟩
      simp only [List.length_append, h.line, hheader]
      omega
  refine List.ext_getElem (by rw [List.length_map, List.length_range', h.line]) fun i hi hi' => ?_
  rw [List.getElem_map, List.getElem_range', Nat.one_mul, hbytes, ← hbefore]
  exact getD_between hi'

/-- The actor reads the scene that the application wrote. -/
theorem readScene_bytes (h : scene.WellSized) :
    (OledActor.readScene fun i => scene.bytes.getD i 0).pageOffset = scene.pageOffset ∧
      (OledActor.readScene fun i => scene.bytes.getD i 0).columnOffset = scene.columnOffset ∧
      (OledActor.readScene fun i => scene.bytes.getD i 0).flags = scene.flags ∧
      ∀ line, line < oledSceneLineCount →
        OledActor.lineText ((OledActor.readScene fun i => scene.bytes.getD i 0).lines line) =
          OledActor.lineText (scene.lines line) := by
  refine ⟨UInt8.toNat_ofNat_of_lt' h.page, UInt8.toNat_ofNat_of_lt' h.column, rfl, fun line hline => ?_⟩
  have hread : (OledActor.readScene fun i => scene.bytes.getD i 0).lines line =
      OledActor.terminated (scene.lines line) := congrArg OledActor.terminated (h.bytes_line hline)
  rw [hread]
  unfold OledActor.lineText OledActor.terminated
  rw [List.take_set_of_le (Nat.le_refl _)]

end OledScene.WellSized

end EventFramework
