import EventFramework.Actors.ButtonCycles
import EventFramework.Library.BitMask

/-!
# The buttons of the panel

The panel actor runs four buttons, each on its own bit of the input masks, as long as its
publications succeed.
-/

namespace EventFramework
set_option autoImplicit false

variable {P ω : Type}

namespace PanelActor

def isSet (mask : UInt8) (buttonId : Nat) : Bool := mask &&& bit buttonId ≠ 0

def buttonInput (buttonId : Nat) (msg : Inbound) : ButtonInput :=
  match msg.eventId, msg.payload with
  | .mcp23008InputChanged, some payload =>
    if msg.payloadSize = 2 then .level (isSet (payload 0) buttonId) else .other
  | .tick100ms, _ => .tick
  | _, _ => .other

def decodeAction (code : UInt8) : Option ButtonAction :=
  [ButtonAction.press, .release, .short, .long].find? fun action => action.code = code

def actionOf (buttonId : Nat) (msg : Msg P) : Option ButtonAction :=
  if msg.eventId = .buttonEvent ∧ msg.inlineBytes.getD 0 0 = UInt8.ofNat buttonId then
    decodeAction (msg.inlineBytes.getD 1 0)
  else none

def actions (buttonId : Nat) (s : PanelState P ω) : List ButtonAction :=
  s.publications.filterMap fun out => actionOf buttonId out.1

/-- Every publication so far returned `EV_OK`. -/
def AllDelivered (s : PanelState P ω) : Prop := ∀ out ∈ s.publications, out.2 = .ok

/-- What the context and the publications hold of one button. -/
structure ButtonFace where
  level : Option Bool
  stable : Bool
  longReported : Bool
  hold : UInt16
  done : List ButtonAction

def face (buttonId : Nat) (s : PanelState P ω) : ButtonFace where
  level := if s.ctx.rawValid then some (isSet s.ctx.rawMask buttonId) else none
  stable := isSet s.ctx.stableMask buttonId
  longReported := isSet s.ctx.longReportedMask buttonId
  hold := s.ctx.holdTicks buttonId
  done := actions buttonId s

namespace ButtonFace

def changed (face : ButtonFace) (pressed : Bool) : ButtonFace :=
  if pressed then
    { face with stable := true, hold := 0, longReported := false, done := face.done ++ [.press] }
  else
    { face with
      stable := false, hold := 0, longReported := false
      done := face.done ++ if face.longReported then [.release] else [.release, .short] }

def kept (face : ButtonFace) : ButtonFace :=
  if face.stable then
    let hold := if face.hold < 0xFFFF then face.hold + 1 else face.hold
    if panelLongPressTicks ≤ hold ∧ face.longReported = false then
      { face with hold := hold, longReported := true, done := face.done ++ [.long] }
    else { face with hold := hold }
  else face

def scanned (face : ButtonFace) (pressed : Bool) : ButtonFace :=
  if pressed ≠ face.stable then face.changed pressed else face.kept

end ButtonFace

section Bits

variable {buttonId other : Nat}

theorem bit_toBitVec (hbutton : buttonId < panelButtonCount) :
    (bit buttonId).toBitVec = BitMask.bit 8 buttonId := by
  have hall : ∀ b, b < 4 → (bit b).toBitVec = BitMask.bit 8 b := by decide
  exact hall buttonId hbutton

theorem isSet_eq (hbutton : buttonId < panelButtonCount) (mask : UInt8) :
    isSet mask buttonId = mask.toBitVec.getLsbD buttonId := by
  have hword : mask &&& bit buttonId ≠ 0 ↔ mask.toBitVec &&& BitMask.bit 8 buttonId ≠ 0 := by
    rw [← bit_toBitVec hbutton, ← UInt8.toBitVec_and, ne_eq, ne_eq, ← UInt8.toBitVec_inj]
    rfl
  have hbit := BitMask.and_bit_ne_zero (i := buttonId) (w := 8)
    (Nat.lt_trans hbutton (by decide)) mask.toBitVec
  rw [isSet, Bool.eq_iff_iff, decide_eq_true_iff, hword, hbit]

theorem isSet_or (hbutton : buttonId < panelButtonCount) (hother : other < panelButtonCount)
    (mask : UInt8) : isSet (mask ||| bit buttonId) other = (decide (buttonId = other) || isSet mask other) := by
  rw [isSet_eq hother, isSet_eq hother, UInt8.toBitVec_or, bit_toBitVec hbutton,
    BitMask.getLsbD_or_bit (Nat.lt_trans hbutton (by decide))]

theorem isSet_clear (hbutton : buttonId < panelButtonCount) (hother : other < panelButtonCount)
    (mask : UInt8) :
    isSet (mask &&& ~~~bit buttonId) other = (!decide (buttonId = other) && isSet mask other) := by
  rw [isSet_eq hother, isSet_eq hother, UInt8.toBitVec_and, UInt8.toBitVec_not,
    bit_toBitVec hbutton, BitMask.getLsbD_clear_bit (Nat.lt_trans hbutton (by decide))]

theorem isSet_buttonMask (hbutton : buttonId < panelButtonCount) (mask : UInt8) :
    isSet (mask &&& mcp23008ButtonMask) buttonId = isSet mask buttonId := by
  have hall : ∀ b, b < 4 → mcp23008ButtonMask.toBitVec.getLsbD b = true := by decide
  rw [isSet_eq hbutton, isSet_eq hbutton, UInt8.toBitVec_and, BitVec.getLsbD_and,
    hall buttonId hbutton, Bool.and_true]

end Bits

section Scan

variable (port : ActorPort P ω) {buttonId other : Nat} {s : PanelState P ω}

def buttonMsg (buttonId : Nat) (action : ButtonAction) : Msg P :=
  ActorWorld.outgoing .buttonEvent .panel (some [UInt8.ofNat buttonId, action.code])

theorem publish_spec (buttonId : Nat) (action : ButtonAction) (s : PanelState P ω) :
    (publishButtonEvent port buttonId action s).2.ctx = s.ctx ∧
      (publishButtonEvent port buttonId action s).2.publications = s.publications ++
        [(buttonMsg buttonId action, (publishButtonEvent port buttonId action s).1)] :=
  ⟨rfl, Running.publications_publishEvent port .buttonEvent .panel
    (some [UInt8.ofNat buttonId, action.code]) (by rfl) s⟩

theorem actionOf_buttonMsg (hbutton : buttonId < panelButtonCount) (hother : other < panelButtonCount)
    (action : ButtonAction) :
    actionOf other (buttonMsg (P := P) buttonId action) =
      if buttonId = other then some action else none := by
  have hbytes : ∀ b, b < 4 → ∀ b', b' < 4 → (UInt8.ofNat b = UInt8.ofNat b' ↔ b = b') := by decide
  have hdecode : decodeAction action.code = some action := by cases action <;> rfl
  have hmsg : (buttonMsg (P := P) buttonId action).inlineBytes =
      [UInt8.ofNat buttonId, action.code] := rfl
  have hevent : (buttonMsg (P := P) buttonId action).eventId = .buttonEvent := rfl
  rw [actionOf, hmsg, hevent]
  simp only [List.getD_cons_zero, List.getD_cons_succ, true_and]
  by_cases hsame : buttonId = other
  · rw [if_pos ((hbytes _ hbutton _ hother).mpr hsame), if_pos hsame, hdecode]
  · rw [if_neg fun h => hsame ((hbytes _ hbutton _ hother).mp h), if_neg hsame]

theorem publish_actions (hbutton : buttonId < panelButtonCount) (hother : other < panelButtonCount)
    (action : ButtonAction) (s : PanelState P ω) :
    actions other (publishButtonEvent port buttonId action s).2 =
      actions other s ++ if buttonId = other then [action] else [] := by
  have hone : [(buttonMsg (P := P) buttonId action,
      (publishButtonEvent port buttonId action s).1)].filterMap (fun out => actionOf other out.1) =
      if buttonId = other then [action] else [] := by
    simp only [List.filterMap_cons, actionOf_buttonMsg hbutton hother]
    by_cases hsame : buttonId = other
    · simp only [if_pos hsame, List.filterMap_nil]
    · simp only [if_neg hsame, List.filterMap_nil]
  rw [actions, (publish_spec port buttonId action s).2, List.filterMap_append, hone]
  rfl

/-- A publication leaves every face but for what was done. -/
theorem face_publish (hbutton : buttonId < panelButtonCount) (hother : other < panelButtonCount)
    (action : ButtonAction) (s : PanelState P ω) :
    face other (publishButtonEvent port buttonId action s).2 =
      { face other s with
        done := (face other s).done ++ if buttonId = other then [action] else [] } := by
  have hdone := publish_actions port hbutton hother action s
  unfold face
  rw [hdone, (publish_spec port buttonId action s).1]

theorem face_setDebounce (ticks : UInt8) (s : PanelState P ω) :
    face other (s.setCtx (s.ctx.setDebounce buttonId ticks)) = face other s := rfl

theorem face_pressed (hbutton : buttonId < panelButtonCount) (hother : other < panelButtonCount)
    (s : PanelState P ω) :
    face other (s.setCtx (s.ctx.pressed buttonId)) =
      if buttonId = other then
        { face other s with stable := true, hold := 0, longReported := false }
      else face other s := by
  have hset := isSet_or hbutton hother s.ctx.stableMask
  have hclear := isSet_clear hbutton hother s.ctx.longReportedMask
  unfold face pressed
  simp only [Running.setCtx, hset, hclear, Function.update_apply]
  by_cases hsame : buttonId = other
  · simp only [hsame, decide_true, Bool.true_or, Bool.not_true, Bool.false_and, ↓reduceIte]
    rfl
  · simp only [hsame, decide_false, Bool.false_or, Bool.not_false, Bool.true_and, ↓reduceIte,
      Ne.symm hsame]
    rfl

theorem face_released (hbutton : buttonId < panelButtonCount) (hother : other < panelButtonCount)
    (s : PanelState P ω) :
    face other (s.setCtx (s.ctx.released buttonId)) =
      if buttonId = other then { face other s with stable := false } else face other s := by
  have hclear := isSet_clear hbutton hother s.ctx.stableMask
  unfold face released
  simp only [Running.setCtx, hclear]
  by_cases hsame : buttonId = other
  · simp only [hsame, decide_true, Bool.not_true, Bool.false_and, ↓reduceIte]
    rfl
  · simp only [hsame, decide_false, Bool.not_false, Bool.true_and, ↓reduceIte]
    rfl

theorem face_forgotten (hbutton : buttonId < panelButtonCount) (hother : other < panelButtonCount)
    (s : PanelState P ω) :
    face other (s.setCtx (s.ctx.forgotten buttonId)) =
      if buttonId = other then { face other s with hold := 0, longReported := false }
      else face other s := by
  have hclear := isSet_clear hbutton hother s.ctx.longReportedMask
  unfold face forgotten
  simp only [Running.setCtx, hclear, Function.update_apply]
  by_cases hsame : buttonId = other
  · simp only [hsame, decide_true, Bool.not_true, Bool.false_and, ↓reduceIte]
    rfl
  · simp only [hsame, decide_false, Bool.not_false, Bool.true_and, ↓reduceIte, Ne.symm hsame]
    rfl

theorem face_held (s : PanelState P ω) :
    face other (s.setCtx (s.ctx.held buttonId)) =
      if buttonId = other then
        { face other s with
          hold := if (face other s).hold < 0xFFFF then (face other s).hold + 1
            else (face other s).hold }
      else face other s := by
  by_cases hsame : buttonId = other
  · rw [if_pos hsame, hsame]
    unfold held
    by_cases hroom : s.ctx.holdTicks other < 0xFFFF
    · have hface : (face other s).hold < 0xFFFF := hroom
      rw [if_pos hroom, if_pos hface]
      unfold face
      simp only [Running.setCtx, Function.update_self]
      rfl
    · have hface : ¬(face other s).hold < 0xFFFF := hroom
      rw [if_neg hroom, if_neg hface]
      rfl
  · rw [if_neg hsame]
    unfold held
    split
    · unfold face
      simp only [Running.setCtx, Function.update_of_ne (Ne.symm hsame)]
      rfl
    · rfl

theorem face_longReported (hbutton : buttonId < panelButtonCount) (hother : other < panelButtonCount)
    (s : PanelState P ω) :
    face other (s.setCtx (s.ctx.longReported buttonId)) =
      if buttonId = other then { face other s with longReported := true } else face other s := by
  have hset := isSet_or hbutton hother s.ctx.longReportedMask
  unfold face longReported
  simp only [Running.setCtx, hset]
  by_cases hsame : buttonId = other
  · simp only [hsame, decide_true, Bool.true_or, ↓reduceIte]
    rfl
  · simp only [hsame, decide_false, Bool.false_or, ↓reduceIte]
    rfl

/-- What a step of a scan changes: the face of its own button as `update` says, and nothing else. -/
structure Changes (buttonId : Nat) (update : ButtonFace → ButtonFace) (s t : PanelState P ω) : Prop where
  before : AllDelivered t → AllDelivered s
  raw : t.ctx.rawMask = s.ctx.rawMask ∧ t.ctx.rawValid = s.ctx.rawValid
  faces : ∀ other, other < panelButtonCount → face other t =
    if buttonId = other then update (face other s) else face other s

/-- What a branch of the scan does when its publications succeed. -/
structure Scans (buttonId : Nat) (update : ButtonFace → ButtonFace) (s : PanelState P ω)
    (out : Result × PanelState P ω) : Prop where
  ok : out.1 = .ok
  before : AllDelivered s
  raw : out.2.ctx.rawMask = s.ctx.rawMask ∧ out.2.ctx.rawValid = s.ctx.rawValid
  faces : ∀ other, other < panelButtonCount → face other out.2 =
    if buttonId = other then update (face other s) else face other s

namespace Changes

variable {f g : ButtonFace → ButtonFace} {t u : PanelState P ω}

theorem trans (h : Changes buttonId f s t) (h' : Changes buttonId g t u) :
    Changes buttonId (g ∘ f) s u where
  before hall := h.before (h'.before hall)
  raw := ⟨h'.raw.1.trans h.raw.1, h'.raw.2.trans h.raw.2⟩
  faces other hother := by
    rw [h'.faces other hother, h.faces other hother]
    by_cases hsame : buttonId = other
    · simp only [if_pos hsame, Function.comp_apply]
    · simp only [if_neg hsame]

theorem own (h : Changes buttonId f s t) (hbutton : buttonId < panelButtonCount) :
    face buttonId t = f (face buttonId s) := by
  rw [h.faces buttonId hbutton, if_pos rfl]

/-- Only what the update makes of the button's face matters. -/
theorem scans {out : Result × PanelState P ω} (h : Changes buttonId f s out.2) (hok : out.1 = .ok)
    (hall : AllDelivered out.2) (hface : f (face buttonId s) = g (face buttonId s)) :
    Scans buttonId g s out where
  ok := hok
  before := h.before hall
  raw := h.raw
  faces other hother := by
    rw [h.faces other hother]
    by_cases hsame : buttonId = other
    · rw [if_pos hsame, if_pos hsame, ← hsame, hface]
    · rw [if_neg hsame, if_neg hsame]

end Changes

theorem publish_delivered {action : ButtonAction}
    (h : AllDelivered (publishButtonEvent port buttonId action s).2) :
    (publishButtonEvent port buttonId action s).1 = .ok ∧ AllDelivered s := by
  have hpublished := (publish_spec port buttonId action s).2
  unfold AllDelivered at h
  rw [hpublished] at h
  exact ⟨h _ (List.mem_append_right _ (List.mem_singleton.mpr rfl)),
    fun out hmem => h out (List.mem_append_left _ hmem)⟩

theorem publish_changes (hbutton : buttonId < panelButtonCount) (s : PanelState P ω)
    (action : ButtonAction) :
    Changes buttonId (fun face => { face with done := face.done ++ [action] }) s
      (publishButtonEvent port buttonId action s).2 where
  before hall := (publish_delivered port hall).2
  raw := ⟨rfl, rfl⟩
  faces other hother := by
    rw [face_publish port hbutton hother]
    by_cases hsame : buttonId = other
    · simp only [if_pos hsame]
    · simp only [if_neg hsame, List.append_nil]

theorem pressed_changes (hbutton : buttonId < panelButtonCount) (s : PanelState P ω) :
    Changes buttonId (fun face => { face with stable := true, hold := 0, longReported := false }) s
      (s.setCtx (s.ctx.pressed buttonId)) where
  before hall := hall
  raw := ⟨rfl, rfl⟩
  faces _ hother := face_pressed hbutton hother s

theorem released_changes (hbutton : buttonId < panelButtonCount) (s : PanelState P ω) :
    Changes buttonId (fun face => { face with stable := false }) s
      (s.setCtx (s.ctx.released buttonId)) where
  before hall := hall
  raw := ⟨rfl, rfl⟩
  faces _ hother := face_released hbutton hother s

theorem forgotten_changes (hbutton : buttonId < panelButtonCount) (s : PanelState P ω) :
    Changes buttonId (fun face => { face with hold := 0, longReported := false }) s
      (s.setCtx (s.ctx.forgotten buttonId)) where
  before hall := hall
  raw := ⟨rfl, rfl⟩
  faces _ hother := face_forgotten hbutton hother s

theorem longReported_changes (hbutton : buttonId < panelButtonCount) (s : PanelState P ω) :
    Changes buttonId (fun face => { face with longReported := true }) s
      (s.setCtx (s.ctx.longReported buttonId)) where
  before hall := hall
  raw := ⟨rfl, rfl⟩
  faces _ hother := face_longReported hbutton hother s

/-- The tick counts the hold time, from a debounce count of zero. -/
theorem held_changes (buttonId : Nat) (s : PanelState P ω) :
    Changes buttonId
      (fun face => { face with hold := if face.hold < 0xFFFF then face.hold + 1 else face.hold }) s
      ((s.setCtx (s.ctx.setDebounce buttonId 0)).setCtx
        ((s.setCtx (s.ctx.setDebounce buttonId 0)).ctx.held buttonId)) where
  before hall := hall
  raw := by
    unfold held
    split <;> exact ⟨rfl, rfl⟩
  faces _ _ := face_held (s.setCtx (s.ctx.setDebounce buttonId 0))

theorem setDebounce_changes (ticks : UInt8) (s : PanelState P ω) :
    Changes buttonId id s (s.setCtx (s.ctx.setDebounce buttonId ticks)) where
  before hall := hall
  raw := ⟨rfl, rfl⟩
  faces _ _ := by
    rw [face_setDebounce, id_eq, ite_self]

theorem changeButton_scans (hbutton : buttonId < panelButtonCount) (rawPressed : Bool)
    (h : AllDelivered (changeButton port buttonId rawPressed s).2) :
    Scans buttonId (·.changed rawPressed) s (changeButton port buttonId rawPressed s) := by
  unfold changeButton at h ⊢
  cases rawPressed with
  | true =>
    rw [if_pos rfl] at h ⊢
    have hpress := (pressed_changes hbutton s).trans (publish_changes port hbutton _ .press)
    exact hpress.scans (publish_delivered port h).1 h rfl
  | false =>
    rw [if_neg Bool.false_ne_true] at h ⊢
    have hrelease := (released_changes hbutton s).trans (publish_changes port hbutton _ .release)
    have hresult (hall : AllDelivered
        (publishButtonEvent port buttonId .release (s.setCtx (s.ctx.released buttonId))).2) :=
      (publish_delivered port hall).1
    generalize publishButtonEvent port buttonId .release (s.setCtx (s.ctx.released buttonId)) = release
      at h hrelease hresult ⊢
    have hlong : isSet release.2.ctx.longReportedMask buttonId = (face buttonId s).longReported :=
      congrArg ButtonFace.longReported (hrelease.own hbutton)
    simp only at h ⊢
    by_cases hok : release.1 = .ok
    · rw [if_neg (fun hfailed => hfailed hok)] at h ⊢
      by_cases hshort : release.2.ctx.longReportedMask &&& bit buttonId = 0
      · rw [if_pos hshort] at h ⊢
        have hunreported : (face buttonId s).longReported = false :=
          hlong.symm.trans (decide_eq_false (not_not.mpr hshort))
        have hboth := (hrelease.trans (publish_changes port hbutton release.2 .short)).trans
          (forgotten_changes hbutton _)
        have hlast (hall : AllDelivered (publishButtonEvent port buttonId .short release.2).2) :=
          (publish_delivered port hall).1
        generalize publishButtonEvent port buttonId .short release.2 = short at h hboth hlast ⊢
        refine hboth.scans (hlast h) h ?_
        simp only [Function.comp_apply, ButtonFace.changed, hunreported, Bool.false_eq_true, ↓reduceIte,
          List.append_assoc, List.cons_append, List.nil_append]
      · rw [if_neg hshort] at h ⊢
        have hreported : (face buttonId s).longReported = true :=
          hlong.symm.trans (decide_eq_true hshort)
        refine (hrelease.trans (forgotten_changes hbutton _)).scans hok h ?_
        simp only [Function.comp_apply, ButtonFace.changed, hreported, Bool.false_eq_true, ↓reduceIte]
    · rw [if_pos hok] at h
      exact absurd (hresult h) hok

theorem keepButton_scans (hbutton : buttonId < panelButtonCount)
    (h : AllDelivered (keepButton port buttonId s).2) :
    Scans buttonId (·.kept) s (keepButton port buttonId s) := by
  unfold keepButton at h ⊢
  simp only at h ⊢
  by_cases hdown : (s.setCtx (s.ctx.setDebounce buttonId 0)).ctx.stableMask &&& bit buttonId ≠ 0
  · rw [if_pos hdown] at h ⊢
    have hstable : (face buttonId s).stable = true := decide_eq_true hdown
    have hheld := held_changes buttonId s
    generalize (s.setCtx (s.ctx.setDebounce buttonId 0)).setCtx
      ((s.setCtx (s.ctx.setDebounce buttonId 0)).ctx.held buttonId) = t at h hheld ⊢
    have hface := hheld.own hbutton
    have hlong : isSet t.ctx.longReportedMask buttonId = _ := congrArg ButtonFace.longReported hface
    have hhold : t.ctx.holdTicks buttonId = _ := congrArg ButtonFace.hold hface
    simp only at hlong hhold
    have hreport : panelLongPressTicks ≤ t.ctx.holdTicks buttonId ∧
        t.ctx.longReportedMask &&& bit buttonId = 0 ↔
        panelLongPressTicks ≤ (if (face buttonId s).hold < 0xFFFF then (face buttonId s).hold + 1
          else (face buttonId s).hold) ∧ (face buttonId s).longReported = false := by
      rw [hhold, ← hlong, isSet, decide_eq_false_iff_not, not_not]
    by_cases hdue : panelLongPressTicks ≤ t.ctx.holdTicks buttonId ∧
        t.ctx.longReportedMask &&& bit buttonId = 0
    · rw [if_pos hdue] at h ⊢
      have hpublish := publish_changes port hbutton t .long
      have hresult (hall : AllDelivered (publishButtonEvent port buttonId .long t).2) :=
        (publish_delivered port hall).1
      generalize publishButtonEvent port buttonId .long t = long at h hpublish hresult ⊢
      by_cases hok : long.1 = .ok
      · rw [if_neg (fun hfailed => hfailed hok)] at h ⊢
        have hall := (hheld.trans hpublish).trans (longReported_changes hbutton long.2)
        refine hall.scans rfl h ?_
        simp only [Function.comp_apply, ButtonFace.kept, hstable, ↓reduceIte, if_pos (hreport.mp hdue)]
      · rw [if_pos hok] at h
        exact absurd (hresult h) hok
    · rw [if_neg hdue] at h ⊢
      refine hheld.scans rfl h ?_
      simp only [ButtonFace.kept, hstable, ↓reduceIte, if_neg fun hnow => hdue (hreport.mpr hnow)]
  · rw [if_neg hdown] at h ⊢
    have hstable : (face buttonId s).stable = false := decide_eq_false hdown
    refine (setDebounce_changes 0 s).scans rfl h ?_
    rw [id_eq, ButtonFace.kept, hstable, if_neg Bool.false_ne_true]

theorem debounced (ticks : UInt8) :
    panelDebounceTicks ≤ if ticks < 0xFF then ticks + 1 else ticks := by
  have hall : ∀ n, n < 256 → panelDebounceTicks ≤
      if UInt8.ofNat n < 0xFF then UInt8.ofNat n + 1 else UInt8.ofNat n := by
    decide +kernel
  have hticks := hall ticks.toNat ticks.toNat_lt
  rwa [UInt8.ofNat_toNat] at hticks

theorem scanButton_scans (hbutton : buttonId < panelButtonCount)
    (h : AllDelivered (scanButton port buttonId s).2) :
    Scans buttonId (·.scanned (isSet s.ctx.rawMask buttonId)) s (scanButton port buttonId s) := by
  have hraw : decide (s.ctx.rawMask &&& bit buttonId ≠ 0) = isSet s.ctx.rawMask buttonId := rfl
  have hstable : decide (s.ctx.stableMask &&& bit buttonId ≠ 0) = (face buttonId s).stable := rfl
  unfold scanButton at h ⊢
  simp only [hraw, hstable] at h ⊢
  by_cases hdiffers : isSet s.ctx.rawMask buttonId ≠ (face buttonId s).stable
  · rw [if_pos hdiffers, if_pos (debounced _)] at h ⊢
    have hchanged := changeButton_scans port hbutton _ h
    refine ⟨hchanged.ok, hchanged.before, hchanged.raw, fun other hother => ?_⟩
    refine (hchanged.faces other hother).trans ?_
    rw [face_setDebounce]
    by_cases hsame : buttonId = other
    · rw [if_pos hsame, if_pos hsame, ButtonFace.scanned, if_pos (by rw [← hsame]; exact hdiffers)]
    · rw [if_neg hsame, if_neg hsame]
  · rw [if_neg hdiffers] at h ⊢
    have hkept := keepButton_scans port hbutton h
    refine ⟨hkept.ok, hkept.before, hkept.raw, fun other hother => ?_⟩
    refine (hkept.faces other hother).trans ?_
    by_cases hsame : buttonId = other
    · rw [if_pos hsame, if_pos hsame, ButtonFace.scanned, if_neg (by rw [← hsame]; exact hdiffers)]
    · rw [if_neg hsame, if_neg hsame]

theorem scanButtons_scans (buttons : List Nat) :
    ∀ s : PanelState P ω, (∀ b ∈ buttons, b < panelButtonCount) → buttons.Nodup →
      AllDelivered (scanButtons port buttons s).2 →
      (scanButtons port buttons s).2.ctx.rawMask = s.ctx.rawMask ∧
        (scanButtons port buttons s).2.ctx.rawValid = s.ctx.rawValid ∧ AllDelivered s ∧
        ∀ other, other < panelButtonCount → face other (scanButtons port buttons s).2 =
          if other ∈ buttons then (face other s).scanned (isSet s.ctx.rawMask other)
          else face other s := by
  induction buttons with
  | nil =>
    intro s _ _ h
    refine ⟨rfl, rfl, h, fun other _ => ?_⟩
    rw [if_neg List.not_mem_nil]
    rfl
  | cons buttonId rest ih =>
    intro s hbuttons hnodup h
    obtain ⟨hnotin, hrest⟩ := List.nodup_cons.mp hnodup
    have hbutton := hbuttons buttonId List.mem_cons_self
    have hscans (hall : AllDelivered (scanButton port buttonId s).2) :=
      scanButton_scans port hbutton hall
    unfold scanButtons at h ⊢
    simp only at h ⊢
    by_cases hok : (scanButton port buttonId s).1 = .ok
    · rw [if_neg (fun hfailed => hfailed hok)] at h ⊢
      obtain ⟨hmask, hvalid, hdelivered, hfaces⟩ :=
        ih _ (fun b hb => hbuttons b (List.mem_cons_of_mem _ hb)) hrest h
      have hone := hscans hdelivered
      refine ⟨hmask.trans hone.raw.1, hvalid.trans hone.raw.2, hone.before, fun other hother => ?_⟩
      rw [hfaces other hother, hone.faces other hother, hone.raw.1]
      by_cases hsame : buttonId = other
      · rw [← hsame, if_neg hnotin, if_pos rfl, if_pos List.mem_cons_self]
      · rw [if_neg hsame]
        by_cases hlater : other ∈ rest
        · rw [if_pos hlater, if_pos (List.mem_cons_of_mem _ hlater)]
        · rw [if_neg hlater, if_neg]
          intro hmem
          rcases List.mem_cons.mp hmem with heq | hmem'
          · exact hsame heq.symm
          · exact hlater hmem'
    · rw [if_pos hok] at h
      exact absurd (hscans h).ok hok

end Scan

end PanelActor

end EventFramework
