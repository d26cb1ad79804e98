import EventFramework.Actors.PanelButtons

/-!
# What the panel reports of a button

The actor carries four independent buttons: each face follows a button of its own, and what is
published of it is what that button does.
-/

namespace EventFramework
set_option autoImplicit false

variable {P ω : Type}

namespace PanelActor

namespace ButtonFace

/-- The counter of the ticks saturates. -/
def Counts (face : ButtonFace) (ticks : Nat) : Prop :=
  face.stable = true ∧ face.hold.toNat = min ticks 0xFFFF ∧
    face.longReported = decide (Button.longPressTicks ≤ ticks)

structure Shows (face : ButtonFace) (run : Button × List ButtonAction) : Prop where
  level : face.level = run.1.level
  done : face.done = run.2
  up : run.1.held = none → face.stable = false
  down : ∀ ticks, run.1.held = some ticks → face.Counts ticks

def told (face : ButtonFace) : ButtonInput → ButtonFace
  | .level pressed => { face with level := some pressed }
  | .tick =>
    match face.level with
    | some pressed => face.scanned pressed
    | none => face
  | .other => face

theorem hold_step {hold : UInt16} {ticks : Nat} (h : hold.toNat = min ticks 0xFFFF) :
    (if hold < 0xFFFF then hold + 1 else hold).toNat = min (ticks + 1) 0xFFFF := by
  have hlt : hold < 0xFFFF ↔ hold.toNat < 0xFFFF := UInt16.lt_iff_toNat_lt
  by_cases hroom : hold < 0xFFFF
  · rw [if_pos hroom]
    have hnat := hlt.mp hroom
    rw [UInt16.toNat_add, show (1 : UInt16).toNat = 1 from rfl]
    omega
  · rw [if_neg hroom]
    have hnat : ¬hold.toNat < 0xFFFF := fun h => hroom (hlt.mpr h)
    omega

theorem kept_counts {face : ButtonFace} {ticks : Nat} (h : face.Counts ticks) :
    face.kept.Counts (ticks + 1) ∧ face.kept.level = face.level ∧
      face.kept.done = face.done ++ if ticks + 1 = Button.longPressTicks then [.long] else [] := by
  obtain ⟨hstable, hhold, hlong⟩ := h
  have hnext := hold_step hhold
  unfold kept
  simp only [if_pos hstable]
  generalize (if face.hold < 0xFFFF then face.hold + 1 else face.hold) = hold at hnext ⊢
  have hticks : panelLongPressTicks ≤ hold ↔ Button.longPressTicks ≤ ticks + 1 := by
    rw [UInt16.le_iff_toNat_le, hnext, show panelLongPressTicks.toNat = Button.longPressTicks from rfl,
      show Button.longPressTicks = 10 from rfl]
    omega
  have hunreported : face.longReported = false ↔ ¬Button.longPressTicks ≤ ticks := by
    rw [hlong, decide_eq_false_iff_not]
  by_cases hdue : ticks + 1 = Button.longPressTicks
  · have hreport : panelLongPressTicks ≤ hold ∧ face.longReported = false :=
      ⟨hticks.mpr (by omega), hunreported.mpr (by omega)⟩
    rw [if_pos hreport, if_pos hdue]
    refine ⟨⟨hstable, hnext, ?_⟩, rfl, rfl⟩
    exact (decide_eq_true (by omega)).symm
  · have hquiet : ¬(panelLongPressTicks ≤ hold ∧ face.longReported = false) := by
      rintro ⟨hreached, hfirst⟩
      have hnow := hticks.mp hreached
      have hbefore := hunreported.mp hfirst
      omega
    rw [if_neg hquiet, if_neg hdue, List.append_nil]
    refine ⟨⟨hstable, hnext, ?_⟩, rfl, rfl⟩
    rw [hlong, decide_eq_decide]
    omega

theorem Shows.scanned {face : ButtonFace} {level : Bool} {held : Option Nat}
    {actions : List ButtonAction} (h : face.Shows (⟨some level, held⟩, actions)) :
    (face.scanned level).Shows
      (Button.next ⟨some level, held⟩ .tick, actions ++ Button.reactTick ⟨some level, held⟩) := by
  obtain ⟨hlevel, hdone, hup, hdown⟩ := h
  simp only at hlevel hdone hup hdown
  unfold ButtonFace.scanned
  cases held with
  | none =>
    have hstable := hup rfl
    cases level with
    | true =>
      rw [hstable, if_pos (Ne.symm Bool.false_ne_true), ButtonFace.changed, if_pos rfl]
      refine ⟨hlevel, congrArg (· ++ [.press]) hdone, (fun hheld => by cases hheld), ?_⟩
      rintro ticks hticks
      cases Option.some.inj hticks
      exact ⟨rfl, rfl, rfl⟩
    | false =>
      rw [hstable, if_neg (fun hdiffers => hdiffers rfl), ButtonFace.kept, hstable,
        if_neg Bool.false_ne_true]
      refine ⟨hlevel, ?_, fun _ => hstable, fun ticks hticks => by cases hticks⟩
      exact hdone.trans (List.append_nil _).symm
  | some ticks =>
    have hcounts := hdown ticks rfl
    cases level with
    | true =>
      obtain ⟨hkept, hsame, hmore⟩ := kept_counts hcounts
      rw [hcounts.1, if_neg (fun hdiffers => hdiffers rfl)]
      refine ⟨hsame.trans hlevel, hmore.trans (by rw [hdone]; rfl), (fun hheld => by cases hheld), ?_⟩
      intro ticks' hticks
      cases Option.some.inj hticks
      exact hkept
    | false =>
      obtain ⟨hstable, hhold, hlong⟩ := hcounts
      rw [hstable, if_pos Bool.false_ne_true, ButtonFace.changed, if_neg Bool.false_ne_true]
      refine ⟨hlevel, ?_, fun _ => rfl, fun ticks hticks => by cases hticks⟩
      simp only [hdone, Button.reactTick, hlong]
      by_cases hshort : ticks < Button.longPressTicks
      · rw [if_pos hshort, decide_eq_false (Nat.not_le.mpr hshort), if_neg Bool.false_ne_true]
      · rw [if_neg hshort, decide_eq_true (Nat.not_lt.mp hshort), if_pos rfl]

theorem Shows.told {face : ButtonFace} {button : Button} {actions : List ButtonAction}
    (h : face.Shows (button, actions)) (input : ButtonInput) :
    (face.told input).Shows (button.next input, actions ++ button.react input) := by
  cases input with
  | level pressed =>
    refine ⟨rfl, h.done.trans (List.append_nil _).symm, h.up, h.down⟩
  | other =>
    refine ⟨h.level, h.done.trans (List.append_nil _).symm, h.up, h.down⟩
  | tick =>
    obtain ⟨level, held⟩ := button
    have hlevel : face.level = level := h.level
    unfold ButtonFace.told
    rw [hlevel]
    cases level with
    | none =>
      have hnothing : actions ++ Button.react ⟨none, held⟩ .tick = actions := by
        rw [Button.react, show Button.reactTick ⟨none, held⟩ = [] by simp [Button.reactTick],
          List.append_nil]
      rw [hnothing]
      exact h
    | some pressed => exact h.scanned

end ButtonFace

section Runs

variable (port : ActorPort P ω)

theorem face_note (buttonId : Nat) (s : PanelState P ω) (event : ActorEvent P Empty)
    (hquiet : event.publication? = none) : face buttonId (s.note event) = face buttonId s := by
  have hpublished : (s.note event).publications = s.publications := by
    rw [Running.publications_note, List.filterMap_cons_none hquiet, List.filterMap_nil,
      List.append_nil]
  have hdone : actions buttonId (s.note event) = actions buttonId s := by
    rw [actions, hpublished]
    rfl
  unfold face
  rw [hdone]
  rfl

theorem delivered_note {s : PanelState P ω} {event : ActorEvent P Empty}
    (h : AllDelivered (s.note event)) : AllDelivered s := by
  intro out hmem
  apply h
  rw [Running.publications_note]
  exact List.mem_append_left _ hmem

/-- Handling a message tells every button its input. -/
def Tells (s t : PanelState P ω) (msg : Inbound) : Prop :=
  AllDelivered s ∧ ∀ buttonId, buttonId < panelButtonCount →
    face buttonId t = (face buttonId s).told (buttonInput buttonId msg)

theorem inputsChanged_tells (s : PanelState P ω) (msg : Inbound)
    (hevent : msg.eventId = .mcp23008InputChanged) (h : AllDelivered (handleInputsChanged s msg).2) :
    Tells s (handleInputsChanged s msg).2 msg := by
  have hview (buttonId : Nat) : buttonInput buttonId msg =
      match msg.payload with
      | some payload =>
        if msg.payloadSize = 2 then .level (isSet (payload 0) buttonId) else .other
      | none => .other := by
    rw [buttonInput, hevent]
    cases msg.payload with
    | none => rfl
    | some payload => rfl
  unfold handleInputsChanged at h ⊢
  cases hpayload : msg.payload with
  | none =>
    refine ⟨by rwa [hpayload] at h, fun buttonId hbutton => ?_⟩
    rw [hview, hpayload]
    rfl
  | some payload =>
    rw [hpayload] at h
    simp only at h ⊢
    by_cases hsize : msg.payloadSize = 2
    · rw [if_neg (fun hne => hne hsize)] at h ⊢
      refine ⟨h, fun buttonId hbutton => ?_⟩
      have hmask := isSet_buttonMask hbutton (payload 0)
      rw [hview, hpayload]
      simp only [if_pos hsize, ButtonFace.told, face, Running.setCtx, if_pos, hmask]
      rfl
    · rw [if_pos hsize] at h ⊢
      refine ⟨h, fun buttonId hbutton => ?_⟩
      rw [hview, hpayload]
      simp only [if_neg hsize]
      rfl

theorem tick_tells (s : PanelState P ω) (msg : Inbound) (hevent : msg.eventId = .tick100ms)
    (h : AllDelivered (handleTick port s).2) : Tells s (handleTick port s).2 msg := by
  have hview (buttonId : Nat) : buttonInput buttonId msg = .tick := by
    rw [buttonInput, hevent]
  unfold handleTick at h ⊢
  by_cases hvalid : s.ctx.rawValid
  · rw [hvalid, Bool.not_true, if_neg Bool.false_ne_true] at h ⊢
    obtain ⟨_, _, hbefore, hfaces⟩ := scanButtons_scans port (List.range panelButtonCount) s
      (fun b hb => List.mem_range.mp hb) List.nodup_range h
    refine ⟨hbefore, fun buttonId hbutton => ?_⟩
    rw [hfaces buttonId hbutton, if_pos (List.mem_range.mpr hbutton), hview]
    unfold ButtonFace.told
    simp only [face, if_pos hvalid]
  · rw [Bool.eq_false_iff.mpr hvalid, Bool.not_false, if_pos rfl] at h ⊢
    refine ⟨h, fun buttonId hbutton => ?_⟩
    rw [hview]
    unfold ButtonFace.told
    simp only [face, if_neg hvalid]

theorem handle_tells (s : PanelState P ω) (msg : Inbound) (h : AllDelivered (handle port s msg).2) :
    Tells s (handle port s msg).2 msg := by
  unfold handle at h ⊢
  split at h
  · rename_i hevent
    exact inputsChanged_tells s msg hevent h
  · rename_i hevent
    exact tick_tells port s msg hevent h
  · rename_i hchanged htick
    refine ⟨h, fun buttonId hbutton => ?_⟩
    have hview : buttonInput buttonId msg = .other := by
      unfold buttonInput
      split
      · exact absurd (by assumption) hchanged
      · exact absurd (by assumption) htick
      · rfl
    rw [hview]
    rfl

theorem step_tells (s : PanelState P ω) (msg : Inbound) (h : AllDelivered (step port s msg)) :
    Tells s (step port s msg) msg := by
  unfold step Running.step at h ⊢
  simp only at h ⊢
  obtain ⟨hbefore, hfaces⟩ := handle_tells port (s.note (.received msg)) msg (delivered_note h)
  refine ⟨delivered_note hbefore, fun buttonId hbutton => ?_⟩
  rw [face_note buttonId _ _ rfl, hfaces buttonId hbutton, face_note buttonId _ _ rfl]

theorem delivered_earlier {s : PanelState P ω} {msgs more : List Inbound}
    (h : AllDelivered (Machine.run (step port) s (msgs ++ more))) :
    AllDelivered (Machine.run (step port) s msgs) := by
  induction more using List.reverseRecOn with
  | nil =>
    rw [List.append_nil] at h
    exact h
  | append_singleton more msg ih =>
    rw [← List.append_assoc, Machine.run_append, Machine.run_cons, Machine.run_nil] at h
    exact ih (step_tells port _ msg h).1

/-- The button that the messages run, by itself. -/
def buttonRun (buttonId : Nat) (msgs : List Inbound) : Button × List ButtonAction :=
  Machine.run (Button.step (buttonInput buttonId)) ({}, []) msgs

theorem buttonRun_snoc (buttonId : Nat) (msgs : List Inbound) (msg : Inbound) :
    buttonRun buttonId (msgs ++ [msg]) =
      Button.step (buttonInput buttonId) (buttonRun buttonId msgs) msg := by
  rw [buttonRun, Machine.run_append]
  rfl

theorem run_shows (outside : ω) {buttonId : Nat} (hbutton : buttonId < panelButtonCount)
    (msgs : List Inbound) (h : AllDelivered (Machine.run (step port) (start outside) msgs)) :
    (face buttonId (Machine.run (step port) (start outside) msgs)).Shows (buttonRun buttonId msgs) := by
  induction msgs using List.reverseRecOn with
  | nil =>
    refine ⟨rfl, rfl, fun _ => ?_, fun ticks hticks => by cases hticks⟩
    change isSet 0 buttonId = false
    rw [isSet, UInt8.zero_and]
    rfl
  | append_singleton msgs msg ih =>
    have hbefore := ih (delivered_earlier port h)
    rw [buttonRun_snoc]
    rw [Machine.run_append, Machine.run_cons, Machine.run_nil] at h ⊢
    rw [(step_tells port _ msg h).2 buttonId hbutton]
    exact ButtonFace.Shows.told hbefore (buttonInput buttonId msg)

theorem actions_run (outside : ω) {buttonId : Nat} (hbutton : buttonId < panelButtonCount)
    {msgs : List Inbound} (h : AllDelivered (Machine.run (step port) (start outside) msgs)) :
    actions buttonId (Machine.run (step port) (start outside) msgs) = (buttonRun buttonId msgs).2 :=
  (run_shows port outside hbutton msgs h).done

/-- The button's view of the messages is all that it depends on. -/
theorem buttonRun_congr {buttonId : Nat} {msgs msgs' : List Inbound}
    (h : msgs.map (buttonInput buttonId) = msgs'.map (buttonInput buttonId)) :
    buttonRun buttonId msgs = buttonRun buttonId msgs' := by
  have hview (msgs : List Inbound) : buttonRun buttonId msgs =
      Machine.run (Button.step id) ({}, []) (msgs.map (buttonInput buttonId)) := by
    unfold buttonRun Machine.run
    rw [List.foldl_map]
    rfl
  rw [hview, hview, h]

def Publishes (buttonId : Nat) (action : ButtonAction) (s : PanelState P ω) (msg : Inbound) : Prop :=
  ∃ more, actions buttonId (step port s msg) = actions buttonId s ++ more ∧ action ∈ more

theorem publishes_iff (outside : ω) {buttonId : Nat} (hbutton : buttonId < panelButtonCount)
    {msgs : List Inbound} {msg : Inbound}
    (h : AllDelivered (Machine.run (step port) (start outside) (msgs ++ [msg])))
    (action : ButtonAction) :
    Publishes port buttonId action (Machine.run (step port) (start outside) msgs) msg ↔
      action ∈ (buttonRun buttonId msgs).1.react (buttonInput buttonId msg) := by
  have hlater := actions_run port outside hbutton h
  rw [buttonRun_snoc, Machine.run_append, Machine.run_cons, Machine.run_nil] at hlater
  have hearlier := actions_run port outside hbutton (delivered_earlier port h)
  unfold Publishes
  rw [hlater, hearlier]
  constructor
  · rintro ⟨more, hmore, hmem⟩
    rwa [← List.append_cancel_left hmore] at hmem
  · exact fun hmem => ⟨_, rfl, hmem⟩

/-- The button was pressed, has not been released since, and this message completes the ticks of
a long press. -/
def LongPressed (outside : ω) (buttonId : Nat) (msgs : List Inbound) (msg : Inbound) : Prop :=
  msg.eventId = .tick100ms ∧ ∃ before press between, msgs = before ++ press :: between ∧
    Publishes port buttonId .press (Machine.run (step port) (start outside) before) press ∧
    Machine.Each (step port) (fun s next => ¬Publishes port buttonId .release s next)
      (Machine.run (step port) (start outside) (before ++ [press])) (between ++ [msg]) ∧
    (between ++ [msg]).countP (fun next => next.eventId = .tick100ms) = panelLongPressTicks.toNat

theorem isTick_eq (buttonId : Nat) (msg : Inbound) :
    Button.isTick (buttonInput buttonId) msg = decide (msg.eventId = .tick100ms) := by
  unfold Button.isTick
  rw [decide_eq_decide]
  constructor
  · intro htick
    unfold buttonInput at htick
    split at htick
    · split at htick
      · cases htick
      · cases htick
    · rename_i hevent
      exact hevent
    · cases htick
  · intro hevent
    rw [buttonInput, hevent]

theorem longPressed_iff (outside : ω) {buttonId : Nat} (hbutton : buttonId < panelButtonCount)
    {msgs : List Inbound} {msg : Inbound}
    (h : AllDelivered (Machine.run (step port) (start outside) (msgs ++ [msg]))) :
    LongPressed port outside buttonId msgs msg ↔
      buttonInput buttonId msg = .tick ∧ Button.LongDue (buttonInput buttonId) msgs msg := by
  have htick : buttonInput buttonId msg = .tick ↔ msg.eventId = .tick100ms :=
    decide_eq_decide.mp (isTick_eq buttonId msg)
  have hcount (l : List Inbound) :
      l.countP (fun next => next.eventId = .tick100ms) = l.countP (Button.isTick (buttonInput buttonId)) :=
    congrArg (l.countP ·) (funext fun next => (isTick_eq buttonId next).symm)
  unfold LongPressed Button.LongDue
  rw [← htick]
  refine and_congr_right fun _ => exists_congr fun before => exists_congr fun press =>
    exists_congr fun between => and_congr_right fun hsplit => ?_
  have hwhole : msgs ++ [msg] = before ++ [press] ++ (between ++ [msg]) := by
    rw [hsplit]
    simp
  have hpress : AllDelivered (Machine.run (step port) (start outside) (before ++ [press])) := by
    rw [hwhole] at h
    exact delivered_earlier port h
  refine and_congr (publishes_iff port outside hbutton hpress .press) (and_congr ?_ (by rw [hcount]; rfl))
  unfold Machine.Each
  refine forall_congr' fun earlier => forall_congr' fun next => forall_congr' fun hpre => ?_
  obtain ⟨rest, hrest⟩ := hpre
  have hstep : AllDelivered
      (Machine.run (step port) (start outside) (before ++ [press] ++ earlier ++ [next])) := by
    rw [hwhole, ← hrest, ← List.append_assoc, ← List.append_assoc] at h
    exact delivered_earlier port h
  have hiff := publishes_iff port outside hbutton hstep .release
  rw [Machine.run_append _ _ (before ++ [press]), buttonRun,
    Machine.run_append _ _ (before ++ [press])] at hiff
  exact not_congr hiff

/-- What is published of a button begins a list of cycles, reports a long press on the tick that
completes it and on no other message, and is the same in every run with the same bits and ticks. -/
theorem button_grammar (outside : ω) {buttonId : Nat} (hbutton : buttonId < panelButtonCount)
    (msgs : List Inbound) (h : AllDelivered (Machine.run (step port) (start outside) msgs)) :
    (∃ full, Button.Cycles full ∧
      actions buttonId (Machine.run (step port) (start outside) msgs) <+: full) ∧
    (∀ before msg, before ++ [msg] <+: msgs →
      (Publishes port buttonId .long (Machine.run (step port) (start outside) before) msg ↔
        LongPressed port outside buttonId before msg)) ∧
    (∀ (port' : ActorPort P ω) (outside' : ω) (msgs' : List Inbound),
      AllDelivered (Machine.run (step port') (start outside') msgs') →
      msgs.map (buttonInput buttonId) = msgs'.map (buttonInput buttonId) →
      actions buttonId (Machine.run (step port) (start outside) msgs) =
        actions buttonId (Machine.run (step port') (start outside') msgs')) := by
  refine ⟨?_, ?_, ?_⟩
  · rw [actions_run port outside hbutton h]
    have hrun : Button.Consistent (buttonRun buttonId msgs) :=
      (Machine.always_of_step (Button.step_consistent _)
        (show Button.Consistent ({}, []) from Button.Cycles.nil) msgs).last
    exact hrun.grammar
  · rintro before msg ⟨after, hafter⟩
    rw [← hafter] at h
    have hstep := delivered_earlier port h
    rw [publishes_iff port outside hbutton hstep, longPressed_iff port outside hbutton hstep]
    exact Button.long_iff before msg
  · intro port' outside' msgs' h' hsame
    rw [actions_run port outside hbutton h, actions_run port' outside' hbutton h',
      buttonRun_congr hsame]

def deliveringPort : ActorPort Unit Unit where
  routes := RouteTable.generated
  deliver := fun _ _ w => (.ok, w)

def inputChanged (mask : UInt8) : Inbound where
  eventId := .mcp23008InputChanged
  payload := some fun i => if i = 0 then mask else 0
  payloadSize := 2

/-- The third button is pressed and let go while the first one stays down. -/
theorem button_grammar_pressed :
    let msgs := [inputChanged 5, { eventId := .tick100ms }, inputChanged 1, { eventId := .tick100ms }]
    let s := Machine.run (step deliveringPort) (start ()) msgs
    actions 2 s = [.press, .release, .short] ∧ ∃ full, Button.Cycles full ∧ actions 2 s <+: full := by
  refine ⟨by decide +kernel, ?_⟩
  apply And.left
  apply button_grammar deliveringPort () (show 2 < panelButtonCount by decide)
  unfold AllDelivered
  decide +kernel

end Runs

end PanelActor

end EventFramework
