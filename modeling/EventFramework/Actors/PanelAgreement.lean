import EventFramework.Actors.PanelGrammar

/-!
# Presses that are not delivered

The panel actor changes the stable state of a button before it publishes the press or the release.
The stable mask is what the consumers were told as long as each of those publications succeeds; one
that fails is not repeated.
-/

namespace EventFramework
set_option autoImplicit false

variable {P ω : Type}

def ButtonAction.edge? : ButtonAction → Option Bool
  | .press => some true
  | .release => some false
  | _ => none

namespace PanelActor

/-- What a publication told the consumers of the stable state of a button. -/
def toldEdge (buttonId : Nat) (out : Msg P × Result) : Option Bool :=
  if out.2 = .ok then (actionOf buttonId out.1).bind ButtonAction.edge? else none

/-- The last press or release of the button that was published with `EV_OK` is a press. -/
def announced (buttonId : Nat) (s : PanelState P ω) : Bool :=
  (s.publications.filterMap (toldEdge buttonId)).getLast?.getD false

/-- Each button is stably pressed just when the consumers were told so. -/
def Agrees (s : PanelState P ω) : Prop :=
  ∀ buttonId, buttonId < panelButtonCount → isSet s.ctx.stableMask buttonId = announced buttonId s

/-- Every press and every release was published with `EV_OK`. -/
def EdgesDelivered (s : PanelState P ω) : Prop :=
  ∀ buttonId, buttonId < panelButtonCount → ∀ out ∈ s.publications,
    ((actionOf buttonId out.1).bind ButtonAction.edge?).isSome = true → out.2 = .ok

/-- What a part of the scan leaves: every edge delivered and the masks in agreement, or an error, an
edge not delivered and a button that disagrees. -/
def Settles (out : Result × PanelState P ω) : Prop :=
  (Agrees out.2 ∧ EdgesDelivered out.2) ∨ (out.1 ≠ .ok ∧ ¬Agrees out.2 ∧ ¬EdgesDelivered out.2)

section Publications

variable (port : ActorPort P ω) {buttonId other : Nat}

theorem announced_publish (hbutton : buttonId < panelButtonCount) (hother : other < panelButtonCount)
    (action : ButtonAction) (s : PanelState P ω) :
    announced other (publishButtonEvent port buttonId action s).2 =
      if buttonId = other ∧ (publishButtonEvent port buttonId action s).1 = .ok then
        action.edge?.getD (announced other s)
      else announced other s := by
  have haction := actionOf_buttonMsg (P := P) hbutton hother action
  rw [announced, (publish_spec port buttonId action s).2, List.filterMap_append]
  generalize (publishButtonEvent port buttonId action s).1 = rc
  by_cases htold : buttonId = other ∧ rc = .ok
  · rw [if_pos htold]
    have hheard : toldEdge other (buttonMsg (P := P) buttonId action, rc) = action.edge? := by
      unfold toldEdge
      rw [if_pos htold.2, haction, if_pos htold.1]
      rfl
    cases hedge : action.edge? with
    | none => simp [hheard, hedge, announced]
    | some pressed => simp [hheard, hedge]
  · rw [if_neg htold]
    have hsilent : toldEdge other (buttonMsg (P := P) buttonId action, rc) = none := by
      unfold toldEdge
      split
      · rename_i hok
        rw [haction, if_neg fun hsame => htold ⟨hsame, hok⟩]
        rfl
      · rfl
    simp [hsilent, announced]

/-- A publication keeps the edges delivered unless it is an edge that fails. -/
theorem edgesDelivered_publish (hbutton : buttonId < panelButtonCount) (action : ButtonAction)
    (s : PanelState P ω) :
    EdgesDelivered (publishButtonEvent port buttonId action s).2 ↔
      EdgesDelivered s ∧
        (action.edge?.isSome = true → (publishButtonEvent port buttonId action s).1 = .ok) := by
  have hpublished := (publish_spec port buttonId action s).2
  constructor
  · intro h
    refine ⟨fun other hother out hout => h other hother out ?_, fun hedge => ?_⟩
    · rw [hpublished]
      exact List.mem_append_left _ hout
    · apply h buttonId hbutton (buttonMsg buttonId action, _)
      · rw [hpublished]
        exact List.mem_append_right _ (List.mem_singleton.mpr rfl)
      · rw [actionOf_buttonMsg hbutton hbutton, if_pos rfl]
        exact hedge
  · rintro ⟨hbefore, hsent⟩ other hother out hout hedge
    rw [hpublished] at hout
    rcases List.mem_append.mp hout with hold | hnew
    · exact hbefore other hother out hold hedge
    · rw [List.mem_singleton.mp hnew] at hedge ⊢
      rw [actionOf_buttonMsg hbutton hother] at hedge
      split at hedge
      · exact hsent hedge
      · cases hedge

theorem publish_settles (hbutton : buttonId < panelButtonCount) {action : ButtonAction}
    (hquiet : action.edge? = none) {s : PanelState P ω} (hagrees : Agrees s)
    (hdelivered : EdgesDelivered s) :
    Agrees (publishButtonEvent port buttonId action s).2 ∧
      EdgesDelivered (publishButtonEvent port buttonId action s).2 := by
  constructor
  · intro other hother
    rw [announced_publish port hbutton hother, hquiet, (publish_spec port buttonId action s).1]
    split <;> exact hagrees other hother
  · rw [edgesDelivered_publish port hbutton, hquiet]
    exact ⟨hdelivered, fun hedge => by cases hedge⟩

theorem publish_edge (hbutton : buttonId < panelButtonCount) {action : ButtonAction} {pressed : Bool}
    (hedge : action.edge? = some pressed) {s t : PanelState P ω} (hagrees : Agrees s)
    (hdelivered : EdgesDelivered s) (hpublications : t.publications = s.publications)
    (hdiffers : pressed ≠ isSet s.ctx.stableMask buttonId)
    (hstable : ∀ other, other < panelButtonCount → isSet t.ctx.stableMask other =
      if buttonId = other then pressed else isSet s.ctx.stableMask other) :
    Settles (publishButtonEvent port buttonId action t) := by
  have hannounced (other : Nat) : announced other t = announced other s := by
    rw [announced, hpublications, announced]
  have hbefore : EdgesDelivered t := by
    rw [EdgesDelivered, hpublications]
    exact hdelivered
  have hctx := (publish_spec port buttonId action t).1
  by_cases hok : (publishButtonEvent port buttonId action t).1 = .ok
  · left
    refine ⟨fun other hother => ?_, (edgesDelivered_publish port hbutton action t).mpr
      ⟨hbefore, fun _ => hok⟩⟩
    rw [hctx, hstable other hother, announced_publish port hbutton hother, hedge, hannounced]
    by_cases hsame : buttonId = other
    · rw [if_pos hsame, if_pos ⟨hsame, hok⟩]
      rfl
    · rw [if_neg hsame, if_neg fun h => hsame h.1]
      exact hagrees other hother
  · right
    refine ⟨hok, fun h => ?_, fun h => ?_⟩
    · have hself := h buttonId hbutton
      rw [hctx, hstable buttonId hbutton, if_pos rfl, announced_publish port hbutton hbutton,
        if_neg fun h => hok h.2, hannounced, ← hagrees buttonId hbutton] at hself
      exact hdiffers hself
    · apply hok
      apply ((edgesDelivered_publish port hbutton action t).mp h).2
      rw [hedge]
      rfl

end Publications

section Scan

variable (port : ActorPort P ω) {buttonId : Nat} {s : PanelState P ω}

/-- The publications and the stable mask are all that the agreement reads. -/
theorem settled_congr {t : PanelState P ω} (hpublications : t.publications = s.publications)
    (hstable : t.ctx.stableMask = s.ctx.stableMask) (h : Agrees s ∧ EdgesDelivered s) :
    Agrees t ∧ EdgesDelivered t := by
  refine ⟨fun buttonId hbutton => ?_, ?_⟩
  · rw [hstable, announced, hpublications]
    exact h.1 buttonId hbutton
  · rw [EdgesDelivered, hpublications]
    exact h.2

theorem changeButton_settles (hbutton : buttonId < panelButtonCount) {rawPressed : Bool}
    (hdiffers : rawPressed ≠ isSet s.ctx.stableMask buttonId) (hagrees : Agrees s)
    (hdelivered : EdgesDelivered s) : Settles (changeButton port buttonId rawPressed s) := by
  unfold changeButton
  cases rawPressed with
  | true =>
    rw [if_pos rfl]
    have hpress : ButtonAction.press.edge? = some true := rfl
    refine publish_edge port hbutton hpress (s := s) hagrees hdelivered rfl hdiffers
      fun other hother => ?_
    refine (isSet_or hbutton hother s.ctx.stableMask).trans ?_
    by_cases hsame : buttonId = other
    · simp [hsame]
    · simp [hsame]
  | false =>
    rw [if_neg Bool.false_ne_true]
    have hrelease : Settles (publishButtonEvent port buttonId .release
        (s.setCtx (s.ctx.released buttonId))) := by
      have hedge : ButtonAction.release.edge? = some false := rfl
      refine publish_edge port hbutton hedge (s := s) hagrees hdelivered rfl hdiffers
        fun other hother => ?_
      refine (isSet_clear hbutton hother s.ctx.stableMask).trans ?_
      by_cases hsame : buttonId = other
      · simp [hsame]
      · simp [hsame]
    generalize publishButtonEvent port buttonId .release (s.setCtx (s.ctx.released buttonId)) = release
      at hrelease ⊢
    simp only
    by_cases hok : release.1 = .ok
    · rw [if_neg fun hfailed => hfailed hok]
      rcases hrelease with ⟨hagrees', hdelivered'⟩ | ⟨hfailed, _⟩
      · left
        split
        · have hshort : Agrees (publishButtonEvent port buttonId .short release.2).2 ∧
              EdgesDelivered (publishButtonEvent port buttonId .short release.2).2 :=
            publish_settles port hbutton rfl hagrees' hdelivered'
          generalize publishButtonEvent port buttonId .short release.2 = short at hshort ⊢
          exact settled_congr rfl rfl hshort
        · exact settled_congr rfl rfl ⟨hagrees', hdelivered'⟩
      · exact absurd hok hfailed
    · rw [if_pos hok]
      exact hrelease

theorem keepButton_settles (hbutton : buttonId < panelButtonCount) (hagrees : Agrees s)
    (hdelivered : EdgesDelivered s) :
    Agrees (keepButton port buttonId s).2 ∧ EdgesDelivered (keepButton port buttonId s).2 := by
  unfold keepButton
  simp only
  generalize ht : s.setCtx (s.ctx.setDebounce buttonId 0) = t
  have hquiet : Agrees t ∧ EdgesDelivered t := by
    subst ht
    exact settled_congr (s := s) rfl rfl ⟨hagrees, hdelivered⟩
  split
  · have hheld : (t.ctx.held buttonId).stableMask = t.ctx.stableMask := by
      unfold held
      split <;> rfl
    have hcounted : Agrees (t.setCtx (t.ctx.held buttonId)) ∧
        EdgesDelivered (t.setCtx (t.ctx.held buttonId)) := settled_congr (s := t) rfl hheld hquiet
    split
    · have hnone : ButtonAction.long.edge? = none := rfl
      have hlong := publish_settles port hbutton hnone hcounted.1 hcounted.2
      split
      · exact hlong
      · exact settled_congr rfl rfl hlong
    · exact hcounted
  · exact hquiet

theorem scanButton_settles (hbutton : buttonId < panelButtonCount) (hagrees : Agrees s)
    (hdelivered : EdgesDelivered s) : Settles (scanButton port buttonId s) := by
  unfold scanButton
  simp only
  by_cases hdiffers : decide (s.ctx.rawMask &&& bit buttonId ≠ 0) ≠
      decide (s.ctx.stableMask &&& bit buttonId ≠ 0)
  · rw [if_pos hdiffers, if_pos (debounced _)]
    obtain ⟨hquiet, hkept⟩ := settled_congr (s := s)
      (t := s.setCtx (s.ctx.setDebounce buttonId 0)) rfl rfl ⟨hagrees, hdelivered⟩
    exact changeButton_settles port hbutton hdiffers hquiet hkept
  · rw [if_neg hdiffers]
    exact Or.inl (keepButton_settles port hbutton hagrees hdelivered)

theorem scanButtons_settles (buttons : List Nat) (hbuttons : ∀ b ∈ buttons, b < panelButtonCount)
    (hagrees : Agrees s) (hdelivered : EdgesDelivered s) :
    Settles (scanButtons port buttons s) := by
  induction buttons generalizing s with
  | nil => exact Or.inl ⟨hagrees, hdelivered⟩
  | cons buttonId rest ih =>
    have hone := scanButton_settles port (hbuttons buttonId List.mem_cons_self) hagrees hdelivered
    unfold scanButtons
    simp only
    by_cases hok : (scanButton port buttonId s).1 = .ok
    · rw [if_neg fun hfailed => hfailed hok]
      rcases hone with ⟨hagrees', hdelivered'⟩ | ⟨hfailed, _⟩
      · exact ih (fun b hb => hbuttons b (List.mem_cons_of_mem _ hb)) hagrees' hdelivered'
      · exact absurd hok hfailed
    · rw [if_pos hok]
      exact hone

theorem handle_settles (msg : Inbound) (hagrees : Agrees s) (hdelivered : EdgesDelivered s) :
    Settles (handle port s msg) := by
  unfold handle
  split
  · left
    unfold handleInputsChanged
    split
    · exact ⟨hagrees, hdelivered⟩
    · split
      · exact ⟨hagrees, hdelivered⟩
      · exact settled_congr rfl rfl ⟨hagrees, hdelivered⟩
  · unfold handleTick
    split
    · exact Or.inl ⟨hagrees, hdelivered⟩
    · exact scanButtons_settles port _ (fun _ hb => List.mem_range.mp hb) hagrees hdelivered
  · exact Or.inl ⟨hagrees, hdelivered⟩

end Scan

theorem publications_step (port : ActorPort P ω) (s : PanelState P ω) (msg : Inbound) :
    (step port s msg).publications = (handle port (s.note (.received msg)) msg).2.publications :=
  (Running.publications_note _ _).trans (List.append_nil _)

/-- One message: the masks agree after it just when its edges were delivered. -/
theorem step_agrees (port : ActorPort P ω) {s : PanelState P ω} (hagrees : Agrees s)
    (hdelivered : EdgesDelivered s) (msg : Inbound) :
    (Agrees (step port s msg) ∧ EdgesDelivered (step port s msg)) ∨
      (¬Agrees (step port s msg) ∧ ¬EdgesDelivered (step port s msg)) := by
  obtain ⟨hbegun, hkept⟩ := settled_congr (s := s) (t := s.note (.received msg))
    ((Running.publications_note s _).trans (List.append_nil _)) rfl ⟨hagrees, hdelivered⟩
  have hpublications := publications_step port s msg
  have hback := (publications_step port s msg).symm
  rcases handle_settles port msg hbegun hkept with hgood | ⟨_, hbad, hfailed⟩
  · exact Or.inl (settled_congr hpublications rfl hgood)
  · right
    refine ⟨fun h => hbad fun buttonId hbutton => ?_, fun h => hfailed ?_⟩
    · rw [announced, hback]
      exact h buttonId hbutton
    · rw [EdgesDelivered, hback]
      exact h

section Growth

variable (port : ActorPort P ω) (buttonId : Nat)

def Grows (s t : PanelState P ω) : Prop := s.publications <+: t.publications

theorem grows_publish (action : ButtonAction) (s : PanelState P ω) :
    Grows s (publishButtonEvent port buttonId action s).2 :=
  ⟨_, (publish_spec port buttonId action s).2.symm⟩

theorem grows_changeButton (rawPressed : Bool) (s : PanelState P ω) :
    Grows s (changeButton port buttonId rawPressed s).2 := by
  unfold changeButton
  cases rawPressed with
  | true => exact grows_publish port buttonId .press (s.setCtx (s.ctx.pressed buttonId))
  | false =>
    rw [if_neg Bool.false_ne_true]
    have hrelease : Grows s (publishButtonEvent port buttonId .release
        (s.setCtx (s.ctx.released buttonId))).2 :=
      grows_publish port buttonId .release (s.setCtx (s.ctx.released buttonId))
    generalize publishButtonEvent port buttonId .release (s.setCtx (s.ctx.released buttonId)) = release
      at hrelease ⊢
    simp only
    split
    · exact hrelease
    · split
      · exact List.IsPrefix.trans hrelease (grows_publish port buttonId .short release.2)
      · exact hrelease

theorem grows_keepButton (s : PanelState P ω) : Grows s (keepButton port buttonId s).2 := by
  unfold keepButton
  simp only
  generalize ht : s.setCtx (s.ctx.setDebounce buttonId 0) = t
  have hquiet : Grows s t := by
    subst ht
    exact List.prefix_refl _
  split
  · split
    · have hlong := List.IsPrefix.trans hquiet
        (grows_publish port buttonId .long (t.setCtx (t.ctx.held buttonId)))
      split
      · exact hlong
      · exact hlong
    · exact hquiet
  · exact hquiet

theorem grows_scanButtons (buttons : List Nat) (s : PanelState P ω) :
    Grows s (scanButtons port buttons s).2 := by
  induction buttons generalizing s with
  | nil => exact List.prefix_refl _
  | cons buttonId rest ih =>
    have hone : Grows s (scanButton port buttonId s).2 := by
      unfold scanButton
      simp only
      split
      · rw [if_pos (debounced _)]
        exact grows_changeButton port buttonId _ (s.setCtx (s.ctx.setDebounce buttonId 0))
      · exact grows_keepButton port buttonId s
    unfold scanButtons
    simp only
    split
    · exact hone
    · exact hone.trans (ih _)

theorem grows_step (s : PanelState P ω) (msg : Inbound) : Grows s (step port s msg) := by
  have hreceived : (s.note (.received msg)).publications = s.publications :=
    (Running.publications_note s _).trans (List.append_nil _)
  unfold Grows
  rw [publications_step, ← hreceived]
  unfold handle
  split
  · unfold handleInputsChanged
    split
    · exact List.prefix_refl _
    · split <;> exact List.prefix_refl _
  · unfold handleTick
    split
    · exact List.prefix_refl _
    · exact grows_scanButtons port _ _
  · exact List.prefix_refl _

end Growth

/-- In a run the stable masks agree with what the consumers were told, in every state, just when
every press and every release of the run was published with `EV_OK`. -/
theorem agrees_iff_delivered (port : ActorPort P ω) (outside : ω) (msgs : List Inbound) :
    Machine.Always (step port) Agrees (start outside) msgs ↔
      EdgesDelivered (Machine.run (step port) (start outside) msgs) := by
  have hagrees : Agrees (start outside : PanelState P ω) := fun buttonId hbutton => by
    rw [isSet_eq hbutton]
    exact BitVec.getLsbD_zero
  have hdelivered : EdgesDelivered (start outside : PanelState P ω) :=
    fun _ _ _ hout => absurd hout List.not_mem_nil
  refine Machine.always_iff_final Agrees EdgesDelivered (fun s => Agrees s ∧ EdgesDelivered s)
    (fun _ h => h.1) ?_ ?_ ?_ ⟨hagrees, hdelivered⟩ hdelivered msgs
  · intro s msg h buttonId hbutton out hout
    exact h buttonId hbutton out ((grows_step port s msg).subset hout)
  · intro s msg h hsent
    rcases step_agrees port h.1 h.2 msg with hgood | ⟨_, hfailed⟩
    · exact hgood
    · exact absurd hsent hfailed
  · intro s msg h hfailed
    rcases step_agrees port h.1 h.2 msg with ⟨_, hsent⟩ | ⟨hbad, _⟩
    · exact absurd hsent hfailed
    · exact hbad

def fullOnce : ActorPort Unit Bool where
  routes := RouteTable.generated
  deliver := fun _ _ full => (if full then .errFull else .ok, false)

/-- A press meets the full mailbox: the button stays pressed and no later tick announces it. -/
theorem not_agrees_full :
    let msgs := [inputChanged 1, { eventId := .tick100ms }, { eventId := .tick100ms }]
    let s := Machine.run (step fullOnce) (start true) msgs
    ¬Machine.Always (step fullOnce) Agrees (start true) msgs ∧ actions 0 s = [.press] ∧
      announced 0 s = false := by
  refine ⟨fun h => ?_, by decide +kernel, by decide +kernel⟩
  have hlast := h.last 0 (by decide)
  revert hlast
  decide +kernel

end PanelActor

end EventFramework
