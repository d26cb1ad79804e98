import EventFramework.Actors.CommandAuthority

/-!
# Remote sleep

A sleep command is published for an authentic confirmation only, while the arming that it
confirms is the last one, has not run out and has published nothing yet.
-/

namespace EventFramework
set_option autoImplicit false

variable {P ω : Type}

namespace CommandActor

open Running (publications)

/-- What an arming leaves for its confirmation. -/
structure Arming where
  nonce : List UInt8
  durationMs : UInt32
  expiryTick : UInt32

def arming (ctx : CommandActor) : Option Arming :=
  if ctx.sleepArmed then
    some { nonce := ctx.sleepNonce.take ctx.sleepNonceLen.toNat, durationMs := ctx.sleepDurationMs,
           expiryTick := ctx.sleepExpiryTick }
  else none

def sleepsOf (published : List (Msg P × Result)) : List (Msg P × Result) :=
  published.filter fun out => out.1.eventId = .sysGotoSleepCmd

def sleeps (s : CommandState P ω) : List (Msg P × Result) := sleepsOf (publications s)

def sleepCommand (durationMs : UInt32) : Msg P :=
  ActorWorld.outgoing .sysGotoSleepCmd .command (some (wordBytes durationMs))

/-- The message is an authentic arming with values that pass the checks, and the handler is ready
for one. -/
structure Arms (s : CommandState P ω) (msg : Inbound) (nonce : List UInt8) (durationMs : UInt32) :
    Prop where
  authentic : ∃ segments, Authentic s.ctx.token msg commandTopicSleep segments ∧
    CommandParser.lastValue CommandKey.arm.bytes segments = some nonce ∧
    ∃ digits, CommandParser.lastValue CommandKey.ms.bytes segments = some digits ∧
      CommandParser.Decimal digits durationMs
  capable : s.ctx.capabilities &&& commandCapSleep ≠ 0
  admitted : tickLimited s.ctx s.ctx.lastSleepTick = false
  nonempty : nonce ≠ []
  fits : nonce.length < commandSleepNonceMaxBytes
  printable : CommandParser.asciiPrintable nonce = true
  positive : durationMs ≠ 0
  bounded : durationMs ≤ powerMaxSleepDurationMs

/-- The message is an authentic confirmation of the nonce. -/
def Confirms (token : Option (List UInt8)) (msg : Inbound) (nonce : List UInt8) : Prop :=
  ∃ segments, Authentic token msg commandTopicSleep segments ∧
    CommandParser.lastValue CommandKey.arm.bytes segments = none ∧
    CommandParser.lastValue CommandKey.confirm.bytes segments = some nonce

def request (ctx : CommandActor) (msg : Inbound) : Option (List UInt8 × CommandParseState) :=
  (mqttRecord msg).bind fun (topic, payload) =>
    ((CommandParser.parsePayload payload).filter (authorized ctx)).map fun state => (topic, state)

theorem request_iff {ctx : CommandActor} {msg : Inbound} {topic : List UInt8}
    {state : CommandParseState} :
    request ctx msg = some (topic, state) ↔
      ∃ segments, Authentic ctx.token msg topic segments ∧
        state = segments.foldl CommandParser.recordKv {} := by
  unfold request
  constructor
  · intro h
    obtain ⟨⟨topic', payload⟩, hrecord, hrest⟩ := Option.bind_eq_some_iff.mp h
    obtain ⟨state', hfiltered, hpair⟩ := Option.map_eq_some_iff.mp hrest
    obtain ⟨rfl, rfl⟩ := Prod.mk.inj hpair
    obtain ⟨hparsed, hauthorized⟩ := Option.filter_eq_some_iff.mp hfiltered
    obtain ⟨segments, hwellFormed, rfl⟩ := CommandParser.parsePayload_iff.mp hparsed
    exact ⟨segments, ⟨⟨payload, hrecord, hwellFormed⟩, (authorized_iff _ _).mp hauthorized⟩, rfl⟩
  · rintro ⟨segments, ⟨⟨payload, hrecord, hwellFormed⟩, hcarries⟩, rfl⟩
    have hparsed := CommandParser.parsePayload_iff.mpr ⟨segments, hwellFormed, rfl⟩
    rw [hrecord]
    simp only [Option.bind_some, hparsed, Option.filter_some, (authorized_iff _ _).mpr hcarries,
      ↓reduceIte, Option.map_some]

theorem recorded_arm (segments : List CommandKvView) :
    (segments.foldl CommandParser.recordKv {}).arm =
      CommandParser.lastValue CommandKey.arm.bytes segments :=
  CommandParser.valueOf_eq_lastValue segments .arm

theorem recorded_confirm (segments : List CommandKvView) :
    (segments.foldl CommandParser.recordKv {}).confirm =
      CommandParser.lastValue CommandKey.confirm.bytes segments :=
  CommandParser.valueOf_eq_lastValue segments .confirm

theorem recorded_ms (segments : List CommandKvView) :
    (segments.foldl CommandParser.recordKv {}).ms =
      CommandParser.lastValue CommandKey.ms.bytes segments :=
  CommandParser.valueOf_eq_lastValue segments .ms

theorem parseArm_iff {state : CommandParseState} {nonce : List UInt8} {durationMs : UInt32} :
    parseArm state = some (nonce, durationMs) ↔
      (state.arm = some nonce ∧
        ∃ digits, state.ms = some digits ∧ CommandParser.Decimal digits durationMs) ∧
      nonce ≠ [] ∧ nonce.length < commandSleepNonceMaxBytes ∧
      CommandParser.asciiPrintable nonce = true ∧ durationMs ≠ 0 ∧
      durationMs ≤ powerMaxSleepDurationMs := by
  have hdigits : (∃ digits, state.ms = some digits ∧ CommandParser.Decimal digits durationMs) ↔
      state.ms.bind CommandParser.parseUint32Dec = some durationMs := by
    rw [Option.bind_eq_some_iff]
    constructor
    · rintro ⟨digits, hms, hdecimal⟩
      exact ⟨digits, hms, CommandParser.parseUint32Dec_iff.mpr hdecimal⟩
    · rintro ⟨digits, hms, hparsed⟩
      exact ⟨digits, hms, CommandParser.parseUint32Dec_iff.mp hparsed⟩
  rw [hdigits]
  unfold parseArm
  cases state.arm with
  | none => simp
  | some nonce' =>
    cases state.ms.bind CommandParser.parseUint32Dec with
    | none => simp
    | some durationMs' =>
      simp only [Option.some.injEq]
      constructor
      · intro h
        split at h
        · exact absurd h (by simp)
        · rename_i hpassed
          obtain ⟨rfl, rfl⟩ := Prod.mk.inj (Option.some.inj h)
          simp only [not_or, List.length_eq_zero_iff, Nat.not_le, Bool.not_eq_true',
            Bool.not_eq_false, UInt32.not_lt] at hpassed
          exact ⟨⟨rfl, rfl⟩, hpassed⟩
      · rintro ⟨⟨rfl, rfl⟩, hpassed⟩
        rw [if_neg]
        simp only [not_or, List.length_eq_zero_iff, Nat.not_le, Bool.not_eq_true',
          Bool.not_eq_false, UInt32.not_lt]
        exact hpassed

theorem arms_iff {s : CommandState P ω} {msg : Inbound} {nonce : List UInt8} {durationMs : UInt32} :
    Arms s msg nonce durationMs ↔
      ∃ state, request s.ctx msg = some (commandTopicSleep, state) ∧
        s.ctx.capabilities &&& commandCapSleep ≠ 0 ∧
        tickLimited s.ctx s.ctx.lastSleepTick = false ∧ parseArm state = some (nonce, durationMs) := by
  constructor
  · intro h
    obtain ⟨segments, hauthentic, harm, hms⟩ := h.authentic
    rw [← recorded_arm] at harm
    rw [← recorded_ms] at hms
    exact ⟨_, request_iff.mpr ⟨segments, hauthentic, rfl⟩, h.capable, h.admitted,
      parseArm_iff.mpr ⟨⟨harm, hms⟩, h.nonempty, h.fits, h.printable, h.positive, h.bounded⟩⟩
  · rintro ⟨state, hrequest, hcapable, hadmitted, hparsed⟩
    obtain ⟨segments, hauthentic, rfl⟩ := request_iff.mp hrequest
    obtain ⟨⟨harm, hms⟩, hnonempty, hfits, hprintable, hpositive, hbounded⟩ :=
      parseArm_iff.mp hparsed
    rw [recorded_arm] at harm
    rw [recorded_ms] at hms
    exact ⟨⟨segments, hauthentic, harm, hms⟩, hcapable, hadmitted, hnonempty, hfits, hprintable,
      hpositive, hbounded⟩

theorem confirms_of_request {ctx : CommandActor} {msg : Inbound} {state : CommandParseState}
    {nonce : List UInt8} (hrequest : request ctx msg = some (commandTopicSleep, state))
    (harm : state.arm = none) (hconfirm : state.confirm = some nonce) :
    Confirms ctx.token msg nonce := by
  obtain ⟨segments, hauthentic, rfl⟩ := request_iff.mp hrequest
  rw [recorded_arm] at harm
  rw [recorded_confirm] at hconfirm
  exact ⟨segments, hauthentic, harm, hconfirm⟩

inductive SleepStep (s : CommandState P ω) (msg : Inbound) (seen : Visible P ω) : Prop where
  | ticked : msg.eventId = .tick1s → (∀ nonce durationMs, ¬Arms s msg nonce durationMs) →
    seen.ctx.tickCounter = s.ctx.tickCounter + 1 →
    (∀ a, arming seen.ctx = some a → arming s.ctx = some a ∧ expired seen.ctx = false) →
    sleepsOf seen.published = sleeps s → SleepStep s msg seen
  | armed {nonce : List UInt8} {durationMs : UInt32} : Arms s msg nonce durationMs →
    seen.ctx.tickCounter = s.ctx.tickCounter →
    arming seen.ctx = some ⟨nonce, durationMs, s.ctx.tickCounter + commandSleepConfirmWindowTicks⟩ →
    sleepsOf seen.published = sleeps s → SleepStep s msg seen
  | other : msg.eventId ≠ .tick1s → (∀ nonce durationMs, ¬Arms s msg nonce durationMs) →
    seen.ctx.tickCounter = s.ctx.tickCounter →
    (∀ a, arming seen.ctx = some a → arming s.ctx = some a) →
    sleepsOf seen.published = sleeps s → SleepStep s msg seen
  | fired {a : Arming} {result : Result} : (∀ nonce durationMs, ¬Arms s msg nonce durationMs) →
    Confirms s.ctx.token msg a.nonce → arming s.ctx = some a → arming seen.ctx = none →
    sleepsOf seen.published = sleeps s ++ [(sleepCommand a.durationMs, result)] →
    SleepStep s msg seen

theorem SleepStep.quiet {s : CommandState P ω} {msg : Inbound} {seen : Visible P ω}
    (hevent : msg.eventId ≠ .tick1s) (hnone : ∀ nonce durationMs, ¬Arms s msg nonce durationMs)
    (hseen : seen = visible s) : SleepStep s msg seen := by
  rw [hseen]
  exact .other hevent hnone rfl (fun _ h => h) rfl

section Step

variable (port : Option (ActorPort P ω)) (s : CommandState P ω)

theorem execute_unknown {topic : List UInt8} (state : CommandParseState)
    (hled : topic ≠ commandTopicLed) (hdisplay : topic ≠ commandTopicDisplay)
    (hsleep : topic ≠ commandTopicSleep) : visible (execute port topic state s).2 = visible s := by
  unfold execute
  simp only [if_neg hled, if_neg hdisplay, if_neg hsleep, visible_count]

theorem dispatch_visible (topic payload : List UInt8) :
    visible (dispatch port topic payload s).2 =
      match (CommandParser.parsePayload payload).filter (authorized s.ctx) with
      | none => visible s
      | some state => visible (execute port topic state s).2 := by
  have hcounted := visible_count (fun stats => { stats with rxSeen := stats.rxSeen + 1 }) s
  unfold dispatch
  simp only
  generalize count (fun stats => { stats with rxSeen := stats.rxSeen + 1 }) s = s' at hcounted ⊢
  have hfields := sameFields_of_visible hcounted
  by_cases hsize : topic.length = 0 ∨ commandTopicMaxBytes < topic.length ∨ payload.length = 0 ∨
      commandPayloadMaxBytes < payload.length
  · have hquiet : visible (rejectParse s') = visible s := (visible_rejectParse s').trans hcounted
    simp only [if_pos hsize]
    cases hparse : (CommandParser.parsePayload payload).filter (authorized s.ctx) with
    | none => exact hquiet
    | some state =>
      obtain ⟨hparsed, _⟩ := Option.filter_eq_some_iff.mp hparse
      obtain ⟨segments, hwellFormed, _⟩ := CommandParser.parsePayload_iff.mp hparsed
      have hnonempty := List.length_pos_iff.mpr hwellFormed.nonempty
      have hfits := hwellFormed.fits
      have htopic : topic.length = 0 ∨ commandTopicMaxBytes < topic.length := by omega
      have hother {literal : List UInt8} (hliteral : 0 < literal.length)
          (hshort : literal.length ≤ commandTopicMaxBytes) : topic ≠ literal := by
        rintro rfl
        omega
      simp only
      rw [execute_unknown port s state (hother (by decide) (by decide))
        (hother (by decide) (by decide)) (hother (by decide) (by decide))]
      exact hquiet
  · simp only [if_neg hsize]
    cases CommandParser.parsePayload payload with
    | none => exact (visible_rejectParse s').trans hcounted
    | some state =>
      simp only [Option.filter_some, ← hfields.authorized_eq]
      by_cases hauthorized : authorized s'.ctx state = true
      · rw [if_neg (by rw [hauthorized]; exact Bool.false_ne_true), if_pos hauthorized]
        exact execute_same port topic state hcounted
      · rw [if_pos (by rw [Bool.not_eq_true', Bool.eq_false_iff]; exact hauthorized),
          if_neg hauthorized]
        split
        · exact (visible_count _ s').trans hcounted
        · exact (visible_count _ s').trans hcounted

theorem step_tick {msg : Inbound} (hevent : msg.eventId = .tick1s) :
    visible (step port s msg) = visible (expireSleepArm (s.setCtx s.ctx.ticked)) := by
  have hreceived : visible (s.note (.received msg)) = visible s := visible_note rfl s
  have hreturned : visible (step port s msg) = visible (handle port (s.note (.received msg)) msg).2 :=
    visible_note rfl _
  rw [hreturned, handle, hevent]
  exact expireSleepArm_same (setCtx_same ticked_same hreceived)

theorem step_request {msg : Inbound} (hevent : msg.eventId ≠ .tick1s) :
    visible (step port s msg) =
      match request s.ctx msg with
      | none => visible s
      | some (topic, state) => visible (execute port topic state s).2 := by
  have hreceived : visible (s.note (.received msg)) = visible s := visible_note rfl s
  have hreturned : visible (step port s msg) = visible (handle port (s.note (.received msg)) msg).2 :=
    visible_note rfl _
  have hdispatched {topic payload : List UInt8} {s' : CommandState P ω}
      (hrecord : mqttRecord msg = some (topic, payload)) (hs' : visible s' = visible s) :
      visible (dispatch port topic payload s').2 =
        match request s.ctx msg with
        | none => visible s
        | some (topic, state) => visible (execute port topic state s).2 := by
    rw [dispatch_same port topic payload hs', dispatch_visible, request, hrecord]
    simp only [Option.bind_some]
    cases (CommandParser.parsePayload payload).filter (authorized s.ctx) with
    | none => rfl
    | some state => rfl
  have hnone (hrecord : mqttRecord msg = none) : request s.ctx msg = none := by
    rw [request, hrecord, Option.bind_none]
  rw [hreturned]
  unfold handle
  split
  · rename_i htick
    exact absurd htick hevent
  · rename_i hrx
    have hread : mqttRecord msg = readRecord netMaxTopicBytes netMaxInlinePayloadBytes msg := by
      rw [mqttRecord, hrx]
    unfold handleInline
    split
    · rename_i hrecord
      rw [hnone (hread.trans hrecord)]
      exact (visible_rejectParse _).trans hreceived
    · rename_i hrecord
      exact hdispatched (hread.trans hrecord) ((visible_count _ _).trans hreceived)
  · rename_i hrx
    have hread : mqttRecord msg = readRecord netMaxTopicStorageBytes netMaxPayloadStorageBytes msg := by
      rw [mqttRecord, hrx]
    unfold handleLease
    split
    · rename_i hrecord
      rw [hnone (hread.trans hrecord)]
      exact (visible_rejectParse _).trans hreceived
    · rename_i hrecord
      exact hdispatched (hread.trans hrecord) ((visible_count _ _).trans hreceived)
  · rename_i hinline hlease
    have hrecord : mqttRecord msg = none := by
      unfold mqttRecord
      split
      · rename_i h
        exact absurd h hinline
      · rename_i h
        exact absurd h hlease
      · rfl
    rw [hnone hrecord]
    exact (visible_count _ _).trans hreceived

theorem sleeps_of_grants {topic : List UInt8} {s s' : CommandState P ω}
    (htopic : topic ≠ commandTopicSleep) (h : Grants topic s s') : sleeps s' = sleeps s := by
  obtain ⟨published, hpublished, hall⟩ := h
  have hnone : sleepsOf published = [] := by
    apply List.filter_eq_nil_iff.mpr
    intro out hmem hsleep
    obtain ⟨capability, hgrant, _⟩ := hall out hmem
    rw [of_decide_eq_true hsleep] at hgrant
    exact htopic (Prod.mk.inj (Option.some.inj hgrant)).1.symm
  rw [sleeps, hpublished, sleepsOf, List.filter_append]
  rw [sleepsOf] at hnone
  rw [hnone, List.append_nil]
  rfl

theorem not_arms_of_topic {s : CommandState P ω} {msg : Inbound} {topic : List UInt8}
    {state : CommandParseState} (hrequest : request s.ctx msg = some (topic, state))
    (htopic : topic ≠ commandTopicSleep) (nonce : List UInt8) (durationMs : UInt32) :
    ¬Arms s msg nonce durationMs := by
  intro harms
  obtain ⟨state', hrequest', _⟩ := arms_iff.mp harms
  rw [hrequest] at hrequest'
  exact htopic (Prod.mk.inj (Option.some.inj hrequest')).1

theorem armed_arming (ctx : CommandActor) {nonce : List UInt8} (durationMs : UInt32)
    (hfits : nonce.length < commandSleepNonceMaxBytes) :
    arming (ctx.armed nonce durationMs) =
      some ⟨nonce, durationMs, ctx.tickCounter + commandSleepConfirmWindowTicks⟩ := by
  have hlength : (UInt8.ofNat nonce.length).toNat = nonce.length := by
    rw [UInt8.toNat_ofNat']
    apply Nat.mod_eq_of_lt
    exact Nat.lt_trans hfits (by decide)
  have htake : (nonce ++ List.replicate (commandSleepNonceMaxBytes - nonce.length) 0).take
      nonce.length = nonce := List.take_left
  unfold arming armed
  simp only [↓reduceIte, hlength, htake]

theorem handleSleepArm_step {s : CommandState P ω} {msg : Inbound} {state : CommandParseState}
    (hrequest : request s.ctx msg = some (commandTopicSleep, state)) (hevent : msg.eventId ≠ .tick1s) :
    SleepStep s msg (visible (handleSleepArm state s).2) := by
  have hnone (h : s.ctx.capabilities &&& commandCapSleep = 0 ∨
      tickLimited s.ctx s.ctx.lastSleepTick = true ∨ parseArm state = none)
      (nonce : List UInt8) (durationMs : UInt32) : ¬Arms s msg nonce durationMs := by
    intro harms
    obtain ⟨state', hrequest', hcapable, hadmitted, hparsed⟩ := arms_iff.mp harms
    rw [hrequest] at hrequest'
    obtain ⟨_, rfl⟩ := Prod.mk.inj (Option.some.inj hrequest')
    rcases h with h | h | h
    · exact hcapable h
    · rw [h] at hadmitted
      cases hadmitted
    · rw [h] at hparsed
      exact Option.some_ne_none _ hparsed.symm
  unfold handleSleepArm
  split
  · rename_i hcapable
    exact .quiet hevent (hnone (.inl hcapable)) (visible_rejectCapability s)
  · rename_i hcapable
    split
    · rename_i hlimited
      exact .quiet hevent (hnone (.inr (.inl hlimited))) (visible_rejectRate s)
    · rename_i hlimited
      split
      · rename_i hparsed
        exact .quiet hevent (hnone (.inr (.inr hparsed))) (visible_rejectParse s)
      · rename_i nonce durationMs hparsed
        have hadmitted := Bool.eq_false_iff.mpr hlimited
        have harms : Arms s msg nonce durationMs :=
          arms_iff.mpr ⟨state, hrequest, hcapable, hadmitted, hparsed⟩
        exact .armed harms rfl (armed_arming s.ctx durationMs harms.fits) rfl

theorem confirms_arming {ctx : CommandActor} {state : CommandParseState}
    (h : confirms ctx state = true) :
    ∃ a, arming ctx = some a ∧ state.confirm = some a.nonce ∧ a.durationMs = ctx.sleepDurationMs := by
  unfold confirms at h
  cases hconfirm : state.confirm with
  | none =>
    rw [hconfirm] at h
    cases h
  | some confirm =>
    rw [hconfirm] at h
    simp only [Bool.and_eq_true, beq_iff_eq] at h
    obtain ⟨⟨harmed, hlength⟩, hbytes⟩ := h
    refine ⟨_, if_pos harmed, ?_, rfl⟩
    rw [← hlength, ← hbytes]

theorem arming_armExpired (ctx : CommandActor) : arming ctx.armExpired = none := rfl

theorem SameFields.arming_eq {ctx ctx' : CommandActor} (h : SameFields ctx ctx') :
    arming ctx = arming ctx' := by
  rw [arming, arming, h.sleepArmed, h.sleepNonce, h.sleepNonceLen, h.sleepDurationMs,
    h.sleepExpiryTick]

theorem publishInline_sleep (durationMs : UInt32) (s : CommandState P ω) :
    sleeps (publishInline port .sysGotoSleepCmd (wordBytes durationMs) s).2 = sleeps s ∨
      ∃ result, sleeps (publishInline port .sysGotoSleepCmd (wordBytes durationMs) s).2 =
        sleeps s ++ [(sleepCommand durationMs, result)] := by
  have hseen : publications (publishInline port .sysGotoSleepCmd (wordBytes durationMs) s).2 =
      (sent port .sysGotoSleepCmd (wordBytes durationMs) (visible s)).2.published :=
    congrArg Visible.published (publishInline_visible port (sleepPublishable durationMs) s).2
  cases port with
  | none => exact .inl rfl
  | some port =>
    right
    refine ⟨(publish port.routes port.deliver (sleepCommand durationMs) s.world.outside).1, ?_⟩
    rw [sleeps, hseen, sent, sleepsOf, List.filter_append]
    rfl

theorem handleSleepConfirm_step {s : CommandState P ω} {msg : Inbound} {state : CommandParseState}
    (hrequest : request s.ctx msg = some (commandTopicSleep, state)) (harm : state.arm = none)
    (hevent : msg.eventId ≠ .tick1s) :
    SleepStep s msg (visible (handleSleepConfirm port state s).2) := by
  have hnone (nonce : List UInt8) (durationMs : UInt32) : ¬Arms s msg nonce durationMs := by
    intro harms
    obtain ⟨state', hrequest', _, _, hparsed⟩ := arms_iff.mp harms
    rw [hrequest] at hrequest'
    obtain ⟨_, rfl⟩ := Prod.mk.inj (Option.some.inj hrequest')
    have hsome := (parseArm_iff.mp hparsed).1.1
    rw [harm] at hsome
    cases hsome
  unfold handleSleepConfirm
  simp only
  have hcounted := visible_count
    (fun stats => { stats with sleepConfirmRequests := stats.sleepConfirmRequests + 1 }) s
  generalize count (fun stats =>
    { stats with sleepConfirmRequests := stats.sleepConfirmRequests + 1 }) s = s' at hcounted ⊢
  have htick : s'.ctx.tickCounter = s.ctx.tickCounter := (sameFields_of_visible hcounted).tickCounter
  have hsame : arming s'.ctx = arming s.ctx := (sameFields_of_visible hcounted).arming_eq
  have hsleeps : sleeps s' = sleeps s := congrArg sleepsOf (congrArg Visible.published hcounted)
  split
  · exact .quiet hevent hnone ((visible_rejectCapability s').trans hcounted)
  · split
    · exact .quiet hevent hnone ((visible_count _ s').trans hcounted)
    · rename_i hconfirms
      split
      · refine .other hevent hnone htick (fun _ h => ?_) hsleeps
        cases (arming_armExpired s'.ctx).symm.trans h
      · simp only [Bool.not_eq_true', Bool.not_eq_false] at hconfirms
        obtain ⟨a, harming, hconfirm, hduration⟩ := confirms_arming hconfirms
        have harmed : arming s.ctx = some a := hsame ▸ harming
        have hconfirmed : Confirms s.ctx.token msg a.nonce :=
          confirms_of_request hrequest harm hconfirm
        have hread := publishInline_read port (fun ctx => (arming ctx, ctx.tickCounter))
          (fun _ _ => rfl) .sysGotoSleepCmd (wordBytes s'.ctx.sleepDurationMs)
          (s'.setCtx s'.ctx.disarmed)
        have hpublished := publishInline_sleep port s'.ctx.sleepDurationMs
          (s'.setCtx s'.ctx.disarmed)
        rw [← hduration] at hread hpublished ⊢
        generalize publishInline port .sysGotoSleepCmd (wordBytes a.durationMs)
          (s'.setCtx s'.ctx.disarmed) = out at hread hpublished ⊢
        have hdone (s'' : CommandState P ω) (harming'' : arming s''.ctx = arming out.2.ctx)
            (htick'' : s''.ctx.tickCounter = out.2.ctx.tickCounter)
            (hsleeps'' : sleeps s'' = sleeps out.2) : SleepStep s msg (visible s'') := by
          have hdisarmed : arming s''.ctx = none := harming''.trans (congrArg Prod.fst hread)
          rcases hpublished with hquiet | ⟨result, hfired⟩
          · refine .other hevent hnone ?_ (fun _ h => ?_) ?_
            · exact htick''.trans ((congrArg Prod.snd hread).trans htick)
            · cases hdisarmed.symm.trans h
            · exact hsleeps''.trans (hquiet.trans hsleeps)
          · have hlast : sleeps s'' = sleeps s ++ [(sleepCommand a.durationMs, result)] := by
              rw [hsleeps'', hfired]
              exact congrArg (· ++ [(sleepCommand a.durationMs, result)]) hsleeps
            exact .fired hnone hconfirmed harmed hdisarmed hlast
        split
        · exact hdone _ rfl rfl rfl
        · exact hdone _ rfl rfl rfl

theorem execute_step {s : CommandState P ω} {msg : Inbound} {topic : List UInt8}
    {state : CommandParseState} (hrequest : request s.ctx msg = some (topic, state))
    (hevent : msg.eventId ≠ .tick1s) : SleepStep s msg (visible (execute port topic state s).2) := by
  have hother (htopic : topic ≠ commandTopicSleep) (s' : CommandState P ω)
      (hread : (arming s'.ctx, s'.ctx.tickCounter) = (arming s.ctx, s.ctx.tickCounter))
      (hsleeps : sleeps s' = sleeps s) : SleepStep s msg (visible s') := by
    obtain ⟨harming, htick⟩ := Prod.mk.inj hread
    exact .other hevent (not_arms_of_topic hrequest htopic) htick (fun _ h => harming ▸ h) hsleeps
  unfold execute
  split
  · rename_i htopic
    have hled : topic ≠ commandTopicSleep := htopic ▸ by decide
    apply hother hled
    · exact handleLed_read port (fun ctx => (arming ctx, ctx.tickCounter)) (fun _ _ => rfl)
        (fun _ => rfl) state s
    · exact sleeps_of_grants (htopic ▸ hled) (handleLed_grants port state s)
  · split
    · rename_i htopic
      have hdisplay : topic ≠ commandTopicSleep := htopic ▸ by decide
      apply hother hdisplay
      · exact handleDisplay_read port (fun ctx => (arming ctx, ctx.tickCounter)) (fun _ _ => rfl)
          (fun _ => rfl) state s
      · exact sleeps_of_grants (htopic ▸ hdisplay) (handleDisplay_grants port state s)
    · split
      · rename_i htopic
        rw [htopic] at hrequest
        split
        · exact handleSleepArm_step hrequest hevent
        · rename_i harm
          rw [Bool.not_eq_true, Option.isSome_eq_false_iff, Option.isNone_iff_eq_none] at harm
          split
          · exact handleSleepConfirm_step port hrequest harm hevent
          · rename_i hconfirm
            refine .quiet hevent (fun nonce durationMs harms => ?_) (visible_rejectParse s)
            obtain ⟨state', hrequest', _, _, hparsed⟩ := arms_iff.mp harms
            rw [hrequest] at hrequest'
            obtain ⟨_, rfl⟩ := Prod.mk.inj (Option.some.inj hrequest')
            have hsome := (parseArm_iff.mp hparsed).1.1
            rw [harm] at hsome
            cases hsome
      · rename_i htopic
        exact hother htopic _ rfl rfl

theorem step_sleep (s : CommandState P ω) (msg : Inbound) :
    SleepStep s msg (visible (step port s msg)) := by
  by_cases hevent : msg.eventId = .tick1s
  · have hnone (nonce : List UInt8) (durationMs : UInt32) : ¬Arms s msg nonce durationMs := by
      intro harms
      obtain ⟨state, hrequest, _⟩ := arms_iff.mp harms
      rw [request, mqttRecord, hevent] at hrequest
      cases hrequest
    rw [step_tick port s hevent]
    unfold expireSleepArm
    split
    · refine .ticked hevent hnone rfl (fun _ h => ?_) rfl
      cases (arming_armExpired s.ctx.ticked).symm.trans h
    · rename_i hlasting
      refine .ticked hevent hnone rfl (fun a h => ⟨h, ?_⟩) rfl
      have harmed : s.ctx.sleepArmed = true := by
        by_contra hunarmed
        have hnothing : arming s.ctx = none := if_neg hunarmed
        cases hnothing.symm.trans h
      have hticked : (s.setCtx s.ctx.ticked).ctx.sleepArmed = true := harmed
      rw [hticked, Bool.true_and, Bool.not_eq_true] at hlasting
      exact hlasting
  · rw [step_request port s hevent]
    cases hrequest : request s.ctx msg with
    | none =>
      refine .other hevent (fun nonce durationMs harms => ?_) rfl (fun _ h => h) rfl
      obtain ⟨state, hrequest', _⟩ := arms_iff.mp harms
      cases hrequest.symm.trans hrequest'
    | some parsed => exact execute_step port hrequest hevent

end Step

section Runs

variable (port : Option (ActorPort P ω)) (first : CommandState P ω)

def isTick (msg : Inbound) : Bool := msg.eventId = .tick1s

/-- The last arming of a run, with the messages handled since. -/
def LastArm (msgs before : List Inbound) (arm : Inbound) (between : List Inbound) : Prop :=
  Machine.LastAt (step port) (fun s msg => ∃ nonce durationMs, Arms s msg nonce durationMs) first
    msgs before arm between

/-- A pending arming is the last one, has time left and has published nothing. -/
def Pending (msgs : List Inbound) (a : Arming) : Prop :=
  ∃ before arm between, LastArm port first msgs before arm between ∧
    Arms (Machine.run (step port) first before) arm a.nonce a.durationMs ∧
    between.countP isTick < commandSleepConfirmWindowTicks.toNat ∧
    a.expiryTick = (Machine.run (step port) first msgs).ctx.tickCounter +
      UInt32.ofNat (commandSleepConfirmWindowTicks.toNat - between.countP isTick) ∧
    sleeps (Machine.run (step port) first msgs) = sleeps (Machine.run (step port) first before)

variable {port first}

theorem arming_expiry {ctx : CommandActor} {a : Arming} (h : arming ctx = some a) :
    ctx.sleepExpiryTick = a.expiryTick := by
  unfold arming at h
  split at h
  · exact congrArg Arming.expiryTick (Option.some.inj h)
  · cases h

theorem expired_of_none_left {ctx : CommandActor}
    (h : ctx.sleepExpiryTick = ctx.tickCounter + UInt32.ofNat 0) : expired ctx = true := by
  have hsame : ctx.tickCounter - ctx.sleepExpiryTick = 0 := by
    rw [h]
    apply UInt32.toNat_inj.mp
    simp
  rw [expired, hsame]
  rfl

theorem expiry_ticked {tick expiry : UInt32} {left : Nat}
    (h : expiry = tick + UInt32.ofNat (left + 1)) : expiry = tick + 1 + UInt32.ofNat left := by
  rw [h, UInt32.ofNat_add, UInt32.add_assoc]
  congr 1
  exact UInt32.add_comm _ _

theorem pending_armed {msgs : List Inbound} {msg : Inbound} {nonce : List UInt8}
    {durationMs : UInt32} (harms : Arms (Machine.run (step port) first msgs) msg nonce durationMs)
    (htick : (Machine.run (step port) first (msgs ++ [msg])).ctx.tickCounter =
      (Machine.run (step port) first msgs).ctx.tickCounter)
    (hsleeps : sleeps (Machine.run (step port) first (msgs ++ [msg])) =
      sleeps (Machine.run (step port) first msgs)) :
    Pending port first (msgs ++ [msg]) ⟨nonce, durationMs,
      (Machine.run (step port) first msgs).ctx.tickCounter + commandSleepConfirmWindowTicks⟩ := by
  refine ⟨msgs, msg, [], Machine.lastAt_now ⟨nonce, durationMs, harms⟩, harms, by decide, ?_, hsleeps⟩
  rw [htick]
  rfl

theorem pending_later {msgs : List Inbound} {msg : Inbound} {a : Arming}
    (hpending : Pending port first msgs a)
    (hnone : ∀ nonce durationMs, ¬Arms (Machine.run (step port) first msgs) msg nonce durationMs)
    (hevent : msg.eventId ≠ .tick1s)
    (htick : (Machine.run (step port) first (msgs ++ [msg])).ctx.tickCounter =
      (Machine.run (step port) first msgs).ctx.tickCounter)
    (hsleeps : sleeps (Machine.run (step port) first (msgs ++ [msg])) =
      sleeps (Machine.run (step port) first msgs)) :
    Pending port first (msgs ++ [msg]) a := by
  obtain ⟨before, arm, between, hlast, harms, hticks, hexpiry, hpublished⟩ := hpending
  have hcount : (between ++ [msg]).countP isTick = between.countP isTick := by
    rw [List.countP_append, List.countP_singleton, if_neg, Nat.add_zero]
    exact fun h => hevent (of_decide_eq_true h)
  refine ⟨before, arm, between ++ [msg], ?_, harms, ?_, ?_, ?_⟩
  · apply hlast.later
    rintro ⟨nonce, durationMs, h⟩
    exact hnone nonce durationMs h
  · rw [hcount]
    exact hticks
  · rw [hcount, htick]
    exact hexpiry
  · rw [hsleeps]
    exact hpublished

theorem pending_ticked {msgs : List Inbound} {msg : Inbound} {a : Arming}
    (hpending : Pending port first msgs a)
    (hnone : ∀ nonce durationMs, ¬Arms (Machine.run (step port) first msgs) msg nonce durationMs)
    (hevent : msg.eventId = .tick1s)
    (htick : (Machine.run (step port) first (msgs ++ [msg])).ctx.tickCounter =
      (Machine.run (step port) first msgs).ctx.tickCounter + 1)
    (harming : arming (Machine.run (step port) first (msgs ++ [msg])).ctx = some a)
    (hlasting : expired (Machine.run (step port) first (msgs ++ [msg])).ctx = false)
    (hsleeps : sleeps (Machine.run (step port) first (msgs ++ [msg])) =
      sleeps (Machine.run (step port) first msgs)) :
    Pending port first (msgs ++ [msg]) a := by
  obtain ⟨before, arm, between, hlast, harms, hticks, hexpiry, hpublished⟩ := hpending
  have hcount : (between ++ [msg]).countP isTick = between.countP isTick + 1 := by
    rw [List.countP_append, List.countP_singleton, if_pos]
    exact decide_eq_true hevent
  obtain ⟨left, hleft⟩ : ∃ left,
      commandSleepConfirmWindowTicks.toNat - between.countP isTick = left + 1 :=
    Nat.exists_eq_succ_of_ne_zero (by omega)
  rw [hleft] at hexpiry
  have hnext := expiry_ticked hexpiry
  rw [← htick] at hnext
  have hpositive : left ≠ 0 := by
    rintro rfl
    have hexpired := expired_of_none_left ((arming_expiry harming).trans hnext)
    rw [hlasting] at hexpired
    cases hexpired
  refine ⟨before, arm, between ++ [msg], ?_, harms, ?_, ?_, ?_⟩
  · apply hlast.later
    rintro ⟨nonce, durationMs, h⟩
    exact hnone nonce durationMs h
  · rw [hcount]
    omega
  · rw [hcount, hnext]
    congr 2
    omega
  · rw [hsleeps]
    exact hpublished

/-- What is armed is pending, after any run. -/
theorem run_pending (hfirst : arming first.ctx = none) (msgs : List Inbound) :
    ∀ a, arming (Machine.run (step port) first msgs).ctx = some a → Pending port first msgs a := by
  induction msgs using List.reverseRecOn with
  | nil =>
    intro a h
    cases hfirst.symm.trans h
  | append_singleton msgs msg ih =>
    intro a h
    have hrun : Machine.run (step port) first (msgs ++ [msg]) =
        step port (Machine.run (step port) first msgs) msg := Machine.run_append _ _ _ _
    have hstep := step_sleep port (Machine.run (step port) first msgs) msg
    rw [← hrun] at hstep
    cases hstep with
    | ticked hevent hnone htick hkept hsleeps =>
      obtain ⟨hbefore, hlasting⟩ := hkept a h
      exact pending_ticked (ih a hbefore) hnone hevent htick h hlasting hsleeps
    | armed harms htick harming hsleeps =>
      obtain rfl := Option.some.inj (h.symm.trans harming)
      exact pending_armed harms htick hsleeps
    | other hevent hnone htick hkept hsleeps =>
      exact pending_later (ih a (hkept a h)) hnone hevent htick hsleeps
    | fired _ _ _ hdone _ => cases h.symm.trans hdone

/-- The confirmation of the last arming, in time, when it has published nothing yet. -/
def Consents (port : Option (ActorPort P ω)) (first : CommandState P ω) (msgs : List Inbound)
    (msg : Inbound) (durationMs : UInt32) : Prop :=
  ∃ before arm between nonce, LastArm port first msgs before arm between ∧
    Arms (Machine.run (step port) first before) arm nonce durationMs ∧
    Confirms (Machine.run (step port) first msgs).ctx.token msg nonce ∧
    between.countP isTick < commandSleepConfirmWindowTicks.toNat ∧
    sleeps (Machine.run (step port) first msgs) = sleeps (Machine.run (step port) first before)

theorem sleepCommand_duration (durationMs : UInt32) :
    wordAt (sleepCommand (P := P) durationMs).inlineMemory 0 = durationMs := wordAt_wordBytes durationMs

theorem step_consents (hfirst : arming first.ctx = none) (msgs : List Inbound) (msg : Inbound) :
    sleeps (Machine.run (step port) first (msgs ++ [msg])) =
        sleeps (Machine.run (step port) first msgs) ∨
      ∃ durationMs result, sleeps (Machine.run (step port) first (msgs ++ [msg])) =
          sleeps (Machine.run (step port) first msgs) ++ [(sleepCommand durationMs, result)] ∧
        Consents port first msgs msg durationMs := by
  have hrun : Machine.run (step port) first (msgs ++ [msg]) =
      step port (Machine.run (step port) first msgs) msg := Machine.run_append _ _ _ _
  have hstep := step_sleep port (Machine.run (step port) first msgs) msg
  rw [← hrun] at hstep
  cases hstep with
  | ticked _ _ _ _ hsleeps => exact .inl hsleeps
  | armed _ _ _ hsleeps => exact .inl hsleeps
  | other _ _ _ _ hsleeps => exact .inl hsleeps
  | @fired a result _ hconfirms harmed _ hsleeps =>
    obtain ⟨before, arm, between, hlast, harms, hticks, _, hquiet⟩ := run_pending hfirst msgs a harmed
    exact .inr ⟨a.durationMs, result, hsleeps,
      ⟨before, arm, between, a.nonce, hlast, harms, hconfirms, hticks, hquiet⟩⟩

/-- An arming publishes at most once. -/
theorem sleeps_since_arm (hfirst : arming first.ctx = none) {msgs before between : List Inbound}
    {arm : Inbound} (h : LastArm port first msgs before arm between) :
    (sleeps (Machine.run (step port) first msgs)).length ≤
      (sleeps (Machine.run (step port) first before)).length + 1 := by
  induction msgs using List.reverseRecOn generalizing between with
  | nil => exact absurd h.split.symm (List.append_ne_nil_of_right_ne_nil _ (List.cons_ne_nil _ _))
  | append_singleton msgs msg ih =>
    rcases step_consents hfirst msgs msg with hsame | ⟨durationMs, result, hfired, hconsents⟩
    · rw [hsame]
      rcases h.of_snoc with ⟨rfl, _⟩ | ⟨rest, _, hlast⟩
      · exact Nat.le_succ _
      · exact ih hlast
    · rcases h.of_snoc with ⟨rfl, _⟩ | ⟨rest, _, hlast⟩
      · rw [hfired, List.length_append]
        rfl
      · obtain ⟨before', arm', between', _, hlast', _, _, _, hquiet⟩ := hconsents
        rw [hfired, List.length_append, hquiet, ← (hlast.unique hlast').1]
        rfl

end Runs

/-- Every sleep command that is published answers the confirmation of the last arming, whose nonce
it carries and whose duration is published; fewer ticks than the window has went by since; and no
arming publishes twice, whatever the results of the publications. -/
theorem sleep_needs_consent (port : Option (ActorPort P ω)) (token : Option (Nat → UInt8))
    (capabilities : UInt32) (outside : ω) (msgs : List Inbound) :
    (∀ msg, sleeps (step port (Machine.run (step port) (start token capabilities outside) msgs) msg) =
          sleeps (Machine.run (step port) (start token capabilities outside) msgs) ∨
        ∃ out, sleeps (step port
            (Machine.run (step port) (start token capabilities outside) msgs) msg) =
            sleeps (Machine.run (step port) (start token capabilities outside) msgs) ++ [out] ∧
          Consents port (start token capabilities outside) msgs msg (wordAt out.1.inlineMemory 0)) ∧
      ∀ before arm between,
        LastArm port (start token capabilities outside) msgs before arm between →
        (sleeps (Machine.run (step port) (start token capabilities outside) msgs)).length ≤
          (sleeps (Machine.run (step port) (start token capabilities outside) before)).length + 1 := by
  have hfirst : arming (start (P := P) token capabilities outside).ctx = none := rfl
  constructor
  · intro msg
    have hrun := Machine.run_append (step port) (start token capabilities outside) msgs [msg]
    rw [Machine.run_cons, Machine.run_nil] at hrun
    rw [← hrun]
    rcases step_consents hfirst msgs msg with hsame | ⟨durationMs, result, hfired, hconsents⟩
    · exact .inl hsame
    · refine .inr ⟨_, hfired, ?_⟩
      rw [sleepCommand_duration]
      exact hconsents
  · intro before arm between hlast
    exact sleeps_since_arm hfirst hlast

end CommandActor

end EventFramework
