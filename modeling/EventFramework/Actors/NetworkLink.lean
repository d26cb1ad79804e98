import EventFramework.Actors.NetworkEffect

/-!
# The link state of the network actor

The state against the link events handled so far. It follows them as long as no MQTT event is
handled while WiFi is down.
-/

namespace EventFramework
set_option autoImplicit false

variable {P ω : Type}

namespace NetworkActor

def isWifi (eventId : EventId) : Bool := eventId == .netWifiUp || eventId == .netWifiDown

def isMqtt (eventId : EventId) : Bool := eventId == .netMqttUp || eventId == .netMqttDown

def lastWifi (events : List EventId) : Option EventId := events.reverse.find? isWifi

/-- The most recent MQTT event since WiFi last went down. -/
def lastMqtt (events : List EventId) : Option EventId :=
  (events.reverse.takeWhile fun eventId => eventId != .netWifiDown).find? isMqtt

/-- The state that the link events call for. -/
structure LinkRight (events : List EventId) (state : NetworkState) : Prop where
  down : lastWifi events = some .netWifiDown ∨ lastWifi events = none → state = .disconnected
  connected : lastWifi events = some .netWifiUp →
    (state = .mqttConnected ↔ lastMqtt events = some .netMqttUp)
  up : lastWifi events = some .netWifiUp →
    (state = .wifiUp ↔ lastMqtt events = some .netMqttDown ∨ lastMqtt events = none)

theorem lastWifi_snoc (events : List EventId) (eventId : EventId) :
    lastWifi (events ++ [eventId]) = if isWifi eventId then some eventId else lastWifi events := by
  rw [lastWifi, List.reverse_append, List.reverse_singleton, List.singleton_append, List.find?_cons]
  cases isWifi eventId <;> rfl

theorem lastMqtt_snoc (events : List EventId) (eventId : EventId) :
    lastMqtt (events ++ [eventId]) = if eventId = .netWifiDown then none
      else if isMqtt eventId then some eventId else lastMqtt events := by
  rw [lastMqtt, List.reverse_append, List.reverse_singleton, List.singleton_append,
    List.takeWhile_cons]
  by_cases hdown : eventId = .netWifiDown
  · rw [if_pos hdown, hdown]
    rfl
  · rw [if_neg hdown, if_pos (bne_iff_ne.mpr hdown), List.find?_cons]
    cases isMqtt eventId <;> rfl

theorem lastWifi_cases (events : List EventId) : lastWifi events = some .netWifiUp ∨
    lastWifi events = some .netWifiDown ∨ lastWifi events = none := by
  cases h : lastWifi events with
  | none => exact .inr (.inr rfl)
  | some eventId =>
    have hwifi := List.find?_some h
    rw [isWifi, Bool.or_eq_true, beq_iff_eq, beq_iff_eq] at hwifi
    rcases hwifi with rfl | rfl
    · exact .inl rfl
    · exact .inr (.inl rfl)

theorem lastMqtt_cases (events : List EventId) : lastMqtt events = some .netMqttUp ∨
    lastMqtt events = some .netMqttDown ∨ lastMqtt events = none := by
  cases h : lastMqtt events with
  | none => exact .inr (.inr rfl)
  | some eventId =>
    have hmqtt := List.find?_some h
    rw [isMqtt, Bool.or_eq_true, beq_iff_eq, beq_iff_eq] at hmqtt
    rcases hmqtt with rfl | rfl
    · exact .inl rfl
    · exact .inr (.inl rfl)

def linkState (events : List EventId) : NetworkState :=
  if lastWifi events = some .netWifiUp then
    if lastMqtt events = some .netMqttUp then .mqttConnected else .wifiUp
  else .disconnected

theorem linkRight_iff {events : List EventId} {state : NetworkState} :
    LinkRight events state ↔ state = linkState events := by
  constructor
  · intro h
    unfold linkState
    rcases lastWifi_cases events with hup | hdown
    · rw [if_pos hup]
      rcases lastMqtt_cases events with hconnected | hidle
      · rw [if_pos hconnected]
        exact (h.connected hup).mpr hconnected
      · rw [if_neg]
        · exact (h.up hup).mpr hidle
        · rcases hidle with hidle | hidle <;> rw [hidle] <;> simp
    · rw [if_neg]
      · exact h.down hdown
      · rcases hdown with hdown | hdown <;> rw [hdown] <;> simp
  · rintro rfl
    unfold linkState
    refine ⟨?_, ?_, ?_⟩
    · rintro (hdown | hdown) <;> rw [hdown] <;> rfl
    · intro hup
      rw [if_pos hup]
      rcases lastMqtt_cases events with hmqtt | hmqtt | hmqtt <;> rw [hmqtt] <;> simp
    · intro hup
      rw [if_pos hup]
      rcases lastMqtt_cases events with hmqtt | hmqtt | hmqtt <;> rw [hmqtt] <;> simp

/-- The state follows the events, and MQTT has not been heard of since WiFi went down. -/
structure Follows (events : List EventId) (state : NetworkState) : Prop where
  right : state = linkState events
  quiet : lastWifi events ≠ some .netWifiUp → lastMqtt events = none

theorem Follows.other {events : List EventId} {state : NetworkState} (h : Follows events state)
    {eventId : EventId} (hwifi : isWifi eventId = false) (hmqtt : isMqtt eventId = false)
    (hafter : state.after eventId = state) : Follows (events ++ [eventId]) (state.after eventId) := by
  have hne : eventId ≠ .netWifiDown := by
    rintro rfl
    cases hwifi
  have hlast : lastWifi (events ++ [eventId]) = lastWifi events := by
    rw [lastWifi_snoc, hwifi]
    rfl
  have hlastMqtt : lastMqtt (events ++ [eventId]) = lastMqtt events := by
    rw [lastMqtt_snoc, if_neg hne, hmqtt]
    rfl
  constructor
  · rw [hafter, linkState, hlast, hlastMqtt]
    exact h.right
  · rw [hlast, hlastMqtt]
    exact h.quiet

theorem Follows.step {events : List EventId} {state : NetworkState} (h : Follows events state)
    {eventId : EventId} (hmqtt : isMqtt eventId = true → lastWifi events = some .netWifiUp) :
    Follows (events ++ [eventId]) (state.after eventId) := by
  cases eventId with
  | netWifiUp =>
    have hwifi : lastWifi (events ++ [.netWifiUp]) = some .netWifiUp := lastWifi_snoc _ _
    have hlast : lastMqtt (events ++ [.netWifiUp]) = lastMqtt events := lastMqtt_snoc _ _
    refine ⟨?_, fun hdown => absurd hwifi hdown⟩
    rw [linkState, if_pos hwifi, hlast, h.right, linkState]
    by_cases hup : lastWifi events = some .netWifiUp
    · rw [if_pos hup]
      split <;> rfl
    · rw [if_neg hup, h.quiet hup]
      rfl
  | netWifiDown =>
    have hwifi : lastWifi (events ++ [.netWifiDown]) = some .netWifiDown := lastWifi_snoc _ _
    refine ⟨?_, fun _ => lastMqtt_snoc _ _⟩
    rw [linkState, hwifi]
    rfl
  | netMqttUp =>
    have hup := hmqtt rfl
    have hwifi : lastWifi (events ++ [.netMqttUp]) = some .netWifiUp :=
      (lastWifi_snoc _ _).trans hup
    have hlast : lastMqtt (events ++ [.netMqttUp]) = some .netMqttUp := lastMqtt_snoc _ _
    refine ⟨?_, fun hdown => absurd hwifi hdown⟩
    rw [linkState, if_pos hwifi, hlast]
    rfl
  | netMqttDown =>
    have hup := hmqtt rfl
    have hwifi : lastWifi (events ++ [.netMqttDown]) = some .netWifiUp :=
      (lastWifi_snoc _ _).trans hup
    have hlast : lastMqtt (events ++ [.netMqttDown]) = some .netMqttDown := lastMqtt_snoc _ _
    refine ⟨?_, fun hdown => absurd hwifi hdown⟩
    rw [linkState, if_pos hwifi, hlast]
    rfl
  | _ => exact h.other rfl rfl rfl

/-- An MQTT event that comes while WiFi is down leaves a wrong state. -/
theorem not_linkRight_mqtt {events : List EventId} {state : NetworkState} {eventId : EventId}
    (hmqtt : isMqtt eventId = true) (hdown : lastWifi events ≠ some .netWifiUp) :
    state.after eventId ≠ linkState (events ++ [eventId]) := by
  rw [isMqtt, Bool.or_eq_true, beq_iff_eq, beq_iff_eq] at hmqtt
  have hwifi : lastWifi (events ++ [eventId]) = lastWifi events := by
    rw [lastWifi_snoc]
    rcases hmqtt with rfl | rfl <;> rfl
  rw [linkState, hwifi, if_neg hdown]
  rcases hmqtt with rfl | rfl <;> exact fun heq => by cases heq

def eventIds (msgs : List Inbound) : List EventId := msgs.map Inbound.eventId

/-- In every run from the start the link state is right throughout, and nothing is transmitted while
WiFi is down, just when no MQTT event is handled while WiFi is down. -/
theorem linkRight_iff_mqtt_while_up (net : Option (NetPublishPort ω)) (outside : ω)
    (msgs : List Inbound) :
    let after (earlier : List Inbound) : NetworkActorState P ω :=
      Machine.run (step net) (start outside) earlier
    ((∀ earlier, earlier <+: msgs → LinkRight (eventIds earlier) (after earlier).ctx.state) ∧
      ∀ earlier msg, earlier ++ [msg] <+: msgs →
        lastWifi (eventIds earlier) ≠ some .netWifiUp →
          calls (after (earlier ++ [msg])) = calls (after earlier)) ↔
      ∀ earlier msg, earlier ++ [msg] <+: msgs → isMqtt msg.eventId = true →
        lastWifi (eventIds earlier) = some .netWifiUp := by
  intro after
  have hsnoc (earlier : List Inbound) (msg : Inbound) :
      after (earlier ++ [msg]) = step net (after earlier) msg :=
    Machine.run_append _ _ _ [msg]
  have hstate (earlier : List Inbound) (msg : Inbound) : (after (earlier ++ [msg])).ctx.state =
      (after earlier).ctx.state.after msg.eventId := by
    obtain ⟨_, _, _, _, hhandled⟩ := step_handled net (after earlier) msg
    rw [hsnoc]
    exact hhandled.state
  have hids (earlier : List Inbound) (msg : Inbound) :
      eventIds (earlier ++ [msg]) = eventIds earlier ++ [msg.eventId] := List.map_append
  constructor
  · rintro ⟨hright, -⟩ earlier msg hpre hmqtt
    by_contra hdown
    have hnext := linkRight_iff.mp (hright _ hpre)
    rw [hstate, hids] at hnext
    exact not_linkRight_mqtt hmqtt hdown hnext
  · intro hmqtt
    have hfollows (earlier : List Inbound) : earlier <+: msgs →
        Follows (eventIds earlier) (after earlier).ctx.state := by
      induction earlier using List.reverseRecOn with
      | nil => exact fun _ => ⟨rfl, fun _ => rfl⟩
      | append_singleton earlier msg ih =>
        intro hpre
        rw [hstate, hids]
        exact (ih ((List.prefix_append _ _).trans hpre)).step (hmqtt earlier msg hpre)
    refine ⟨fun earlier hpre => linkRight_iff.mpr (hfollows earlier hpre).right, ?_⟩
    intro earlier msg hpre hdown
    obtain ⟨made, _, _, hcalls, hhandled⟩ := step_handled net (after earlier) msg
    rw [hsnoc, hcalls]
    by_contra hmade
    have hconnected : (after earlier).ctx.state = .mqttConnected := by
      apply (hhandled.gated _).1
      rintro rfl
      exact hmade (List.append_nil _)
    rw [(hfollows earlier ((List.prefix_append _ _).trans hpre)).right, linkState, if_neg hdown]
      at hconnected
    cases hconnected

/-- MQTT goes down after WiFi, and the actor takes WiFi to be up. -/
theorem not_linkRight : ¬LinkRight
    (eventIds [⟨.netWifiUp, none, 0⟩, ⟨.netMqttUp, none, 0⟩, ⟨.netWifiDown, none, 0⟩,
      ⟨.netMqttDown, none, 0⟩])
    (Machine.run (step none) (start () : NetworkActorState Empty Unit)
      [⟨.netWifiUp, none, 0⟩, ⟨.netMqttUp, none, 0⟩, ⟨.netWifiDown, none, 0⟩,
        ⟨.netMqttDown, none, 0⟩]).ctx.state := by
  intro h
  have hdown := h.down (Or.inl rfl)
  cases hdown

end NetworkActor

end EventFramework
