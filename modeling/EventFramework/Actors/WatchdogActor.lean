import EventFramework.Actors.DevicePorts

/-!
# The watchdog actor

`ev_watchdog_actor.c`: a tick asks for a liveness snapshot, compares it with the one recorded
before and feeds the hardware watchdog if the system progressed.

A snapshot is recorded whenever one is obtained, also when it is rejected or the feed fails, so
that the recorded snapshot is always the latest one.
-/

namespace EventFramework
set_option autoImplicit false

variable {P ω : Type}

inductive ResetReason where
  | unknown
  | powerOn
  | software
  | watchdog
  | deepSleep
  | external
  | brownout
  deriving DecidableEq, Repr

def watchdogMinTimeoutMs : UInt32 := 1000

def watchdogMaxTimeoutMs : UInt32 := 60000

def watchdogMaxDomainSnapshots : Nat := 4

inductive WatchdogRejectReason where
  | none
  | unsupported
  | noLiveness
  | livenessError
  | notProgressing
  | domainStalled
  | sleepArming
  | permanentStall
  | feedFailed
  | badEvent
  | noSystemTurn
  deriving DecidableEq, Repr

structure WatchdogDomainSnapshot where
  domain : ExecutionDomain := .isr
  pumpCalls : UInt32 := 0
  pumpEmptyCalls : UInt32 := 0
  pumpBudgetHits : UInt32 := 0
  pendingMessages : Nat := 0
  lastResult : Result := .ok
  bound : Bool := false
  deriving DecidableEq, Repr

structure WatchdogLivenessSnapshot where
  systemTurnCounter : Nat := 0
  systemMessagesProcessed : Nat := 0
  systemPendingMessages : Nat := 0
  domainCount : Nat := 0
  domains : Vector WatchdogDomainSnapshot watchdogMaxDomainSnapshots := .replicate _ {}
  sleepArming : Bool := false
  permanentStall : Bool := false
  deriving DecidableEq, Repr

/-- `ev_wdt_port_t`. A query returns what its output variable holds after it. -/
structure WdtPort (ω : Type) where
  enable : UInt32 → ω → Result × ω
  feed : ω → Result × ω
  getResetReason : Option (ω → (Result × ResetReason) × ω)
  isSupported : Option (ω → (Result × Bool) × ω)

structure WatchdogPorts (ω : Type) where
  wdt : WdtPort ω
  liveness : Option (ω → (Result × WatchdogLivenessSnapshot) × ω)

inductive WatchdogCall where
  | isSupported (result : Result) (supported : Bool)
  | enable (timeoutMs : UInt32) (result : Result)
  | getResetReason (result : Result) (reason : ResetReason)
  | liveness (result : Result) (snapshot : WatchdogLivenessSnapshot)
  | feed (result : Result)

structure WatchdogActorStats where
  ticksSeen : UInt32 := 0
  feedAttempts : UInt32 := 0
  feedsOk : UInt32 := 0
  feedsFailed : UInt32 := 0
  healthRejects : UInt32 := 0
  unsupportedRejects : UInt32 := 0
  enableCalls : UInt32 := 0
  enableFailures : UInt32 := 0
  livenessErrors : UInt32 := 0
  lastRejectReason : WatchdogRejectReason := .none
  lastResetReason : ResetReason := .unknown
  deriving DecidableEq, Repr

/-- The snapshot recorded last is `none` while `has_last_snapshot` is false. -/
structure WatchdogActor where
  timeoutMs : UInt32
  enabled : Bool := false
  supported : Bool := false
  lastSnapshot : Option WatchdogLivenessSnapshot := none
  stats : WatchdogActorStats := {}
  deriving DecidableEq, Repr

abbrev WatchdogState (P ω : Type) := Running WatchdogActor P WatchdogCall ω

namespace WatchdogLivenessSnapshot

def entries (snapshot : WatchdogLivenessSnapshot) : List WatchdogDomainSnapshot :=
  snapshot.domains.toList.take snapshot.domainCount

def findLastDomain (snapshot : WatchdogLivenessSnapshot) (domain : ExecutionDomain) :
    Option WatchdogDomainSnapshot :=
  snapshot.entries.find? fun entry => entry.bound && entry.domain == domain

end WatchdogLivenessSnapshot

namespace WatchdogActor

def timeoutIsValid (timeoutMs : UInt32) : Bool :=
  watchdogMinTimeoutMs ≤ timeoutMs && timeoutMs ≤ watchdogMaxTimeoutMs

def domainResultIsHealthy (result : Result) : Bool :=
  result == .ok || result == .errEmpty || result == .errPartial

def domainProgressed (now last : WatchdogDomainSnapshot) : Bool :=
  now.pumpCalls != last.pumpCalls || now.pumpEmptyCalls != last.pumpEmptyCalls ||
    now.pumpBudgetHits != last.pumpBudgetHits

/-- The body of the loop over the domains. -/
def domainIsHealthy (last : Option WatchdogLivenessSnapshot) (domain : WatchdogDomainSnapshot) :
    Bool :=
  if !domain.bound then true
  else if !domainResultIsHealthy domain.lastResult then false
  else
    match last with
    | none => true
    | some last =>
      if domain.pendingMessages = 0 then true
      else
        match last.findLastDomain domain.domain with
        | none => false
        | some lastDomain => domainProgressed domain lastDomain

/-- The turn counter has not moved since the last snapshot. -/
def notProgressing (last : Option WatchdogLivenessSnapshot) (snapshot : WatchdogLivenessSnapshot) :
    Bool :=
  last.any fun last => snapshot.systemTurnCounter ≤ last.systemTurnCounter

/-- Why a snapshot is rejected, `none` for a healthy one. -/
def snapshotIsHealthy (last : Option WatchdogLivenessSnapshot) (snapshot : WatchdogLivenessSnapshot) :
    WatchdogRejectReason :=
  if snapshot.sleepArming then .sleepArming
  else if snapshot.permanentStall then .permanentStall
  else if watchdogMaxDomainSnapshots < snapshot.domainCount then .domainStalled
  else if snapshot.systemTurnCounter = 0 then .noSystemTurn
  else if notProgressing last snapshot then .notProgressing
  else if snapshot.entries.all (domainIsHealthy last) then .none
  else .domainStalled

def setStats (s : WatchdogState P ω) (update : WatchdogActorStats → WatchdogActorStats) :
    WatchdogState P ω :=
  s.setCtx { s.ctx with stats := update s.ctx.stats }

def record (s : WatchdogState P ω) (snapshot : WatchdogLivenessSnapshot) : WatchdogState P ω :=
  s.setCtx { s.ctx with lastSnapshot := some snapshot }

/-- The support probe, `true` where the port has none. -/
def probe (ports : WatchdogPorts ω) (s : WatchdogState P ω) :
    (Result × Bool) × WatchdogState P ω :=
  match ports.wdt.isSupported with
  | none => ((.ok, true), s)
  | some isSupported => s.call isSupported fun out => .isSupported out.1 out.2

def queryResetReason (ports : WatchdogPorts ω) (s : WatchdogState P ω) : WatchdogState P ω :=
  match ports.wdt.getResetReason with
  | none => s
  | some getResetReason =>
    let out := s.call getResetReason fun out => .getResetReason out.1 out.2
    setStats out.2 fun stats => { stats with lastResetReason := out.1.2 }

def tryEnable (ports : WatchdogPorts ω) (s : WatchdogState P ω) : Result × WatchdogState P ω :=
  let s := setStats s fun stats => { stats with enableCalls := stats.enableCalls + 1 }
  let out := s.call (ports.wdt.enable s.ctx.timeoutMs) (.enable s.ctx.timeoutMs)
  if out.1 ≠ .ok then
    (out.1, setStats out.2 fun stats =>
      { stats with
        enableFailures := stats.enableFailures + 1
        lastRejectReason := if out.1 = .errUnsupported then .unsupported else .feedFailed })
  else
    let s := queryResetReason ports out.2
    (.ok, s.setCtx { s.ctx with enabled := true })

def rejectUnsupported (s : WatchdogState P ω) : WatchdogState P ω :=
  setStats s fun stats =>
    { stats with
      unsupportedRejects := stats.unsupportedRejects + 1
      lastRejectReason := .unsupported }

/-- `ev_watchdog_actor_init`; an invalid timeout leaves no context. -/
def init (ports : WatchdogPorts ω) (timeoutMs : UInt32) (outside : ω) :
    Result × Option (WatchdogState P ω) :=
  if !timeoutIsValid timeoutMs then (.errInvalidArg, none)
  else
    let probed := probe ports { ctx := { timeoutMs := timeoutMs }, world := { outside := outside } }
    if probed.1.1 ≠ .ok then (probed.1.1, some (rejectUnsupported probed.2))
    else
      let s := probed.2.setCtx { probed.2.ctx with supported := probed.1.2 }
      if !probed.1.2 then (.errUnsupported, some (rejectUnsupported s))
      else
        let out := tryEnable ports s
        (out.1, some out.2)

def tryFeed (ports : WatchdogPorts ω) (s : WatchdogState P ω) (snapshot : WatchdogLivenessSnapshot) :
    Result × WatchdogState P ω :=
  let s := setStats s fun stats => { stats with feedAttempts := stats.feedAttempts + 1 }
  let out := s.call ports.wdt.feed .feed
  if out.1 ≠ .ok then
    (.ok, record (setStats out.2 fun stats =>
      { stats with feedsFailed := stats.feedsFailed + 1, lastRejectReason := .feedFailed }) snapshot)
  else
    (.ok, record (setStats out.2 fun stats =>
      { stats with feedsOk := stats.feedsOk + 1, lastRejectReason := .none }) snapshot)

/-- What follows a snapshot obtained with `EV_OK`. -/
def assess (ports : WatchdogPorts ω) (s : WatchdogState P ω) (snapshot : WatchdogLivenessSnapshot) :
    Result × WatchdogState P ω :=
  let reason := snapshotIsHealthy s.ctx.lastSnapshot snapshot
  if reason ≠ .none then
    (.ok, record (setStats s fun stats =>
      { stats with healthRejects := stats.healthRejects + 1, lastRejectReason := reason }) snapshot)
  else tryFeed ports s snapshot

def handle (ports : WatchdogPorts ω) (s : WatchdogState P ω) (msg : Inbound) :
    Result × WatchdogState P ω :=
  if msg.eventId ≠ .tick1s then
    (.ok, setStats s fun stats => { stats with lastRejectReason := .badEvent })
  else
    let s := setStats s fun stats => { stats with ticksSeen := stats.ticksSeen + 1 }
    if !s.ctx.enabled || !s.ctx.supported then (.ok, rejectUnsupported s)
    else
      match ports.liveness with
      | none =>
        (.ok, setStats s fun stats =>
          { stats with healthRejects := stats.healthRejects + 1, lastRejectReason := .noLiveness })
      | some liveness =>
        let out := s.call liveness fun out => .liveness out.1 out.2
        if out.1.1 ≠ .ok then
          (.ok, setStats out.2 fun stats =>
            { stats with
              livenessErrors := stats.livenessErrors + 1
              healthRejects := stats.healthRejects + 1
              lastRejectReason := .livenessError })
        else assess ports out.2 out.1.2

def step (ports : WatchdogPorts ω) : WatchdogState P ω → Inbound → WatchdogState P ω :=
  Running.step (handle ports)

/-- The latest snapshot that a liveness query returned with `EV_OK`. -/
def obtained : Option WatchdogLivenessSnapshot → ActorEvent P WatchdogCall →
    Option WatchdogLivenessSnapshot
  | _, .called (.liveness .ok snapshot) => some snapshot
  | last, _ => last

def latestSnapshot (history : List (ActorEvent P WatchdogCall)) : Option WatchdogLivenessSnapshot :=
  history.foldl obtained none

/-- The system is awake, and progressed since the snapshot before. -/
structure Progressed (last : Option WatchdogLivenessSnapshot) (snapshot : WatchdogLivenessSnapshot) :
    Prop where
  awake : snapshot.sleepArming = false
  noStall : snapshot.permanentStall = false
  counted : snapshot.domainCount ≤ watchdogMaxDomainSnapshots
  turned : snapshot.systemTurnCounter ≠ 0
  turning : ∀ before ∈ last, before.systemTurnCounter < snapshot.systemTurnCounter
  healthy : ∀ domain ∈ snapshot.entries, domain.bound = true →
    domain.lastResult ∈ [.ok, .errEmpty, .errPartial]
  pumping : ∀ before ∈ last, ∀ domain ∈ snapshot.entries, domain.bound = true →
    domain.pendingMessages ≠ 0 → ∃ entry, before.findLastDomain domain.domain = some entry ∧
      (domain.pumpCalls ≠ entry.pumpCalls ∨ domain.pumpEmptyCalls ≠ entry.pumpEmptyCalls ∨
        domain.pumpBudgetHits ≠ entry.pumpBudgetHits)

/-- A feed follows a tick and a snapshot that shows progress. -/
def FeedEarned (earlier : List (ActorEvent P WatchdogCall)) : ActorEvent P WatchdogCall → Prop
  | .called (.feed _) =>
    ∃ before msg snapshot, earlier = before ++ [.received msg, .called (.liveness .ok snapshot)] ∧
      msg.eventId = .tick1s ∧ Progressed (latestSnapshot before) snapshot
  | _ => True

structure FedOnProgress (s : WatchdogState P ω) : Prop where
  recorded : s.ctx.lastSnapshot = latestSnapshot s.world.history
  earned : Machine.Justified FeedEarned s.world.history
  usable : ∀ result, .called (.feed result) ∈ s.world.history →
    s.ctx.enabled = true ∧ s.ctx.supported = true

/-- The calls that the handling of one message makes and the snapshot it leaves recorded. -/
inductive Handled (last : Option WatchdogLivenessSnapshot) :
    List WatchdogCall → Option WatchdogLivenessSnapshot → Prop where
  | idle : Handled last [] last
  | unknown {result : Result} {snapshot : WatchdogLivenessSnapshot} :
    result ≠ .ok → Handled last [.liveness result snapshot] last
  | rejected {snapshot : WatchdogLivenessSnapshot} :
    Handled last [.liveness .ok snapshot] (some snapshot)
  | fed {snapshot : WatchdogLivenessSnapshot} {result : Result} :
    snapshotIsHealthy last snapshot = .none →
    Handled last [.liveness .ok snapshot, .feed result] (some snapshot)

theorem domainIsHealthy_iff {last : Option WatchdogLivenessSnapshot}
    {domain : WatchdogDomainSnapshot} (hbound : domain.bound = true) :
    domainIsHealthy last domain = true ↔
      domain.lastResult ∈ [.ok, .errEmpty, .errPartial] ∧
      ∀ before ∈ last, domain.pendingMessages ≠ 0 →
        ∃ entry, before.findLastDomain domain.domain = some entry ∧
          (domain.pumpCalls ≠ entry.pumpCalls ∨ domain.pumpEmptyCalls ≠ entry.pumpEmptyCalls ∨
            domain.pumpBudgetHits ≠ entry.pumpBudgetHits) := by
  have hresult : domainResultIsHealthy domain.lastResult = true ↔
      domain.lastResult ∈ [.ok, .errEmpty, .errPartial] := by
    simp [domainResultIsHealthy, or_assoc]
  unfold domainIsHealthy
  rw [hbound, ← hresult]
  by_cases hhealthy : domainResultIsHealthy domain.lastResult = true
  · cases last with
    | none => simp [hhealthy]
    | some before =>
      by_cases hpending : domain.pendingMessages = 0
      · simp [hhealthy, hpending]
      · cases hentry : before.findLastDomain domain.domain with
        | none => simp [hhealthy, hpending, hentry]
        | some entry => simp [hhealthy, hpending, hentry, domainProgressed, or_assoc]
  · simp [hhealthy]

theorem progressed_iff {last : Option WatchdogLivenessSnapshot}
    {snapshot : WatchdogLivenessSnapshot} :
    snapshotIsHealthy last snapshot = .none ↔ Progressed last snapshot := by
  have hdomains : snapshot.entries.all (domainIsHealthy last) = true ↔
      ∀ domain ∈ snapshot.entries, domain.bound = true → domainIsHealthy last domain = true := by
    rw [List.all_eq_true]
    constructor
    · exact fun h domain hmem _ => h domain hmem
    · intro h domain hmem
      cases hbound : domain.bound with
      | false => simp [domainIsHealthy, hbound]
      | true => exact h domain hmem hbound
  have hturning : notProgressing last snapshot = false ↔
      ∀ before ∈ last, before.systemTurnCounter < snapshot.systemTurnCounter := by
    cases last <;> simp [notProgressing]
  unfold snapshotIsHealthy
  constructor
  · intro h
    split at h
    · cases h
    rename_i hawake
    split at h
    · cases h
    rename_i hstall
    split at h
    · cases h
    rename_i hcount
    split at h
    · cases h
    rename_i hturned
    split at h
    · cases h
    rename_i hprogress
    split at h
    · rename_i hall
      have heach := hdomains.mp hall
      exact ⟨Bool.not_eq_true _ ▸ hawake, Bool.not_eq_true _ ▸ hstall, Nat.not_lt.mp hcount, hturned,
        hturning.mp (Bool.not_eq_true _ ▸ hprogress),
        fun domain hmem hbound => ((domainIsHealthy_iff hbound).mp (heach domain hmem hbound)).1,
        fun before hbefore domain hmem hbound =>
          ((domainIsHealthy_iff hbound).mp (heach domain hmem hbound)).2 before hbefore⟩
    · cases h
  · intro h
    have hall : snapshot.entries.all (domainIsHealthy last) = true :=
      hdomains.mpr fun domain hmem hbound => (domainIsHealthy_iff hbound).mpr
        ⟨h.healthy domain hmem hbound, fun before hbefore => h.pumping before hbefore domain hmem hbound⟩
    simp [h.awake, h.noStall, Nat.not_lt.mpr h.counted, h.turned, hturning.mpr h.turning, hall]

theorem tryFeed_spec (ports : WatchdogPorts ω) (s : WatchdogState P ω)
    (snapshot : WatchdogLivenessSnapshot) :
    ∃ result, (tryFeed ports s snapshot).2.world.history =
        s.world.history ++ [.called (.feed result)] ∧
      (tryFeed ports s snapshot).2.ctx.lastSnapshot = some snapshot ∧
      (tryFeed ports s snapshot).2.ctx.enabled = s.ctx.enabled ∧
      (tryFeed ports s snapshot).2.ctx.supported = s.ctx.supported := by
  refine ⟨(ports.wdt.feed s.world.outside).1, ?_⟩
  unfold tryFeed
  simp only
  split <;> exact ⟨rfl, rfl, rfl, rfl⟩

theorem assess_spec (ports : WatchdogPorts ω) (s : WatchdogState P ω)
    (snapshot : WatchdogLivenessSnapshot) :
    ∃ feeds, (assess ports s snapshot).2.world.history = s.world.history ++ feeds.map .called ∧
      Handled s.ctx.lastSnapshot (.liveness .ok snapshot :: feeds)
        (assess ports s snapshot).2.ctx.lastSnapshot ∧
      (assess ports s snapshot).2.ctx.enabled = s.ctx.enabled ∧
      (assess ports s snapshot).2.ctx.supported = s.ctx.supported := by
  unfold assess
  simp only
  split
  · exact ⟨[], (List.append_nil _).symm, .rejected, rfl, rfl⟩
  · rename_i hhealthy
    obtain ⟨result, hhistory, hlast, henabled, hsupported⟩ := tryFeed_spec ports s snapshot
    refine ⟨[.feed result], hhistory, ?_, henabled, hsupported⟩
    rw [hlast]
    exact .fed (not_not.mp hhealthy)

theorem handle_spec (ports : WatchdogPorts ω) (s : WatchdogState P ω) (msg : Inbound) :
    ∃ calls, (handle ports s msg).2.world.history = s.world.history ++ calls.map .called ∧
      Handled s.ctx.lastSnapshot calls (handle ports s msg).2.ctx.lastSnapshot ∧
      (handle ports s msg).2.ctx.enabled = s.ctx.enabled ∧
      (handle ports s msg).2.ctx.supported = s.ctx.supported ∧
      (calls ≠ [] → msg.eventId = .tick1s ∧ s.ctx.enabled = true ∧ s.ctx.supported = true) := by
  have hidle : s.world.history = s.world.history ++ ([] : List WatchdogCall).map .called :=
    (List.append_nil _).symm
  unfold handle
  by_cases htick : msg.eventId = .tick1s
  · rw [if_neg (not_not.mpr htick)]
    simp only
    split
    · exact ⟨[], hidle, .idle, rfl, rfl, fun h => absurd rfl h⟩
    · rename_i husable
      have hports : msg.eventId = .tick1s ∧ s.ctx.enabled = true ∧ s.ctx.supported = true := by
        simp only [setStats, Running.setCtx, Bool.or_eq_true, Bool.not_eq_true', not_or,
          Bool.not_eq_false] at husable
        exact ⟨htick, husable⟩
      split
      · exact ⟨[], hidle, .idle, rfl, rfl, fun h => absurd rfl h⟩
      · rename_i liveness _
        split
        · rename_i hfailed
          exact ⟨[_], rfl, .unknown hfailed, rfl, rfl, fun _ => hports⟩
        · rename_i hok
          obtain ⟨feeds, hhistory, hhandled, henabled, hsupported⟩ := assess_spec ports
            ((setStats s fun stats => { stats with ticksSeen := stats.ticksSeen + 1 }).call liveness
              fun out => .liveness out.1 out.2).2 (liveness s.world.outside).1.2
          refine ⟨.liveness .ok (liveness s.world.outside).1.2 :: feeds, ?_, hhandled, henabled,
            hsupported, fun _ => hports⟩
          have hquery : (liveness s.world.outside).1.1 = .ok := not_not.mp hok
          refine hhistory.trans ?_
          rw [List.map_cons, List.append_cons, ← hquery]
          rfl
  · rw [if_pos htick]
    exact ⟨[], hidle, .idle, rfl, rfl, fun h => absurd rfl h⟩

theorem latestSnapshot_append (earlier later : List (ActorEvent P WatchdogCall)) :
    latestSnapshot (earlier ++ later) = later.foldl obtained (latestSnapshot earlier) :=
  List.foldl_append

theorem latestSnapshot_handled {last recorded : Option WatchdogLivenessSnapshot}
    {calls : List WatchdogCall} (h : Handled last calls recorded) :
    (calls.map .called : List (ActorEvent P WatchdogCall)).foldl obtained last = recorded := by
  cases h with
  | idle => rfl
  | @unknown result snapshot hfailed =>
    cases result with
    | ok => exact absurd rfl hfailed
    | _ => rfl
  | rejected => rfl
  | fed hhealthy => rfl

theorem feedEarned_handled {history : List (ActorEvent P WatchdogCall)} {msg : Inbound}
    {result : Result} {last recorded : Option WatchdogLivenessSnapshot} {calls : List WatchdogCall}
    (h : Handled last calls recorded) (hlast : last = latestSnapshot history)
    (htick : calls ≠ [] → msg.eventId = .tick1s) (hearned : Machine.Justified FeedEarned history) :
    Machine.Justified FeedEarned
      (history ++ (.received msg :: (calls.map .called ++ [.returned result]))) := by
  apply Machine.justified_append _ hearned
  cases h with
  | idle => simp [Machine.justified_cons, Machine.justified_nil, FeedEarned]
  | unknown hfailed => simp [Machine.justified_cons, Machine.justified_nil, FeedEarned]
  | rejected => simp [Machine.justified_cons, Machine.justified_nil, FeedEarned]
  | @fed snapshot result hhealthy =>
    have hprogressed : Progressed (latestSnapshot history) snapshot := by
      rw [← hlast]
      exact progressed_iff.mp hhealthy
    have hfeed : FeedEarned (history ++ [.received msg, .called (.liveness .ok snapshot)])
        (.called (.feed result) : ActorEvent P WatchdogCall) :=
      ⟨history, msg, snapshot, rfl, htick (List.cons_ne_nil _ _), hprogressed⟩
    refine Machine.justified_cons.mpr ⟨trivial, Machine.justified_cons.mpr ⟨trivial,
      Machine.justified_cons.mpr ⟨hfeed, Machine.justified_cons.mpr ⟨trivial, ?_⟩⟩⟩⟩
    exact Machine.justified_nil

theorem step_fedOnProgress (ports : WatchdogPorts ω) (s : WatchdogState P ω) (msg : Inbound)
    (h : FedOnProgress s) : FedOnProgress (step ports s msg) := by
  obtain ⟨calls, hhistory, hhandled, henabled, hsupported, husable⟩ :=
    handle_spec ports (s.note (.received msg)) msg
  have hall : (step ports s msg).world.history = s.world.history ++
      (.received msg :: (calls.map .called ++ [.returned (handle ports (s.note (.received msg)) msg).1])) := by
    rw [List.append_cons, ← List.append_assoc]
    exact congrArg (· ++ _) hhistory
  constructor
  · rw [hall, latestSnapshot_append, ← h.recorded, List.foldl_cons, List.foldl_append]
    exact (latestSnapshot_handled hhandled).symm
  · rw [hall]
    exact feedEarned_handled hhandled h.recorded (fun hcalls => (husable hcalls).1) h.earned
  · intro result hmem
    have hkept : (step ports s msg).ctx.enabled = s.ctx.enabled ∧
        (step ports s msg).ctx.supported = s.ctx.supported := ⟨henabled, hsupported⟩
    rw [hkept.1, hkept.2]
    rw [hall] at hmem
    rcases List.mem_append.mp hmem with hearlier | hnow
    · exact h.usable result hearlier
    · apply (husable _).2
      rintro rfl
      simp at hnow

/-- Nothing was fed and no snapshot obtained. -/
structure Unfed (s : WatchdogState P ω) : Prop where
  unrecorded : s.ctx.lastSnapshot = none
  unobtained : latestSnapshot s.world.history = none
  unfed : ∀ result, .called (.feed result) ∉ s.world.history

theorem Unfed.fedOnProgress {s : WatchdogState P ω} (h : Unfed s) : FedOnProgress s where
  recorded := h.unrecorded.trans h.unobtained.symm
  earned := by
    intro earlier event hpre
    have hmem : event ∈ s.world.history := hpre.subset (List.mem_append_right _ List.mem_cons_self)
    unfold FeedEarned
    split
    · exact absurd hmem (h.unfed _)
    · trivial
  usable := fun result hmem => absurd hmem (h.unfed result)

theorem Unfed.setCtx {s : WatchdogState P ω} (h : Unfed s) {ctx : WatchdogActor}
    (hctx : ctx.lastSnapshot = s.ctx.lastSnapshot) : Unfed (s.setCtx ctx) where
  unrecorded := hctx.trans h.unrecorded
  unobtained := h.unobtained
  unfed := h.unfed

theorem Unfed.setStats {s : WatchdogState P ω} (h : Unfed s)
    (update : WatchdogActorStats → WatchdogActorStats) : Unfed (setStats s update) :=
  h.setCtx rfl

theorem Unfed.call {R : Type} {s : WatchdogState P ω} (h : Unfed s) (port : ω → R × ω)
    {record : R → WatchdogCall} (hfeed : ∀ out result, record out ≠ .feed result)
    (hliveness : ∀ out result snapshot, record out ≠ .liveness result snapshot) :
    Unfed (s.call port record).2 where
  unrecorded := h.unrecorded
  unobtained := by
    refine (latestSnapshot_append s.world.history [.called (record (port s.world.outside).1)]).trans ?_
    rw [h.unobtained, List.foldl_cons, List.foldl_nil]
    unfold obtained
    split
    · rename_i heq
      exact absurd (ActorEvent.called.inj heq) (hliveness _ _ _)
    · rfl
  unfed := by
    intro result hmem
    rcases List.mem_append.mp hmem with hearlier | hlast
    · exact h.unfed result hearlier
    · exact hfeed _ result (ActorEvent.called.inj (List.mem_singleton.mp hlast)).symm

theorem Unfed.probe (ports : WatchdogPorts ω) {s : WatchdogState P ω} (h : Unfed s) :
    Unfed (probe ports s).2 := by
  unfold WatchdogActor.probe
  split
  · exact h
  · exact h.call _ (fun _ _ heq => WatchdogCall.noConfusion heq) fun _ _ _ heq =>
      WatchdogCall.noConfusion heq

theorem Unfed.queryResetReason (ports : WatchdogPorts ω) {s : WatchdogState P ω} (h : Unfed s) :
    Unfed (queryResetReason ports s) := by
  unfold WatchdogActor.queryResetReason
  split
  · exact h
  · apply Unfed.setStats
    exact h.call _ (fun _ _ heq => WatchdogCall.noConfusion heq) fun _ _ _ heq =>
      WatchdogCall.noConfusion heq

theorem Unfed.tryEnable (ports : WatchdogPorts ω) {s : WatchdogState P ω} (h : Unfed s) :
    Unfed (tryEnable ports s).2 := by
  unfold WatchdogActor.tryEnable
  have hcounted : Unfed (WatchdogActor.setStats s fun stats =>
      { stats with enableCalls := stats.enableCalls + 1 }) := h.setStats _
  generalize WatchdogActor.setStats s (fun stats =>
    { stats with enableCalls := stats.enableCalls + 1 }) = counted at hcounted ⊢
  have henabled : Unfed
      (counted.call (ports.wdt.enable counted.ctx.timeoutMs) (.enable counted.ctx.timeoutMs)).2 :=
    hcounted.call _ (fun _ _ heq => WatchdogCall.noConfusion heq) fun _ _ _ heq =>
      WatchdogCall.noConfusion heq
  simp only
  split
  · dsimp only
    exact henabled.setStats _
  · dsimp only
    exact (henabled.queryResetReason ports).setCtx rfl

theorem init_unfed (ports : WatchdogPorts ω) (timeoutMs : UInt32) (outside : ω) :
    ∀ s ∈ (init ports timeoutMs outside).2, Unfed (P := P) s := by
  have hzero : Unfed ({ ctx := { timeoutMs := timeoutMs }, world := { outside := outside } } :
      WatchdogState P ω) :=
    ⟨rfl, rfl, fun _ => List.not_mem_nil⟩
  intro s hs
  unfold init at hs
  split at hs
  · cases hs
  · simp only at hs
    split at hs
    · cases hs
      exact (hzero.probe ports).setStats _
    · split at hs
      · cases hs
        refine Unfed.setStats (Unfed.setCtx (hzero.probe ports) ?_) _
        rfl
      · cases hs
        refine (Unfed.setCtx (hzero.probe ports) ?_).tryEnable ports
        rfl

/-- The watchdog is fed only on progress, and the recorded snapshot is always the latest. -/
theorem fed_only_on_progress (ports : WatchdogPorts ω) (timeoutMs : UInt32) (outside : ω)
    (msgs : List Inbound) :
    ∀ s ∈ (init ports timeoutMs outside).2,
      Machine.Always (step ports) (FedOnProgress (P := P)) s msgs :=
  fun s hs => Machine.always_of_step (fun s msg h => step_fedOnProgress ports s msg h)
    (init_unfed ports timeoutMs outside s hs).fedOnProgress msgs

def busySnapshot (counts : Nat × UInt32) : WatchdogLivenessSnapshot where
  systemTurnCounter := counts.1
  domainCount := 1
  domains := (Vector.replicate watchdogMaxDomainSnapshots {}).set 0
    { domain := .fastLoop, pumpCalls := counts.2, pendingMessages := 1, bound := true }

/-- A watchdog that always takes the feed, and the turns and pump calls of the snapshots to come. -/
def scripted : WatchdogPorts (List (Nat × UInt32)) where
  wdt := {
    enable := fun _ w => (.ok, w)
    feed := fun w => (.ok, w)
    getResetReason := none
    isSupported := none }
  liveness := some fun w => ((.ok, busySnapshot (w.headD (0, 0))), w.tail)

/-- In the second snapshot the fast loop has stalled, and in the third one it goes on. -/
theorem fed_only_on_progress_scripted :
    let s : WatchdogState Unit (List (Nat × UInt32)) :=
      (init scripted 3000 [(1, 1), (2, 1), (3, 2)]).2.get (by decide)
    let ticks : List Inbound := [{ eventId := .tick1s }, { eventId := .tick1s }, { eventId := .tick1s }]
    (Machine.run (step scripted) s ticks).ctx.stats.feedsOk = 2 ∧
      Machine.Always (step scripted) FedOnProgress s ticks :=
  ⟨by decide +kernel,
    fed_only_on_progress scripted 3000 [(1, 1), (2, 1), (3, 2)] _ _ (Option.get_mem _)⟩

end WatchdogActor

end EventFramework
