import EventFramework.Actors.Bh1750Actor
import EventFramework.Library.WrapClock

/-!
# The retry discipline of the BH1750 actor

The clock counts the ticks handled and does not wrap; the actor sees it modulo `2^32`. A measurement
is read no sooner than its wait after its start, a tick leaves the bus alone until the back-off after
the last failure is over, and the bus is never left alone for long.
-/

namespace EventFramework
set_option autoImplicit false

variable {P ω : Type}

open Bh1750Driver (validateAddr7 mapI2cStatus)

/-- What a history says about the measurements of a BH1750 actor. A read takes the start that it
belongs to. -/
structure Bh1750Log where
  clockMs : Nat := 0
  ticking : Bool := false
  attempts : Nat := 0
  started : Option (Nat × Bh1750Mode) := none
  failures : Nat := 0
  failedMs : Nat := 0

namespace Bh1750Log

def failed (log : Bh1750Log) : Bh1750Log :=
  { log with failures := log.failures + 1, failedMs := log.clockMs }

def startedMode : List UInt8 → Option Bh1750Mode
  | [command] => (Bh1750Driver.validateMode command.toUInt32).2
  | _ => none

def called (log : Bh1750Log) : I2cStreamCall → Bh1750Log
  | .writeStream data status =>
    let log := { log with attempts := log.attempts + 1 }
    if status ≠ .ok then log.failed
    else
      match startedMode data with
      | some mode => { log with started := some (log.clockMs, mode), failures := 0 }
      | none => log
  | .readStream _ status _ =>
    let log := { log with attempts := log.attempts + 1, started := none }
    if status ≠ .ok then log.failed else log

def note (log : Bh1750Log) : ActorEvent P I2cStreamCall → Bh1750Log
  | .received msg =>
    if msg.eventId = .tick100ms then { log with clockMs := log.clockMs + 100, ticking := true }
    else { log with ticking := false }
  | .called call => log.called call
  | _ => log

def ofHistory (history : List (ActorEvent P I2cStreamCall)) : Bh1750Log := history.foldl note {}

theorem ofHistory_snoc (history : List (ActorEvent P I2cStreamCall))
    (event : ActorEvent P I2cStreamCall) :
    ofHistory (history ++ [event]) = (ofHistory history).note event := List.foldl_concat ..

end Bh1750Log

namespace Bh1750Actor

def waitMs (mode : Bh1750Mode) : Nat := (Bh1750Driver.measurementWaitMs mode).toNat

def backoffAfter (failures : Nat) : Nat :=
  if failures = 0 then 0 else min (1000 * 2 ^ (failures - 1)) 10000

/-- A read has a start of its own that is as old as the wait of its mode. -/
def ReadInTime (log : Bh1750Log) : I2cStreamCall → Prop
  | .readStream _ _ _ =>
    ∃ startMs mode, log.started = some (startMs, mode) ∧ startMs + waitMs mode ≤ log.clockMs
  | .writeStream _ _ => True

/-- A tick that calls the bus comes after the back-off. -/
def TickInTime (log : Bh1750Log) : Prop :=
  log.ticking = true → 0 < log.failures → log.failedMs + backoffAfter log.failures ≤ log.clockMs

/-- Every call of the bus is made in time. -/
def Disciplined (earlier : List (ActorEvent P I2cStreamCall)) : ActorEvent P I2cStreamCall → Prop
  | .called call => ReadInTime (.ofHistory earlier) call ∧ TickInTime (.ofHistory earlier)
  | _ => True

def tickMs : Bh1750Input → Nat
  | .message msg => if msg.eventId = .tick100ms then 100 else 0
  | .configureMode _ => 0

def ticksMs (inputs : List Bh1750Input) : Nat := (inputs.map tickMs).sum

section Backoff

theorem backoffAfter_late {failures : Nat} (h : 5 ≤ failures) : backoffAfter failures = 10000 := by
  have hpow : 2 ^ 4 ≤ 2 ^ (failures - 1) := Nat.pow_le_pow_right (by decide) (by omega)
  rw [backoffAfter, if_neg (by omega)]
  omega

theorem backoffAfter_le (failures : Nat) : backoffAfter failures ≤ 10000 := by
  unfold backoffAfter
  split
  · exact Nat.zero_le _
  · exact Nat.min_le_right _ _

theorem backoffAfter_pos {failures : Nat} (h : 0 < failures) : 0 < backoffAfter failures := by
  have hpow : 0 < 2 ^ (failures - 1) := Nat.two_pow_pos _
  rw [backoffAfter, if_neg (by omega)]
  omega

/-- The doubling with its cap, which is no power of two, runs through the closed form. -/
theorem nextBackoff_eq (failures : Nat) :
    nextBackoff (UInt32.ofNat (backoffAfter failures)) = UInt32.ofNat (backoffAfter (failures + 1)) := by
  have hfirst : ∀ k, k < 5 →
      nextBackoff (UInt32.ofNat (backoffAfter k)) = UInt32.ofNat (backoffAfter (k + 1)) := by decide
  by_cases h : failures < 5
  · exact hfirst failures h
  · rw [backoffAfter_late (Nat.le_of_not_lt h), backoffAfter_late (by omega)]
    rfl

theorem waitMs_bounds (mode : Bh1750Mode) : 0 < waitMs mode ∧ waitMs mode ≤ 180 := by
  cases mode <;> decide

theorem startedMode_command (mode : Bh1750Mode) : Bh1750Log.startedMode [mode.command] = some mode := by
  cases mode <;> rfl

theorem startedMode_powerOn : Bh1750Log.startedMode [0x01] = none := rfl

/-- Around its deadline the clock of the actor can be read as if it did not wrap. -/
theorem deadlineDue_iff {clockMs dueMs : Nat} (hahead : dueMs ≤ clockMs + 10000)
    (hbehind : clockMs < dueMs + 100) :
    deadlineDue (UInt32.ofNat clockMs) (UInt32.ofNat dueMs) = true ↔ dueMs ≤ clockMs := by
  rw [deadlineDue, decide_eq_true_eq, WrapClock.signed_iff, WrapClock.reached_iff]
  · exact Int.ofNat_le
  · omega
  · omega

end Backoff

/-- The fields that do not depend on what the actor waits for. -/
structure Tracks (ctx : Bh1750Actor) (log : Bh1750Log) : Prop where
  now : ctx.actorNowMs = UInt32.ofNat log.clockMs
  wait : ctx.measurementWaitMs = Bh1750Driver.measurementWaitMs ctx.mode
  address : validateAddr7 ctx.device.address7bit = .ok
  backoff : ctx.retryBackoffMs = UInt32.ofNat (backoffAfter log.failures)

/-- The actor waits for a measurement, for a retry, or for the next tick. Its deadline is at most
`slack` over. -/
structure Waits (slack : Nat) (ctx : Bh1750Actor) (log : Bh1750Log) : Prop extends Tracks ctx log where
  measurement : ctx.measurementPending = true → log.failures = 0 ∧ ∃ startMs,
    log.started = some (startMs, ctx.mode) ∧ startMs ≤ log.clockMs ∧
      log.clockMs < startMs + waitMs ctx.mode + slack ∧
      ctx.measurementDeadlineMs = UInt32.ofNat (startMs + waitMs ctx.mode)
  retry : 0 < log.failures → log.failedMs ≤ log.clockMs ∧
    log.clockMs < log.failedMs + backoffAfter log.failures + slack ∧
    ctx.retryDeadlineMs = UInt32.ofNat (log.failedMs + backoffAfter log.failures)

def dueMs (ctx : Bh1750Actor) (log : Bh1750Log) : Nat :=
  if ctx.measurementPending then log.started.elim 0 fun start => start.1 + waitMs start.2
  else if 0 < log.failures then log.failedMs + backoffAfter log.failures
  else 0

section Fields

variable {ctx : Bh1750Actor} {log : Bh1750Log}

theorem Tracks.fails (h : Tracks ctx log) (hidle : ctx.measurementPending = false) (rc : Result) :
    Waits 0 (ctx.countFailure rc).scheduleOptionalRetry log.failed := by
  have hcount : (ctx.countFailure rc).actorNowMs = ctx.actorNowMs ∧
      (ctx.countFailure rc).retryBackoffMs = ctx.retryBackoffMs ∧
      (ctx.countFailure rc).measurementPending = ctx.measurementPending ∧
      (ctx.countFailure rc).measurementWaitMs = ctx.measurementWaitMs ∧
      (ctx.countFailure rc).mode = ctx.mode ∧ (ctx.countFailure rc).device = ctx.device := by
    unfold countFailure
    split <;> exact ⟨rfl, rfl, rfl, rfl, rfl, rfl⟩
  obtain ⟨hnow, hbackoff, hpending, hwait, hmode, hdevice⟩ := hcount
  have hnext : nextBackoff (ctx.countFailure rc).retryBackoffMs =
      UInt32.ofNat (backoffAfter (log.failures + 1)) := by
    rw [hbackoff, h.backoff, nextBackoff_eq]
  have hpos := backoffAfter_pos (Nat.succ_pos log.failures)
  refine ⟨⟨hnow.trans h.now, ?_, ?_, hnext⟩, ?_, fun _ => ⟨Nat.le_refl _, ?_, ?_⟩⟩
  · exact hwait.trans (h.wait.trans (congrArg Bh1750Driver.measurementWaitMs hmode.symm))
  · exact (congrArg (fun d : I2cDevice => validateAddr7 d.address7bit) hdevice).trans h.address
  · intro hset
    have hfalse := hpending.trans hidle
    exact absurd (hset.symm.trans hfalse) Bool.noConfusion
  · exact Nat.lt_add_of_pos_right hpos
  · change (ctx.countFailure rc).actorNowMs + nextBackoff (ctx.countFailure rc).retryBackoffMs = _
    rw [hnext, hnow, h.now, ← UInt32.ofNat_add]
    rfl

theorem Tracks.starts (h : Tracks ctx log) :
    Waits 0 (ctx.recordStart .ok) { log with started := some (log.clockMs, ctx.mode), failures := 0 } := by
  have hpos := (waitMs_bounds ctx.mode).1
  refine ⟨⟨h.now, h.wait, h.address, rfl⟩, fun _ => ⟨rfl, log.clockMs, rfl, Nat.le_refl _, ?_, ?_⟩,
    fun hfailed => absurd hfailed (Nat.lt_irrefl 0)⟩
  · exact Nat.lt_add_of_pos_right hpos
  · have hword : (Bh1750Driver.measurementWaitMs ctx.mode).toUInt32 = UInt32.ofNat (waitMs ctx.mode) := by
      cases ctx.mode <;> rfl
    change ctx.actorNowMs + ctx.measurementWaitMs.toUInt32 = _
    rw [h.now, h.wait, hword, ← UInt32.ofNat_add]
    rfl

theorem Waits.dueMs_le (h : Waits 0 ctx log) : dueMs ctx log ≤ log.clockMs + 10000 := by
  unfold dueMs
  split
  · rename_i hpending
    obtain ⟨_, startMs, hstarted, hbefore, _⟩ := h.measurement hpending
    have hwait := (waitMs_bounds ctx.mode).2
    rw [hstarted]
    change startMs + waitMs ctx.mode ≤ _
    omega
  · split
    · rename_i hfailures
      have hbefore := (h.retry hfailures).1
      have hbackoff := backoffAfter_le log.failures
      omega
    · omega

theorem Tracks.attempted (h : Tracks ctx log) : Tracks ctx { log with attempts := log.attempts + 1 } :=
  ⟨h.now, h.wait, h.address, h.backoff⟩

theorem Tracks.recordStart_fails (h : Tracks ctx log) {rc : Result} (hrc : rc ≠ .ok) :
    Waits 0 (ctx.recordStart rc) log.failed := by
  have hidle : Tracks { ctx with measurementPending := false } log :=
    ⟨h.now, h.wait, h.address, h.backoff⟩
  rw [recordStart, if_neg hrc]
  exact hidle.fails rfl rc

end Fields

def log (s : Bh1750State P ω) : Bh1750Log := .ofHistory s.world.history

def Sound (s : Bh1750State P ω) : Prop := Machine.Justified Disciplined s.world.history

/-- The bus was called between two states, and the actor waits again. -/
structure Attempted (s s' : Bh1750State P ω) : Prop where
  waits : Waits 0 s'.ctx (log s')
  sound : Sound s'
  attempts : (log s).attempts < (log s').attempts

section Calls

variable (ports : Bh1750Ports P ω) {s : Bh1750State P ω}

theorem log_note (s : Bh1750State P ω) (event : ActorEvent P I2cStreamCall) :
    log (s.note event) = (log s).note event := Bh1750Log.ofHistory_snoc _ _

theorem Sound.note {event : ActorEvent P I2cStreamCall} (h : Sound s)
    (hevent : Disciplined s.world.history event) : Sound (s.note event) :=
  Machine.justified_snoc.mpr ⟨h, hevent⟩

theorem writeCommand_spec {device : I2cDevice} (command : UInt8)
    (haddress : validateAddr7 device.address7bit = .ok) (hsound : Sound s)
    (htick : TickInTime (log s)) :
    ∃ status, (Bh1750Driver.writeCommand ports.i2c device command s).1 = mapI2cStatus status ∧
      (Bh1750Driver.writeCommand ports.i2c device command s).2.ctx = s.ctx ∧
      log (Bh1750Driver.writeCommand ports.i2c device command s).2 =
        (log s).called (.writeStream [command] status) ∧
      Sound (Bh1750Driver.writeCommand ports.i2c device command s).2 := by
  unfold Bh1750Driver.writeCommand
  simp only [haddress, ne_eq, not_true_eq_false, if_false]
  refine ⟨_, rfl, rfl, Bh1750Log.ofHistory_snoc _ _, ?_⟩
  exact Machine.justified_snoc.mpr ⟨hsound, trivial, htick⟩

theorem readMeasurement_spec {device : I2cDevice}
    (haddress : validateAddr7 device.address7bit = .ok) (hsound : Sound s)
    (htick : TickInTime (log s))
    (hread : ∃ startMs mode, (log s).started = some (startMs, mode) ∧
      startMs + waitMs mode ≤ (log s).clockMs) :
    ∃ status data, (Bh1750Driver.readMeasurement ports.i2c device s).1.1 = mapI2cStatus status ∧
      (Bh1750Driver.readMeasurement ports.i2c device s).2.ctx = s.ctx ∧
      log (Bh1750Driver.readMeasurement ports.i2c device s).2 =
        (log s).called (.readStream 2 status data) ∧
      Sound (Bh1750Driver.readMeasurement ports.i2c device s).2 := by
  let out := s.call (ports.i2c.readStream device 2) fun out => .readStream 2 out.1 out.2
  have hcall : out.2.ctx = s.ctx ∧
      log out.2 = (log s).called (.readStream 2 out.1.1 out.1.2) ∧ Sound out.2 :=
    ⟨rfl, Bh1750Log.ofHistory_snoc _ _, Machine.justified_snoc.mpr ⟨hsound, hread, htick⟩⟩
  refine ⟨out.1.1, out.1.2, ?_⟩
  unfold Bh1750Driver.readMeasurement
  simp only [haddress, ne_eq, not_true_eq_false, if_false]
  split
  · exact ⟨rfl, hcall⟩
  · rename_i hok
    exact ⟨(not_not.mp hok).symm, hcall⟩

theorem publishEvent_quiet (eventId : EventId) (payload : Option (List UInt8))
    (h : ActorWorld.publishable eventId .bh1750 (payload.map List.length) = true) (hsound : Sound s) :
    (s.publishEvent ports.delivery eventId .bh1750 payload).2.ctx = s.ctx ∧
      log (s.publishEvent ports.delivery eventId .bh1750 payload).2 = log s ∧
      Sound (s.publishEvent ports.delivery eventId .bh1750 payload).2 := by
  obtain ⟨rc, outside, heq⟩ := Running.publishEvent_spec ports.delivery eventId .bh1750 payload h s
  rw [heq]
  exact ⟨rfl, Bh1750Log.ofHistory_snoc _ _, Machine.justified_snoc.mpr ⟨hsound, trivial⟩⟩

theorem called_failed (log : Bh1750Log) (data : List UInt8) {status : I2cStatus}
    (h : status ≠ .ok) :
    log.called (.writeStream data status) = { log with attempts := log.attempts + 1 }.failed :=
  if_pos h

theorem startMeasurement_attempts (h : Tracks s.ctx (log s)) (hsound : Sound s)
    (htick : TickInTime (log s)) : Attempted s (startMeasurement ports s).2 := by
  obtain ⟨status, hrc, hctx, hlog, hsound'⟩ :=
    writeCommand_spec ports s.ctx.mode.command h.address hsound htick
  unfold startMeasurement Bh1750Driver.startMeasurement
  generalize Bh1750Driver.writeCommand ports.i2c s.ctx.device s.ctx.mode.command s = out
    at hrc hctx hlog hsound'
  have hwaits : Waits 0 (s.ctx.recordStart out.1) (log out.2) ∧
      (log s).attempts < (log out.2).attempts := by
    rw [hrc, hlog]
    by_cases hok : status = .ok
    · have hstarted : (log s).called (.writeStream [s.ctx.mode.command] .ok) =
          { log s with
            attempts := (log s).attempts + 1
            started := some ((log s).clockMs, s.ctx.mode)
            failures := 0 } := by
        simp [Bh1750Log.called, startedMode_command]
      rw [hok, hstarted]
      exact ⟨h.attempted.starts, Nat.lt_succ_self _⟩
    · rw [called_failed _ _ hok]
      exact ⟨h.attempted.recordStart_fails (mt Bh1750Driver.mapI2cStatus_ok.mp hok), Nat.lt_succ_self _⟩
  rw [← hctx] at hwaits
  exact ⟨hwaits.1, hsound', hwaits.2⟩

theorem boot_attempts (h : Tracks s.ctx (log s)) (hsound : Sound s) (htick : TickInTime (log s)) :
    Attempted s (boot ports s).2 := by
  obtain ⟨status, hrc, hctx, hlog, hsound'⟩ := writeCommand_spec ports 0x01 h.address hsound htick
  unfold boot Bh1750Driver.powerOn
  generalize Bh1750Driver.writeCommand ports.i2c s.ctx.device 0x01 s = out at hrc hctx hlog hsound'
  simp only
  by_cases hok : status = .ok
  · have hpowered : log out.2 = { log s with attempts := (log s).attempts + 1 } := by
      rw [hlog, hok]
      simp [Bh1750Log.called, startedMode_powerOn]
    rw [if_neg (not_not.mpr (hrc.trans (Bh1750Driver.mapI2cStatus_ok.mpr hok)))]
    have htracks : Tracks out.2.ctx (log out.2) := by
      rw [hctx, hpowered]
      exact h.attempted
    have htick' : TickInTime (log out.2) := by
      rw [hpowered]
      exact htick
    obtain ⟨hwaits, hsound'', hmore⟩ := startMeasurement_attempts ports htracks hsound' htick'
    rw [hpowered] at hmore
    exact ⟨hwaits, hsound'', Nat.lt_of_succ_lt hmore⟩
  · have hfailed : out.1 ≠ .ok := by
      rw [hrc]
      exact mt Bh1750Driver.mapI2cStatus_ok.mp hok
    rw [if_pos hfailed]
    rw [called_failed _ _ hok] at hlog
    have hwaits := h.attempted.recordStart_fails hfailed
    rw [← hctx, ← hlog] at hwaits
    have hmore : (log s).attempts < (log out.2).attempts := by
      rw [hlog]
      exact Nat.lt_succ_self _
    exact ⟨hwaits, hsound', hmore⟩

structure Idle (s : Bh1750State P ω) : Prop where
  tracks : Tracks s.ctx (log s)
  idle : s.ctx.measurementPending = false
  clean : (log s).failures = 0
  sound : Sound s

theorem Idle.waits (h : Idle s) : Waits 0 s.ctx (log s) where
  toTracks := h.tracks
  measurement hpending := absurd (hpending.symm.trans h.idle) Bool.noConfusion
  retry hfailures := absurd h.clean (Nat.ne_of_gt hfailures)

theorem Idle.inTime (h : Idle s) : TickInTime (log s) :=
  fun _ hfailures => absurd h.clean (Nat.ne_of_gt hfailures)

theorem Idle.publishEvent (h : Idle s) (eventId : EventId) (payload : Option (List UInt8))
    (hpublishable : ActorWorld.publishable eventId .bh1750 (payload.map List.length) = true) :
    Idle (s.publishEvent ports.delivery eventId .bh1750 payload).2 ∧
      log (s.publishEvent ports.delivery eventId .bh1750 payload).2 = log s := by
  obtain ⟨hctx, hlog, hsound⟩ := publishEvent_quiet ports eventId payload hpublishable h.sound
  refine ⟨⟨?_, ?_, ?_, hsound⟩, hlog⟩
  · rw [hctx, hlog]
    exact h.tracks
  · rw [hctx]
    exact h.idle
  · rw [hlog]
    exact h.clean

theorem acceptLight_idle (h : Idle s) (raw : UInt16) (milliLux : UInt32) :
    Idle (acceptLight ports raw milliLux s).2 ∧ log (acceptLight ports raw milliLux s).2 = log s := by
  let accepted := s.setCtx { s.ctx with
    sensorPresent := true
    lastReadOk := true
    lastRaw := raw
    lastMilliLux := milliLux
    lightValid := true
    measurementsOk := s.ctx.measurementsOk + 1 }
  have haccepted : Idle accepted := ⟨⟨h.tracks.now, h.tracks.wait, h.tracks.address, h.tracks.backoff⟩,
    h.idle, h.clean, h.sound⟩
  let ready := if !accepted.ctx.readyPublished then publishReady ports accepted else (.ok, accepted)
  have hready : Idle ready.2 ∧ log ready.2 = log s := by
    change Idle (if _ then _ else _ : Result × Bh1750State P ω).2 ∧ log (if _ then _ else _ :
      Result × Bh1750State P ω).2 = _
    split
    · exact haccepted.publishEvent ports .bh1750Ready none rfl
    · exact ⟨haccepted, rfl⟩
  change Idle (if ready.1 ≠ .ok then ready else _).2 ∧ log (if ready.1 ≠ .ok then ready else _).2 = _
  split
  · exact hready
  · have hmarked : Idle (ready.2.setCtx { ready.2.ctx with readyPublished := true }) :=
      ⟨⟨hready.1.tracks.now, hready.1.tracks.wait, hready.1.tracks.address, hready.1.tracks.backoff⟩,
        hready.1.idle, hready.1.clean, hready.1.sound⟩
    obtain ⟨hidle, hlog⟩ := hmarked.publishEvent ports .lightUpdated (some (lightBytes raw milliLux)) rfl
    exact ⟨hidle, hlog.trans hready.2⟩

theorem tryRead_attempts (h : Waits 100 s.ctx (log s)) (hsound : Sound s)
    (hpending : s.ctx.measurementPending = true)
    (hdue : deadlineDue s.ctx.actorNowMs s.ctx.measurementDeadlineMs = true) :
    Attempted s (tryRead ports s).2 := by
  obtain ⟨hclean, startMs, hstarted, hbefore, hlate, hdeadline⟩ := h.measurement hpending
  have hwaited : startMs + waitMs s.ctx.mode ≤ (log s).clockMs := by
    have hwait := (waitMs_bounds s.ctx.mode).2
    rw [h.now, hdeadline, deadlineDue_iff (by omega) (by omega)] at hdue
    exact hdue
  have htick : TickInTime (log s) := fun _ hfailures => absurd hclean (Nat.ne_of_gt hfailures)
  let cleared := s.setCtx { s.ctx with measurementPending := false }
  obtain ⟨status, data, hrc, hctx, hlog, hsound'⟩ := readMeasurement_spec ports (s := cleared)
    h.address hsound htick ⟨startMs, s.ctx.mode, hstarted, hwaited⟩
  unfold tryRead
  simp only [hpending, hdue, Bool.not_true, Bool.false_eq_true, if_false]
  change (Bh1750Driver.readMeasurement ports.i2c s.ctx.device cleared).2.ctx = cleared.ctx at hctx
  generalize Bh1750Driver.readMeasurement ports.i2c s.ctx.device cleared = read
    at hrc hctx hlog hsound'
  by_cases hok : status = .ok
  · have hread : log read.2 = { log s with attempts := (log s).attempts + 1, started := none } := by
      rw [hlog, hok]
      rfl
    have hidle : Idle read.2 := by
      refine ⟨?_, ?_, ?_, hsound'⟩
      · rw [hctx, hread]
        exact ⟨h.now, h.wait, h.address, h.backoff⟩
      · rw [hctx]
        rfl
      · rw [hread]
        exact hclean
    rw [if_pos (hrc.trans (Bh1750Driver.mapI2cStatus_ok.mpr hok))]
    obtain ⟨haccepted, hkept⟩ := acceptLight_idle ports hidle read.1.2.1 read.1.2.2
    have hmore : (log s).attempts < (log (acceptLight ports read.1.2.1 read.1.2.2 read.2).2).attempts := by
      rw [hkept, hread]
      exact Nat.lt_succ_self _
    split
    · have hstart := startMeasurement_attempts ports haccepted.tracks haccepted.sound haccepted.inTime
      exact ⟨hstart.waits, hstart.sound, Nat.lt_trans hmore hstart.attempts⟩
    · exact ⟨haccepted.waits, haccepted.sound, hmore⟩
  · have hfailed : read.1.1 ≠ .ok := by
      rw [hrc]
      exact mt Bh1750Driver.mapI2cStatus_ok.mp hok
    have hread : log read.2 =
        { log s with attempts := (log s).attempts + 1, started := none }.failed := by
      rw [hlog]
      exact if_pos hok
    have htracks : Tracks { read.2.ctx with lastReadOk := false }
        { log s with attempts := (log s).attempts + 1, started := none } := by
      rw [hctx]
      exact ⟨h.now, h.wait, h.address, h.backoff⟩
    have hwaits := htracks.fails (congrArg measurementPending hctx) read.1.1
    rw [if_neg hfailed]
    rw [← hread] at hwaits
    have hmore : (log s).attempts < (log read.2).attempts := by
      rw [hread]
      exact Nat.lt_succ_self _
    exact ⟨hwaits, hsound', hmore⟩

end Calls

section Steps

variable (ports : Bh1750Ports P ω) {s : Bh1750State P ω}

/-- Ticks went by between two states, the bus was left alone, and nothing is due yet. -/
structure Quiet (ms : Nat) (s s' : Bh1750State P ω) : Prop where
  attempts : (log s').attempts = (log s).attempts
  due : dueMs s'.ctx (log s') = dueMs s.ctx (log s)
  clock : (log s').clockMs = (log s).clockMs + ms
  early : 0 < ms → (log s').clockMs < dueMs s'.ctx (log s')

/-- What a step that counts `ms` milliseconds does. -/
structure Stepped (ms : Nat) (s s' : Bh1750State P ω) : Prop where
  waits : Waits 0 s'.ctx (log s')
  sound : Sound s'
  progress : (log s).attempts < (log s').attempts ∨ Quiet ms s s'

theorem Waits.counted {ctx : Bh1750Actor} {log : Bh1750Log} (h : Waits 0 ctx log) :
    Waits 100 { ctx with actorNowMs := ctx.actorNowMs + bh1750TickDeltaMs }
      { log with clockMs := log.clockMs + 100, ticking := true } where
  now := by
    change ctx.actorNowMs + 100 = _
    rw [h.now, UInt32.ofNat_add]
    rfl
  wait := h.wait
  address := h.address
  backoff := h.backoff
  measurement hpending := by
    obtain ⟨hclean, startMs, hstarted, hbefore, hlate, hdeadline⟩ := h.measurement hpending
    exact ⟨hclean, startMs, hstarted, Nat.le_add_right_of_le hbefore, Nat.add_lt_add_right hlate 100,
      hdeadline⟩
  retry hfailures := by
    obtain ⟨hbefore, hlate, hdeadline⟩ := h.retry hfailures
    exact ⟨Nat.le_add_right_of_le hbefore, Nat.add_lt_add_right hlate 100, hdeadline⟩

theorem optionalRetryDue_iff {ctx : Bh1750Actor} {log : Bh1750Log} (h : Waits 100 ctx log) :
    ctx.optionalRetryDue = true ↔
      (0 < log.failures → log.failedMs + backoffAfter log.failures ≤ log.clockMs) := by
  unfold optionalRetryDue
  by_cases hfailures : 0 < log.failures
  · obtain ⟨hbefore, hlate, hdeadline⟩ := h.retry hfailures
    have hpos := backoffAfter_pos hfailures
    have hmax := backoffAfter_le log.failures
    have hset : ctx.retryBackoffMs ≠ 0 := by
      rw [h.backoff]
      intro hzero
      have hword := congrArg UInt32.toNat hzero
      rw [UInt32.toNat_ofNat_of_lt' (by change backoffAfter log.failures < 2 ^ 32; omega)] at hword
      exact absurd hword (Nat.ne_of_gt hpos)
    rw [if_neg hset, h.now, hdeadline, deadlineDue_iff (by omega) hlate]
    exact ⟨fun hle _ => hle, fun hle => hle hfailures⟩
  · have hnone : log.failures = 0 := Nat.eq_zero_of_not_pos hfailures
    have hclear : ctx.retryBackoffMs = 0 := by
      rw [h.backoff, hnone]
      rfl
    rw [if_pos hclear]
    exact iff_of_true rfl fun hpos => absurd hpos hfailures

/-- A tick after its time is counted: it calls the bus just when something is due. -/
theorem tick_stepped {counted : Bh1750State P ω}
    (hcounted : counted = s.setCtx { s.ctx with actorNowMs := s.ctx.actorNowMs + bh1750TickDeltaMs })
    (h : Waits 100 counted.ctx (log counted)) (hsound : Sound counted) :
    Attempted counted (tick ports bh1750TickDeltaMs s).2 ∨
      Waits 0 (tick ports bh1750TickDeltaMs s).2.ctx (log (tick ports bh1750TickDeltaMs s).2) ∧
        Sound (tick ports bh1750TickDeltaMs s).2 ∧
        log (tick ports bh1750TickDeltaMs s).2 = log counted ∧
        (tick ports bh1750TickDeltaMs s).2.ctx.measurementPending = counted.ctx.measurementPending ∧
        (log counted).clockMs < dueMs counted.ctx (log counted) := by
  unfold tick
  simp only [← hcounted]
  cases hpending : counted.ctx.measurementPending with
  | true =>
    obtain ⟨hclean, startMs, hstarted, hbefore, hlate, hdeadline⟩ := h.measurement hpending
    simp only [Bool.not_true, Bool.false_eq_true, if_false]
    by_cases hdue : deadlineDue counted.ctx.actorNowMs counted.ctx.measurementDeadlineMs = true
    · left
      exact tryRead_attempts ports h hsound hpending hdue
    · right
      have hearly : (log counted).clockMs < startMs + waitMs counted.ctx.mode := by
        have hwait := (waitMs_bounds counted.ctx.mode).2
        rw [h.now, hdeadline, deadlineDue_iff (by omega) (by omega)] at hdue
        exact Nat.lt_of_not_le hdue
      unfold tryRead
      simp only [hpending, hdue, Bool.not_true, Bool.not_false, Bool.false_eq_true, if_false, if_true]
      refine ⟨⟨⟨h.now, h.wait, h.address, h.backoff⟩, fun _ => ⟨hclean, startMs, hstarted, hbefore,
        hearly, hdeadline⟩, fun hfailures => absurd hclean (Nat.ne_of_gt hfailures)⟩, hsound, rfl,
        rfl, ?_⟩
      rw [dueMs, if_pos hpending, hstarted]
      exact hearly
  | false =>
    simp only [Bool.not_false, if_true]
    by_cases hdue : counted.ctx.optionalRetryDue = true
    · left
      have htick : TickInTime (log counted) := fun _ => (optionalRetryDue_iff h).mp hdue
      simp only [hdue, Bool.not_true, Bool.false_eq_true, if_false]
      split
      · exact boot_attempts ports h.toTracks hsound htick
      · exact startMeasurement_attempts ports h.toTracks hsound htick
    · right
      obtain ⟨hfailures, hearly⟩ := Classical.not_imp.mp (mt (optionalRetryDue_iff h).mpr hdue)
      have hretry := h.retry hfailures
      simp only [hdue, Bool.not_false, if_true]
      refine ⟨⟨⟨h.now, h.wait, h.address, h.backoff⟩, fun hset => absurd hset Bool.false_ne_true,
        fun _ => ⟨hretry.1, Nat.lt_of_not_le hearly, hretry.2.2⟩⟩, hsound, rfl, rfl, ?_⟩
      rw [dueMs, hpending, if_neg Bool.false_ne_true, if_pos hfailures]
      exact Nat.lt_of_not_le hearly

theorem Stepped.returned {t : Bh1750State P ω} {ms : Nat} (h : Stepped ms s t) (rc : Result) :
    Stepped ms s (t.note (.returned rc)) := by
  have hlog : log (t.note (.returned rc)) = log t := log_note t (.returned rc)
  refine ⟨?_, h.sound.note trivial, ?_⟩
  · rw [hlog]
    exact h.waits
  · rcases h.progress with hmore | hquiet
    · left
      rwa [hlog]
    · right
      exact ⟨by rw [hlog]; exact hquiet.attempts, by rw [hlog]; exact hquiet.due,
        by rw [hlog]; exact hquiet.clock, by rw [hlog]; exact hquiet.early⟩

theorem handleTick_stepped (h : Waits 0 s.ctx (log s)) (hsound : Sound s) {msg : Inbound}
    (hmsg : msg.eventId = .tick100ms) :
    Stepped 100 s (tick ports bh1750TickDeltaMs (s.note (.received msg))).2 := by
  let received := s.note (.received msg)
  have hlog : log received = { log s with clockMs := (log s).clockMs + 100, ticking := true } := by
    rw [log_note, Bh1750Log.note, if_pos hmsg]
  have hcounted := h.counted
  rw [← hlog] at hcounted
  rcases tick_stepped ports (s := received) rfl hcounted (hsound.note trivial) with
    hattempted | ⟨hwaits, hsound', hsame, hpending, hearly⟩
  · have hmore := hattempted.attempts
    change (log received).attempts < _ at hmore
    rw [hlog] at hmore
    exact ⟨hattempted.waits, hattempted.sound, Or.inl hmore⟩
  · change log _ = log received at hsame
    change (log received).clockMs < dueMs _ (log received) at hearly
    have hdue : dueMs (tick ports bh1750TickDeltaMs received).2.ctx (log received) =
        dueMs s.ctx (log s) := by
      unfold dueMs
      rw [hpending, hlog]
      rfl
    refine ⟨hwaits, hsound', Or.inr ⟨?_, ?_, ?_, fun _ => ?_⟩⟩
    · rw [hsame, hlog]
    · rw [hsame, hdue]
    · rw [hsame, hlog]
    · rw [hsame, hdue]
      have hsame' : dueMs s.ctx (log s) = dueMs received.ctx (log received) := by
        unfold dueMs
        rw [hlog]
        rfl
      rw [hsame']
      exact hearly

theorem handle_stepped (h : Waits 0 s.ctx (log s)) (hsound : Sound s) {msg : Inbound}
    (hmsg : msg.eventId ≠ .tick100ms) : Stepped 0 s (handle ports (s.note (.received msg)) msg).2 := by
  let received := s.note (.received msg)
  have hlog : log received = { log s with ticking := false } := by
    rw [log_note, Bh1750Log.note, if_neg hmsg]
  have hsound' : Sound received := hsound.note trivial
  have hwaits : Waits 0 received.ctx (log received) := by
    rw [hlog]
    exact ⟨⟨h.now, h.wait, h.address, h.backoff⟩, h.measurement, h.retry⟩
  have hquiet (ctx : Bh1750Actor) (hctx : Waits 0 ctx (log received))
      (hpending : ctx.measurementPending = s.ctx.measurementPending) :
      Stepped 0 s (received.setCtx ctx) := by
    refine ⟨hctx, hsound', Or.inr ⟨?_, ?_, ?_, fun hpos => absurd hpos (Nat.lt_irrefl 0)⟩⟩
    · change (log received).attempts = _
      rw [hlog]
    · change dueMs ctx (log received) = _
      unfold dueMs
      rw [hpending, hlog]
    · change (log received).clockMs = _
      rw [hlog]
      rfl
  change Stepped 0 s (handle ports received msg).2
  unfold handle
  split
  · have htick : TickInTime (log received) := by
      rw [hlog]
      exact fun hticking => absurd hticking Bool.false_ne_true
    have hattempted := boot_attempts ports hwaits.toTracks hsound' htick
    have hmore := hattempted.attempts
    rw [hlog] at hmore
    exact ⟨hattempted.waits, hattempted.sound, Or.inl hmore⟩
  · rename_i htick
    exact absurd htick hmsg
  · exact hquiet _ ⟨⟨hwaits.now, hwaits.wait, hwaits.address, hwaits.backoff⟩, hwaits.measurement,
      hwaits.retry⟩ rfl
  · exact hquiet s.ctx hwaits rfl

theorem configureMode_stepped (h : Waits 0 s.ctx (log s)) (hsound : Sound s) (value : UInt32) :
    Stepped 0 s (s.setCtx (s.ctx.configureMode value).2) := by
  have hsame : Stepped 0 s s :=
    ⟨h, hsound, Or.inr ⟨rfl, rfl, rfl, fun hpos => absurd hpos (Nat.lt_irrefl 0)⟩⟩
  unfold configureMode
  by_cases hpending : s.ctx.measurementPending = true
  · rw [if_pos hpending]
    exact hsame
  · rw [if_neg hpending]
    have hidle : s.ctx.measurementPending = false := Bool.eq_false_iff.mpr hpending
    split
    · rename_i mode _
      have hdue : dueMs { s.ctx with
          mode := mode
          measurementWaitMs := Bh1750Driver.measurementWaitMs mode } (log s) = dueMs s.ctx (log s) := rfl
      exact ⟨⟨⟨h.now, rfl, h.address, h.backoff⟩, fun hset => absurd hset hpending, h.retry⟩, hsound,
        Or.inr ⟨rfl, hdue, rfl, fun hpos => absurd hpos (Nat.lt_irrefl 0)⟩⟩
    · exact hsame

theorem step_stepped (h : Waits 0 s.ctx (log s)) (hsound : Sound s) (input : Bh1750Input) :
    Stepped (tickMs input) s (step ports s input) := by
  cases input with
  | message msg =>
    by_cases htick : msg.eventId = .tick100ms
    · have hms : tickMs (.message msg) = 100 := if_pos htick
      have hhandled := (handleTick_stepped ports h hsound htick).returned
        (tick ports bh1750TickDeltaMs (s.note (.received msg))).1
      have hhandle : handle ports (s.note (.received msg)) msg =
          tick ports bh1750TickDeltaMs (s.note (.received msg)) := by
        rw [handle, htick]
      have hstep : step ports s (.message msg) =
          (handle ports (s.note (.received msg)) msg).2.note
            (.returned (handle ports (s.note (.received msg)) msg).1) := rfl
      rw [hms, hstep, hhandle]
      exact hhandled
    · have hms : tickMs (.message msg) = 0 := if_neg htick
      rw [hms]
      exact (handle_stepped ports h hsound htick).returned _
  | configureMode value => exact configureMode_stepped h hsound value

theorem run_stepped (inputs : List Bh1750Input) : ∀ s : Bh1750State P ω, Waits 0 s.ctx (log s) →
    Sound s → Stepped (ticksMs inputs) s (Machine.run (step ports) s inputs) := by
  induction inputs with
  | nil =>
    exact fun s h hsound =>
      ⟨h, hsound, Or.inr ⟨rfl, rfl, rfl, fun hpos => absurd hpos (Nat.lt_irrefl 0)⟩⟩
  | cons input inputs ih =>
    intro s h hsound
    have hfirst := step_stepped ports h hsound input
    have hrest := ih (step ports s input) hfirst.waits hfirst.sound
    have hms : ticksMs (input :: inputs) = tickMs input + ticksMs inputs := List.sum_cons
    refine ⟨hrest.waits, hrest.sound, ?_⟩
    rw [Machine.run_cons, hms]
    rcases hfirst.progress with hmore | hquiet
    · left
      rcases hrest.progress with hlater | hsame
      · exact Nat.lt_trans hmore hlater
      · rwa [hsame.attempts]
    · rcases hrest.progress with hlater | hsame
      · left
        rwa [hquiet.attempts] at hlater
      · right
        refine ⟨hsame.attempts.trans hquiet.attempts, hsame.due.trans hquiet.due, ?_, fun hpos => ?_⟩
        · rw [hsame.clock, hquiet.clock, Nat.add_assoc]
        · rcases Nat.eq_zero_or_pos (ticksMs inputs) with hzero | hticks
          · have hearly := hquiet.early (by omega)
            rwa [hsame.clock, hsame.due, hzero]
          · exact hsame.early hticks

end Steps

/-- What holds of a state in every run. The calls made in it came in time, the back-off is that of
the failures since the last successful start, a pending measurement is that start, and whatever
else comes with them, ticks of ten seconds call the bus. -/
structure Discipline (ports : Bh1750Ports P ω) (s : Bh1750State P ω) : Prop where
  calls : Machine.Justified Disciplined s.world.history
  backoff : s.ctx.retryBackoffMs.toNat = backoffAfter (log s).failures
  measurement : s.ctx.measurementPending = true →
    (∃ startMs, (log s).started = some (startMs, s.ctx.mode)) ∧
      s.ctx.measurementWaitMs.toNat = waitMs s.ctx.mode
  attempts : ∀ more, 10000 ≤ ticksMs more →
    (log s).attempts < (log (Machine.run (step ports) s more)).attempts

theorem Waits.discipline (ports : Bh1750Ports P ω) {s : Bh1750State P ω}
    (h : Waits 0 s.ctx (log s)) (hsound : Sound s) : Discipline ports s where
  calls := hsound
  backoff := by
    have hmax := backoffAfter_le (log s).failures
    rw [h.backoff]
    apply UInt32.toNat_ofNat_of_lt'
    change backoffAfter (log s).failures < 2 ^ 32
    omega
  measurement hpending := by
    obtain ⟨_, startMs, hstarted, _⟩ := h.measurement hpending
    exact ⟨⟨startMs, hstarted⟩, congrArg UInt16.toNat h.wait⟩
  attempts more hticks := by
    rcases (run_stepped ports more s h hsound).progress with hmore | hquiet
    · exact hmore
    · have hearly := hquiet.early (by omega)
      have hdue := h.dueMs_le
      rw [hquiet.clock, hquiet.due] at hearly
      omega

theorem start_waits {device : I2cDevice} {ctx : Bh1750Actor} (hinit : init device = (.ok, some ctx))
    (outside : ω) : Waits 0 (start (P := P) ctx outside).ctx (log (start (P := P) ctx outside)) := by
  unfold init at hinit
  split at hinit
  · cases hinit
  · rename_i hvalid
    obtain rfl := Option.some.inj (Prod.mk.inj hinit).2
    exact ⟨⟨rfl, rfl, not_not.mp hvalid, rfl⟩, fun hset => absurd hset Bool.false_ne_true,
      fun hfailures => absurd hfailures (Nat.lt_irrefl 0)⟩

/-- In every run of an initialized actor, whatever the bus and the publications return. -/
theorem retry_discipline (ports : Bh1750Ports P ω) {device : I2cDevice} {ctx : Bh1750Actor}
    (hinit : init device = (.ok, some ctx)) (outside : ω) (inputs : List Bh1750Input) :
    Discipline ports (Machine.run (step ports) (start ctx outside) inputs) := by
  have hrun := run_stepped ports inputs (start ctx outside) (start_waits hinit outside)
    Machine.justified_nil
  exact hrun.waits.discipline ports hrun.sound

def wakingSensor : Bh1750Ports Unit Nat where
  i2c := {
    writeStream := fun _ _ sent => (if sent = 0 then .errNack else .ok, sent + 1)
    readStream := fun _ _ sent => ((.ok, fun i => if i = 0 then 0x01 else 0x90), sent) }
  delivery := { routes := RouteTable.generated, deliver := fun _ _ sent => (.ok, sent) }

/-- The boot fails, the retry a second later starts a measurement, and its value is published. -/
theorem retry_discipline_waking :
    let actor : Bh1750Actor := { device := ⟨0, 0x23⟩, mode := .oneTimeHighRes, measurementWaitMs := 180 }
    let inputs : List Bh1750Input := .message { eventId := .bootCompleted } ::
      List.replicate 12 (.message { eventId := .tick100ms })
    let s := Machine.run (step wakingSensor) (start actor 0) inputs
    s.results .lightUpdated = [.ok] ∧ Discipline wakingSensor s := by
  intro actor inputs
  have hinit : init ⟨0, 0x23⟩ = (.ok, some actor) := rfl
  exact ⟨by decide +kernel, retry_discipline wakingSensor hinit 0 inputs⟩

end Bh1750Actor

end EventFramework
