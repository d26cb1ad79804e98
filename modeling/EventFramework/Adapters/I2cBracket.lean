import EventFramework.Adapters.I2cAdapter
import EventFramework.Library.Machine

/-!
# What brackets an I2C transaction

The functions below a transaction move the lines and the diagnostic counters only. The mutex, the
flag of the active transaction, the STOP and the counters of failures are touched once, where a
transaction opens and closes.
-/

namespace EventFramework
set_option autoImplicit false

variable {ε α : Type}

namespace I2cAdapter

open I2cState

/-- What only the ends of a transaction change. -/
structure Bracket where
  mutexCreated : Bool
  configured : Bool
  locks : UInt32
  unlocks : UInt32
  active : Bool
  stopAttempted : UInt32
  failed : UInt32
  nacks : UInt32
  timeouts : UInt32
  busLocked : UInt32
  deriving DecidableEq, Repr

def bracketOf (mutexCreated : Bool) (c : I2cCtx) : Bracket where
  mutexCreated := mutexCreated
  configured := c.configured
  locks := c.transactionLockCount
  unlocks := c.transactionUnlockCount
  active := c.transactionActive
  stopAttempted := c.stopAttempted
  failed := c.transactionsFailed
  nacks := c.nacks
  timeouts := c.timeouts
  busLocked := c.busLocked

def bracket (s : I2cState ε) : Bracket := bracketOf s.mutexCreated s.ctx

/-- A part of a transaction between its two ends, with so many START conditions completed. -/
inductive Steps (hal : I2cHal ε) : Nat → I2cState ε → I2cState ε → Prop where
  | refl (s : I2cState ε) : Steps hal 0 s s
  | trans {m n : Nat} {s t u : I2cState ε} :
    Steps hal m s t → Steps hal n t u → Steps hal (m + n) s u
  | setSda (level : Bool) (s : I2cState ε) : Steps hal 0 s (setSda hal level s)
  | setScl (level : Bool) (s : I2cState ε) : Steps hal 0 s (setScl hal level s)
  | delayUs (us : Nat) (s : I2cState ε) : Steps hal 0 s (delayUs hal us s)
  | sampleSda (s : I2cState ε) : Steps hal 0 s (sampleSda hal s).2
  | sampleScl (s : I2cState ε) : Steps hal 0 s (sampleScl hal s).2
  | readTime (s : I2cState ε) : Steps hal 0 s (readTime hal s).2
  | note (f : I2cCtx → I2cCtx) (s : I2cState ε)
    (h : bracketOf s.mutexCreated (f s.ctx) = bracketOf s.mutexCreated s.ctx) :
    Steps hal 0 s (updateCtx f s)
  | started (s : I2cState ε) : Steps hal 1 s { s with starts := s.starts + 1 }

namespace Steps

variable {hal : I2cHal ε}

theorem bracket {n : Nat} {s t : I2cState ε} (h : Steps hal n s t) :
    bracket t = bracket s ∧ t.starts = s.starts + n := by
  induction h with
  | trans _ _ ih ih' =>
    refine ⟨ih'.1.trans ih.1, ?_⟩
    rw [ih'.2, ih.2, Nat.add_assoc]
  | note f s hf => exact ⟨hf, rfl⟩
  | _ => exact ⟨rfl, rfl⟩

/-- One part after another, the first without a START. -/
theorem next {n : Nat} {s t u : I2cState ε} (h : Steps hal 0 s t) (h' : Steps hal n t u) :
    Steps hal n s u := by
  have hboth := h.trans h'
  rwa [Nat.zero_add] at hboth

end Steps

section Parts

variable (hal : I2cHal ε) (startedUs : Int)

theorem deadlineExpired_steps (s : I2cState ε) :
    Steps hal 0 s (deadlineExpired hal startedUs s).2 := .readTime s

theorem waitSclHighFor_steps (left : Nat) :
    ∀ s, Steps hal 0 s (waitSclHighFor hal startedUs left s).2 := by
  induction left with
  | zero =>
    intro s
    unfold waitSclHighFor
    simp only
    split
    · exact .sampleScl s
    · exact (Steps.sampleScl s).next (deadlineExpired_steps hal startedUs _)
  | succ left ih =>
    intro s
    unfold waitSclHighFor
    simp only
    split
    · exact .sampleScl s
    · have hread := (Steps.sampleScl s).next (deadlineExpired_steps hal startedUs _)
      split
      · exact hread
      · exact (hread.next (.delayUs 1 _)).next (ih _)

theorem waitSclHigh_steps (s : I2cState ε) : Steps hal 0 s (waitSclHigh hal startedUs s).2 :=
  waitSclHighFor_steps hal startedUs i2cClockStretchTimeoutUs s

theorem raiseScl_steps (s : I2cState ε) : Steps hal 0 s (raiseScl hal startedUs s).2 := by
  have hread := deadlineExpired_steps hal startedUs s
  unfold raiseScl
  simp only
  split
  · exact hread
  · have hwaited := (hread.next (.setScl true _)).next (waitSclHigh_steps hal startedUs _)
    split
    · exact hwaited
    · exact hwaited.next (.delayUs _ _)

theorem lowerScl_steps (s : I2cState ε) : Steps hal 0 s (lowerScl hal s) :=
  (Steps.setScl false s).next (.delayUs _ _)

theorem releaseBusLines_steps (s : I2cState ε) : Steps hal 0 s (releaseBusLines hal s) :=
  (Steps.setSda true s).next (.setScl true _)

theorem recoveryPulses_steps (left : Nat) :
    ∀ s, Steps hal 0 s (recoveryPulses hal startedUs left s).2 := by
  induction left with
  | zero => exact .refl
  | succ left ih =>
    intro s
    unfold recoveryPulses
    simp only
    split
    · exact raiseScl_steps hal startedUs s
    · have hsampled := (raiseScl_steps hal startedUs s).next (.sampleSda _)
      split
      · exact hsampled
      · exact (hsampled.next (lowerScl_steps hal _)).next (ih _)

theorem countRecoveryFailure_steps (s : I2cState ε) : Steps hal 0 s (countRecoveryFailure s) :=
  .note _ s rfl

theorem recoveryStop_steps (s : I2cState ε) : Steps hal 0 s (recoveryStop hal startedUs s).2 := by
  have hraised := ((Steps.setSda false s).next (.delayUs i2cHalfPeriodUs _)).next
    (raiseScl_steps hal startedUs _)
  unfold recoveryStop
  simp only
  split
  · exact (hraised.next (releaseBusLines_steps hal _)).next (countRecoveryFailure_steps hal _)
  · have hsda := ((hraised.next (.setSda true _)).next (.delayUs i2cHalfPeriodUs _)).next
      (.sampleSda _)
    split
    · exact hsda.next (countRecoveryFailure_steps hal _)
    · split
      · exact (hsda.next (.sampleScl _)).next (countRecoveryFailure_steps hal _)
      · exact hsda.next (.sampleScl _)

theorem recoverBus_steps (s : I2cState ε) : Steps hal 0 s (recoverBus hal startedUs s).2 := by
  have hpulsed := (((Steps.note (fun c => { c with busRecoveries := c.busRecoveries + 1 }) s
    rfl).next (.setSda true _)).next (.setScl true _)).next
      (recoveryPulses_steps hal startedUs i2cRecoveryPulses _)
  unfold recoverBus
  simp only
  split
  · exact hpulsed.next (countRecoveryFailure_steps hal _)
  · exact hpulsed.next (recoveryStop_steps hal startedUs _)

theorem freeSda_steps (s : I2cState ε) : Steps hal 0 s (freeSda hal startedUs s).2 := by
  unfold freeSda
  simp only
  split
  · exact .sampleSda s
  · exact (Steps.sampleSda s).next (recoverBus_steps hal startedUs _)

theorem prepareBus_steps (s : I2cState ε) : Steps hal 0 s (prepareBus hal startedUs s).2 := by
  have hwaited := (releaseBusLines_steps hal s).next (waitSclHigh_steps hal startedUs _)
  unfold prepareBus
  simp only
  split
  · exact hwaited
  · exact hwaited.next (freeSda_steps hal startedUs _)

theorem startEdges_steps (s : I2cState ε) : Steps hal 1 s (startEdges hal s) := by
  have hhigh : Steps hal 0 s (setSda hal false (delayUs hal i2cHalfPeriodUs s)) :=
    (Steps.delayUs _ s).next (.setSda false _)
  have hlow := (hhigh.next (.delayUs i2cHalfPeriodUs _)).next (lowerScl_steps hal _)
  exact hlow.next (.started _)

theorem startCondition_steps (s : I2cState ε) :
    Steps hal (if (startCondition hal startedUs s).1 = .ok then 1 else 0) s
      (startCondition hal startedUs s).2 := by
  have hwaited := (releaseBusLines_steps hal s).next (waitSclHigh_steps hal startedUs _)
  have hready := hwaited.next (freeSda_steps hal startedUs _)
  unfold startCondition
  simp only
  split
  · exact hwaited
  · split
    · exact hready
    · exact hready.next (startEdges_steps hal _)

theorem outputSda_eq (level : Bool) (s : I2cState ε) : outputSda hal level s = setSda hal level s := by
  cases level <;> rfl

theorem writeBits_steps (left : Nat) :
    ∀ value s, Steps hal 0 s (writeBits hal startedUs left value s).2 := by
  induction left with
  | zero => exact fun _ s => .refl s
  | succ left ih =>
    intro value s
    have hraised := (Steps.setSda (value &&& 0x80 != 0) s).next (raiseScl_steps hal startedUs _)
    unfold writeBits
    simp only [outputSda_eq]
    split
    · exact hraised.next (.setSda true _)
    · exact (hraised.next (lowerScl_steps hal _)).next (ih _ _)

theorem writeByte_steps (value : UInt8) (s : I2cState ε) :
    Steps hal 0 s (writeByte hal value startedUs s).2 := by
  have hwritten := writeBits_steps hal startedUs 8 value s
  have hraised := (hwritten.next (.setSda true _)).next (raiseScl_steps hal startedUs _)
  unfold writeByte
  simp only
  split
  · exact hwritten
  · split
    · exact hraised
    · exact (hraised.next (.sampleSda _)).next (lowerScl_steps hal _)

theorem noteAckPhase_steps (phase : I2cPhase) (status : I2cStatus) (s : I2cState ε) :
    Steps hal 0 s (noteAckPhase phase status s) := by
  refine (Steps.note (fun c => { c with lastPhase := phase }) s rfl).next (.note _ _ ?_)
  cases phase <;> cases status <;> rfl

theorem writeByteObserved_steps (value : UInt8) (phase : I2cPhase) (s : I2cState ε) :
    Steps hal 0 s (writeByteObserved hal value startedUs phase s).2 :=
  (writeByte_steps hal startedUs value s).next (noteAckPhase_steps hal phase _ _)

theorem readBits_steps (left : Nat) :
    ∀ value s, Steps hal 0 s (readBits hal startedUs left value s).2 := by
  induction left with
  | zero => exact fun _ s => .refl s
  | succ left ih =>
    intro value s
    have hraised := raiseScl_steps hal startedUs s
    unfold readBits
    simp only
    split
    · exact hraised
    · exact ((hraised.next (.sampleSda _)).next (lowerScl_steps hal _)).next (ih _ _)

theorem readByte_steps (ackAfterByte : Bool) (s : I2cState ε) :
    Steps hal 0 s (readByte hal ackAfterByte startedUs s).2 := by
  have hbits := (Steps.setSda true s).next (readBits_steps hal startedUs 8 0 _)
  unfold readByte
  simp only [outputSda_eq]
  split
  · exact hbits
  · have hraised := (hbits.next (.setSda (!ackAfterByte) _)).next (raiseScl_steps hal startedUs _)
    split
    · exact hraised.next (.setSda true _)
    · have hlow := (hraised.next (lowerScl_steps hal _)).next (.setSda true _)
      refine hlow.next (.note _ _ ?_)
      cases ackAfterByte <;> rfl

theorem writePayload_steps (data : List UInt8) :
    ∀ s, Steps hal 0 s (writePayload hal startedUs data s).2 := by
  induction data with
  | nil => exact .refl
  | cons value data ih =>
    intro s
    have hwritten := writeByteObserved_steps hal startedUs value .dataW s
    unfold writePayload
    simp only
    split
    · exact hwritten
    · exact hwritten.next (ih _)

theorem readPayload_steps (left : Nat) :
    ∀ s, Steps hal 0 s (readPayload hal startedUs left s).2 := by
  induction left with
  | zero => exact .refl
  | succ left ih =>
    intro s
    have hread := readByte_steps hal startedUs (decide (0 < left)) s
    unfold readPayload
    simp only
    split
    · exact hread
    · exact hread.next (ih _)

theorem whileOk_steps {out : I2cStatus × I2cState ε} {m : Nat} {s : I2cState ε}
    {next : I2cState ε → I2cStatus × I2cState ε} (hout : Steps hal m s out.2)
    (hnext : ∀ t, ∃ n, Steps hal n t (next t).2) : ∃ n, Steps hal n s (whileOk out next).2 := by
  unfold whileOk
  split
  · obtain ⟨n, hmore⟩ := hnext out.2
    exact ⟨m + n, hout.trans hmore⟩
  · exact ⟨m, hout⟩

theorem readAfter_steps (dataLen : Nat) {out : I2cStatus × I2cState ε} {m : Nat} {s : I2cState ε}
    (hout : Steps hal m s out.2) :
    ∃ n, Steps hal n s (readAfter hal dataLen startedUs out).2 := by
  unfold readAfter
  split
  · exact ⟨m + 0, hout.trans (readPayload_steps hal startedUs dataLen out.2)⟩
  · exact ⟨m, hout⟩

theorem writeStreamBytes_steps (address7bit : UInt8) (data : List UInt8) (s : I2cState ε) :
    ∃ n, Steps hal n s (writing (writeStreamBytes hal address7bit data) startedUs s).2 := by
  unfold writing writeStreamBytes
  exact whileOk_steps hal (writeByteObserved_steps hal startedUs _ _ s)
    fun t => ⟨0, writePayload_steps hal startedUs data t⟩

theorem writeRegsBytes_steps (address7bit firstReg : UInt8) (data : List UInt8) (s : I2cState ε) :
    ∃ n, Steps hal n s (writing (writeRegsBytes hal address7bit firstReg data) startedUs s).2 := by
  unfold writing writeRegsBytes
  obtain ⟨n, hselected⟩ := whileOk_steps hal
    (writeByteObserved_steps hal startedUs (addressWrite address7bit) .addrW s)
    fun t => ⟨0, writeByteObserved_steps hal startedUs firstReg .reg t⟩
  exact whileOk_steps hal hselected fun t => ⟨0, writePayload_steps hal startedUs data t⟩

theorem readStreamBytes_steps (address7bit : UInt8) (dataLen : Nat) (s : I2cState ε) :
    ∃ n, Steps hal n s (readStreamBytes hal address7bit dataLen startedUs s).2 :=
  readAfter_steps hal startedUs dataLen (writeByteObserved_steps hal startedUs _ _ s)

theorem readRegsBytes_steps (address7bit firstReg : UInt8) (dataLen : Nat) (s : I2cState ε) :
    ∃ n, Steps hal n s (readRegsBytes hal address7bit firstReg dataLen startedUs s).2 := by
  obtain ⟨_, hselected⟩ := whileOk_steps hal
    (writeByteObserved_steps hal startedUs (addressWrite address7bit) .addrW s)
    fun t => ⟨0, writeByteObserved_steps hal startedUs firstReg .reg t⟩
  obtain ⟨_, hrestarted⟩ := whileOk_steps hal hselected fun t =>
    ⟨_, (Steps.note (fun c => { c with lastPhase := .restart }) t rfl).next
      (startCondition_steps hal startedUs _)⟩
  obtain ⟨_, haddressed⟩ := whileOk_steps hal hrestarted fun t =>
    ⟨0, writeByteObserved_steps hal startedUs (addressRead address7bit) .addrR t⟩
  exact readAfter_steps hal startedUs dataLen haddressed

end Parts

section Transactions

variable (hal : I2cHal ε)

theorem beginLocked_steps (s : I2cState ε) : Steps hal 0 s (beginLocked hal s).2 := by
  have hprepared := (Steps.readTime s).next
    (prepareBus_steps hal (readTime hal s).1 (readTime hal s).2)
  unfold beginLocked
  simp only
  split
  · exact hprepared.next (.note _ _ rfl)
  · exact hprepared

/-- A transfer moves nothing of the bracket, and has completed a START just when it says so. -/
theorem transfer_bracket (initial : α) {bytes : Int → I2cState ε → (I2cStatus × α) × I2cState ε}
    (hbytes : ∀ startedUs s, ∃ n, Steps hal n s (bytes startedUs s).2) (s : I2cState ε) :
    bracket (transfer hal initial bytes s).state = bracket s ∧
      s.starts ≤ (transfer hal initial bytes s).state.starts ∧
      ((transfer hal initial bytes s).started = true ↔
        s.starts < (transfer hal initial bytes s).state.starts) := by
  have hbegun := beginLocked_steps hal s
  unfold transfer
  generalize beginLocked hal s = begun at *
  have hopened : ∃ n, Steps hal n s (whileOk (begun.1.1, begun.2) fun s =>
      startCondition hal begun.1.2 (setPhase .start s)).2 ∧
      (n = 1 ↔ (whileOk (begun.1.1, begun.2) fun s =>
        startCondition hal begun.1.2 (setPhase .start s)).1 = .ok) ∧ n ≤ 1 := by
    unfold whileOk
    split
    · have hstart := startCondition_steps hal begun.1.2 (setPhase .start begun.2)
      refine ⟨_, (hbegun.next (.note _ _ rfl)).next hstart, ?_⟩
      split
      · rename_i hok
        exact ⟨⟨fun _ => hok, fun _ => rfl⟩, Nat.le_refl _⟩
      · rename_i hfailed
        exact ⟨⟨(fun h => by cases h), fun h => absurd h hfailed⟩, Nat.zero_le _⟩
    · rename_i hfailed
      exact ⟨0, hbegun, ⟨(fun h => by cases h), fun h => absurd h hfailed⟩, Nat.zero_le _⟩
  simp only
  generalize (whileOk (begun.1.1, begun.2) fun s =>
    startCondition hal begun.1.2 (setPhase .start s)) = opened at *
  obtain ⟨n, hsteps, hone, hle⟩ := hopened
  split
  · rename_i hok
    obtain ⟨m, hmore⟩ := hbytes begun.1.2 opened.2
    obtain ⟨hbracket, hstarts⟩ := (hsteps.trans hmore).bracket
    rw [hone.mpr hok] at hstarts
    have hless : s.starts < (bytes begun.1.2 opened.2).2.starts := by omega
    exact ⟨hbracket, Nat.le_of_lt hless, fun _ => hless, fun _ => rfl⟩
  · rename_i hfailed
    obtain ⟨hbracket, hstarts⟩ := hsteps.bracket
    have hzero : n = 0 := by
      have hnot : n ≠ 1 := fun h => hfailed (hone.mp h)
      omega
    rw [hzero, Nat.add_zero] at hstarts
    exact ⟨hbracket, Nat.le_of_eq hstarts.symm, (fun h => by cases h),
      fun h => absurd h (Nat.not_lt.mpr (Nat.le_of_eq hstarts))⟩

/-- What `record_status` counts. -/
def Bracket.count (status : I2cStatus) (b : Bracket) : Bracket :=
  match status with
  | .ok => b
  | .errTimeout => { b with failed := b.failed + 1, timeouts := b.timeouts + 1 }
  | .errNack => { b with failed := b.failed + 1, nacks := b.nacks + 1 }
  | .errBusLocked => { b with failed := b.failed + 1, busLocked := b.busLocked + 1 }

theorem recordStatus_bracket (status : I2cStatus) (s : I2cState ε) :
    bracket (recordStatus status s).2 = (bracket s).count status := by
  cases status <;> rfl

theorem setPhase_steps (phase : I2cPhase) (s : I2cState ε) : Steps hal 0 s (setPhase phase s) :=
  .note _ s rfl

theorem countStopFailure_steps (s : I2cState ε) : Steps hal 0 s (countStopFailure s) :=
  .note _ s rfl

theorem countStopOk_steps (s : I2cState ε) : Steps hal 0 s (countStopOk s) := .note _ s rfl

theorem recordLevelsAfterStop_steps (s : I2cState ε) :
    Steps hal 0 s (recordLevelsAfterStop hal s).2 :=
  (((Steps.sampleSda s).next (.sampleScl _)).next (.note _ _ rfl)).next (setPhase_steps hal _ _)

theorem stopCondition_steps (startedUs : Int) (s : I2cState ε) :
    Steps hal 0
      (updateCtx (fun c => { c with stopAttempted := c.stopAttempted + 1 }) (setPhase .stop s))
      (stopCondition hal startedUs s).2 := by
  have hraised (t : I2cState ε) := ((Steps.setSda false t).next (.delayUs i2cHalfPeriodUs _)).next
    (raiseScl_steps hal startedUs _)
  unfold stopCondition
  simp only
  split
  · exact (((hraised _).next (releaseBusLines_steps hal _)).next
      (countStopFailure_steps hal _)).next (recordLevelsAfterStop_steps hal _)
  · have hlevels := (((hraised (updateCtx (fun c => { c with
        stopAttempted := c.stopAttempted + 1 }) (setPhase .stop s))).next (.setSda true _)).next
      (.delayUs i2cHalfPeriodUs _)).next (recordLevelsAfterStop_steps hal _)
    split
    · exact hlevels.next (countStopFailure_steps hal _)
    · exact hlevels.next (countStopOk_steps hal _)

theorem stopCondition_bracket (startedUs : Int) (s : I2cState ε) :
    bracket (stopCondition hal startedUs s).2 =
        { bracket s with stopAttempted := (bracket s).stopAttempted + 1 } ∧
      (stopCondition hal startedUs s).2.starts = s.starts :=
  (stopCondition_steps hal startedUs s).bracket

/-- The STOP that a transfer which completed a START is given. -/
def Bracket.stop (started : Bool) (b : Bracket) : Bracket :=
  if started then { b with stopAttempted := b.stopAttempted + 1 } else b

theorem finishRecovery_steps (startedUs : Int) (status stopStatus : I2cStatus) (s : I2cState ε) :
    Steps hal 0 s (finishRecovery hal startedUs status stopStatus s).2 := by
  unfold finishRecovery
  split
  · exact recoverBus_steps hal startedUs s
  · exact .refl s

theorem finishLocked_bracket (started : Bool) (startedUs : Int) (status : I2cStatus)
    (s : I2cState ε) :
    bracket (finishLocked hal started startedUs status s).2 =
        ((bracket s).stop started).count (finishLocked hal started startedUs status s).1 ∧
      (finishLocked hal started startedUs status s).2.starts = s.starts ∧
      (finishLocked hal started startedUs status s).2.sdaOut = true ∧
      (finishLocked hal started startedUs status s).2.sclOut = true := by
  have hstopped : bracket (finishStop hal started startedUs status s).2 = (bracket s).stop started ∧
      (finishStop hal started startedUs status s).2.starts = s.starts := by
    unfold finishStop Bracket.stop
    cases started with
    | false => exact ⟨rfl, rfl⟩
    | true => exact stopCondition_bracket hal startedUs s
  unfold finishLocked
  generalize finishStop hal started startedUs status s = stopped at *
  simp only
  have hended := finishRecovery_steps hal startedUs stopped.1.1 stopped.1.2 stopped.2
  generalize finishRecovery hal startedUs stopped.1.1 stopped.1.2 stopped.2 = ended at *
  obtain ⟨hbracket, hstarts⟩ := (hended.next (releaseBusLines_steps hal _)).bracket
  refine ⟨?_, hstarts.trans hstopped.2, rfl, rfl⟩
  rw [recordStatus_bracket, hbracket, hstopped.1]
  rfl

/-- An initialised adapter between two transactions. -/
structure Idle (s : I2cState ε) : Prop where
  mutex : s.mutexCreated = true
  configured : s.ctx.configured = true
  balanced : s.ctx.transactionLockCount = s.ctx.transactionUnlockCount
  inactive : s.ctx.transactionActive = false
  sda : s.sdaOut = true
  scl : s.sclOut = true

/-- The failures are counted once each. -/
def Bracket.Tallied (b : Bracket) (failedCalls : Nat) : Prop :=
  b.failed = b.nacks + b.timeouts + b.busLocked ∧ b.failed = UInt32.ofNat failedCalls

theorem Bracket.Tallied.count {b : Bracket} {failedCalls : Nat} (h : b.Tallied failedCalls)
    (status : I2cStatus) :
    (b.count status).Tallied (if status = .ok then failedCalls else failedCalls + 1) := by
  obtain ⟨hsum, hcalls⟩ := h
  have hnext : b.failed + 1 = UInt32.ofNat (failedCalls + 1) := by
    rw [hcalls, UInt32.ofNat_add]
    rfl
  cases status with
  | ok => exact ⟨hsum, hcalls⟩
  | errTimeout =>
    refine ⟨?_, hnext⟩
    change b.failed + 1 = b.nacks + (b.timeouts + 1) + b.busLocked
    rw [hsum]
    ac_rfl
  | errNack =>
    refine ⟨?_, hnext⟩
    change b.failed + 1 = b.nacks + 1 + b.timeouts + b.busLocked
    rw [hsum]
    ac_rfl
  | errBusLocked =>
    refine ⟨?_, hnext⟩
    change b.failed + 1 = b.nacks + b.timeouts + (b.busLocked + 1)
    rw [hsum]
    ac_rfl

theorem Bracket.count_rest (status : I2cStatus) (b : Bracket) :
    (b.count status).mutexCreated = b.mutexCreated ∧ (b.count status).configured = b.configured ∧
      (b.count status).locks = b.locks ∧ (b.count status).unlocks = b.unlocks ∧
      (b.count status).stopAttempted = b.stopAttempted := by
  cases status <;> exact ⟨rfl, rfl, rfl, rfl, rfl⟩

theorem Bracket.stop_rest (started : Bool) (b : Bracket) :
    (b.stop started).mutexCreated = b.mutexCreated ∧ (b.stop started).configured = b.configured ∧
      (b.stop started).locks = b.locks ∧ (b.stop started).unlocks = b.unlocks ∧
      (b.stop started).stopAttempted = b.stopAttempted + if started then 1 else 0 := by
  cases started
  · exact ⟨rfl, rfl, rfl, rfl, (UInt32.add_zero _).symm⟩
  · exact ⟨rfl, rfl, rfl, rfl, rfl⟩

theorem Bracket.Tallied.stop {b : Bracket} {failedCalls : Nat} (h : b.Tallied failedCalls)
    (started : Bool) : (b.stop started).Tallied failedCalls := by
  cases started
  · exact h
  · exact h

/-- What a call that is past the validation of its arguments leaves behind. -/
structure Bracketed (s t : I2cState ε) (status : I2cStatus) : Prop where
  idle : Idle t
  stop : t.ctx.stopAttempted = s.ctx.stopAttempted + if s.starts < t.starts then 1 else 0
  tallied : ∀ failedCalls, (bracket s).Tallied failedCalls →
    (bracket t).Tallied (if status = .ok then failedCalls else failedCalls + 1)

theorem giveBus_eq {s : I2cState ε} (h : s.mutexCreated = true) :
    giveBus hal s = { updateCtx countUnlock s with env := hal.mutexGive s.env } :=
  if_pos h

theorem closeTransaction_bracketed {initial : α}
    {bytes : Int → I2cState ε → (I2cStatus × α) × I2cState ε}
    (hbytes : ∀ startedUs s, ∃ n, Steps hal n s (bytes startedUs s).2) {s u : I2cState ε}
    (hidle : Idle s) (hstarts : u.starts = s.starts)
    (hu : bracket u = { bracket s with locks := (bracket s).locks + 1, active := true }) :
    Bracketed s (closeTransaction hal (transfer hal initial bytes u)).2
      (closeTransaction hal (transfer hal initial bytes u)).1.1 := by
  obtain ⟨htransfer, _, hstarted⟩ := transfer_bracket hal initial hbytes u
  unfold closeTransaction
  generalize transfer hal initial bytes u = t at *
  obtain ⟨hfinished, hsame, hsda, hscl⟩ :=
    finishLocked_bracket hal t.started t.startedUs t.status t.state
  simp only
  generalize finishLocked hal t.started t.startedUs t.status t.state = f at *
  rw [htransfer, hu] at hfinished
  obtain ⟨hmutex, hconfigured, hlocks, hunlocks, hstops⟩ :=
    Bracket.count_rest f.1 (({ bracket s with
      locks := (bracket s).locks + 1, active := true } : Bracket).stop t.started)
  obtain ⟨hmutex', hconfigured', hlocks', hunlocks', hstops'⟩ := Bracket.stop_rest t.started
    ({ bracket s with locks := (bracket s).locks + 1, active := true } : Bracket)
  rw [← hfinished] at hmutex hconfigured hlocks hunlocks hstops
  have hmutex : f.2.mutexCreated = true := (hmutex.trans hmutex').trans hidle.mutex
  have hconfigured : f.2.ctx.configured = true := (hconfigured.trans hconfigured').trans hidle.configured
  have hlocks : f.2.ctx.transactionLockCount = s.ctx.transactionLockCount + 1 := hlocks.trans hlocks'
  have hunlocks : f.2.ctx.transactionUnlockCount = s.ctx.transactionUnlockCount :=
    hunlocks.trans hunlocks'
  have hstops : f.2.ctx.stopAttempted = s.ctx.stopAttempted + if t.started then 1 else 0 :=
    hstops.trans hstops'
  rw [giveBus_eq hal (show (setActive false f.2).mutexCreated = true from hmutex)]
  refine ⟨⟨hmutex, hconfigured, ?_, rfl, hsda, hscl⟩, ?_, ?_⟩
  · change f.2.ctx.transactionLockCount = f.2.ctx.transactionUnlockCount + 1
    rw [hlocks, hunlocks, hidle.balanced]
  · have hless : t.started = true ↔ s.starts < f.2.starts := by rw [hstarted, hsame, hstarts]
    exact hstops.trans (congrArg _ (if_congr hless rfl rfl))
  · intro failedCalls htallied
    have hbefore : ({ bracket s with locks := (bracket s).locks + 1, active := true } :
        Bracket).Tallied failedCalls := ⟨htallied.1, htallied.2⟩
    have hafter := (hbefore.stop t.started).count f.1
    rw [← hfinished] at hafter
    exact ⟨hafter.1, hafter.2⟩

theorem takeBus_cases {s : I2cState ε} (h : s.mutexCreated = true) :
    (∃ e, takeBus hal s = (.errTimeout, { s with env := e })) ∨
      ∃ e, takeBus hal s = (.ok, updateCtx (fun c => { c with
        transactionLockCount := c.transactionLockCount + 1 }) { s with env := e }) := by
  have hcreated : ¬s.mutexCreated = false := by
    rw [h]
    decide
  unfold takeBus
  rw [if_neg hcreated]
  simp only
  split
  · exact Or.inl ⟨_, rfl⟩
  · exact Or.inr ⟨_, rfl⟩

theorem transaction_bracketed {portNum address7bit : UInt8} {argsOk : Bool} {initial : α}
    {bytes : Int → I2cState ε → (I2cStatus × α) × I2cState ε}
    (hbytes : ∀ startedUs s, ∃ n, Steps hal n s (bytes startedUs s).2) {s : I2cState ε}
    (hidle : Idle s) (hvalid : (txnIsValid portNum address7bit s && argsOk) = true) :
    Bracketed s (transaction hal portNum address7bit argsOk initial bytes s).2
      (transaction hal portNum address7bit argsOk initial bytes s).1.1 := by
  obtain ⟨htxn, hargs⟩ := Bool.and_eq_true _ _ ▸ hvalid
  unfold transaction
  rw [htxn, hargs, if_neg (by decide)]
  rcases takeBus_cases hal (s := beginDiag address7bit s) hidle.mutex with ⟨e, htaken⟩ | ⟨e, htaken⟩
  · rw [htaken]
    refine ⟨⟨hidle.mutex, hidle.configured, hidle.balanced, hidle.inactive, hidle.sda, hidle.scl⟩,
      ?_, fun failedCalls htallied => htallied.count .errTimeout⟩
    have hsame : ¬s.starts < s.starts := Nat.lt_irrefl _
    exact ((UInt32.add_zero _).symm.trans (congrArg _ (if_neg hsame).symm))
  · rw [htaken]
    have hopened : bracket (setActive true (updateCtx (fun c => { c with
        transactionLockCount := c.transactionLockCount + 1 })
        { beginDiag address7bit s with env := e })) =
          { bracket s with locks := (bracket s).locks + 1, active := true } := rfl
    exact closeTransaction_bracketed hal hbytes hidle rfl hopened

end Transactions

end I2cAdapter

namespace I2cCall

open I2cAdapter

variable {hal : I2cHal ε} {portNum : UInt8}

def isValid (portNum : UInt8) (s : I2cState ε) : I2cCall → Bool
  | .writeStream address7bit data => txnIsValid portNum address7bit s && payloadLenIsValid data.length
  | .writeRegs address7bit _ data => txnIsValid portNum address7bit s && payloadLenIsValid data.length
  | .readStream address7bit dataLen => txnIsValid portNum address7bit s && payloadLenIsValid dataLen
  | .readRegs address7bit _ dataLen =>
    txnIsValid portNum address7bit s && (decide (dataLen ≠ 0) && payloadLenIsValid dataLen)

theorem transaction_invalid {portNum address7bit : UInt8} {argsOk : Bool} {initial : α}
    {bytes : Int → I2cState ε → (I2cStatus × α) × I2cState ε} {s : I2cState ε}
    (h : (txnIsValid portNum address7bit s && argsOk) = false) :
    (transaction hal portNum address7bit argsOk initial bytes s).2 = s := by
  unfold transaction
  rw [if_pos]
  rw [← Bool.not_and, h]
  rfl

theorem run_invalid {call : I2cCall} {s : I2cState ε} (h : call.isValid portNum s = false) :
    (call.run hal portNum s).2 = s := by
  cases call <;> exact transaction_invalid h

theorem run_bracketed {call : I2cCall} {s : I2cState ε} (hidle : Idle s)
    (h : call.isValid portNum s = true) :
    Bracketed s (call.run hal portNum s).2 (call.run hal portNum s).1.1 := by
  cases call with
  | writeStream address7bit data =>
    exact transaction_bracketed hal (fun startedUs s =>
      writeStreamBytes_steps hal startedUs address7bit data s) hidle h
  | writeRegs address7bit firstReg data =>
    exact transaction_bracketed hal (fun startedUs s =>
      writeRegsBytes_steps hal startedUs address7bit firstReg data s) hidle h
  | readStream address7bit dataLen =>
    exact transaction_bracketed hal (fun startedUs s =>
      readStreamBytes_steps hal startedUs address7bit dataLen s) hidle h
  | readRegs address7bit firstReg dataLen =>
    exact transaction_bracketed hal (fun startedUs s =>
      readRegsBytes_steps hal startedUs address7bit firstReg dataLen s) hidle h

end I2cCall

structure I2cRun (ε : Type) where
  state : I2cState ε
  failedCalls : Nat := 0

namespace I2cRun

open I2cAdapter

variable (hal : I2cHal ε) (portNum : UInt8)

def issue (r : I2cRun ε) (call : I2cCall) : I2cRun ε :=
  let out := call.run hal portNum r.state
  { state := out.2
    failedCalls :=
      if call.isValid portNum r.state = true ∧ out.1.1 ≠ .ok then r.failedCalls + 1
      else r.failedCalls }

/-- The mutex is free, nothing is active, both lines are released, and the failures are counted. -/
structure Settled (r : I2cRun ε) : Prop where
  idle : Idle r.state
  tallied : (bracket r.state).Tallied r.failedCalls

/-- A call attempts one STOP when it completes a START, and none otherwise. -/
def StopsOnce (r : I2cRun ε) (call : I2cCall) : Prop :=
  (r.issue hal portNum call).state.ctx.stopAttempted = r.state.ctx.stopAttempted +
    if r.state.starts < (r.issue hal portNum call).state.starts then 1 else 0

variable {hal portNum}

theorem issue_settled {r : I2cRun ε} (h : r.Settled) (call : I2cCall) :
    (r.issue hal portNum call).Settled ∧ r.StopsOnce hal portNum call := by
  cases hvalid : call.isValid portNum r.state with
  | false =>
    have hstate : (r.issue hal portNum call).state = r.state := I2cCall.run_invalid hvalid
    have hcalls : (r.issue hal portNum call).failedCalls = r.failedCalls :=
      if_neg fun hboth => by rw [hvalid] at hboth; cases hboth.1
    refine ⟨⟨hstate ▸ h.idle, ?_⟩, ?_⟩
    · rw [hstate, hcalls]
      exact h.tallied
    · unfold StopsOnce
      rw [hstate, if_neg (Nat.lt_irrefl _), UInt32.add_zero]
  | true =>
    have hbracketed : Bracketed r.state (call.run hal portNum r.state).2 _ :=
      I2cCall.run_bracketed h.idle hvalid
    refine ⟨⟨hbracketed.idle, ?_⟩, hbracketed.stop⟩
    have htallied := hbracketed.tallied r.failedCalls h.tallied
    have hcalls : (r.issue hal portNum call).failedCalls =
        if (call.run hal portNum r.state).1.1 = .ok then r.failedCalls else r.failedCalls + 1 := by
      change (if _ ∧ _ then _ else _) = _
      rw [if_congr (and_iff_right hvalid) rfl rfl, ite_not]
    rw [hcalls]
    exact htallied

/-- Every call of every sequence leaves the bus bracketed and the failures counted. -/
theorem calls_bracketed (hal : I2cHal ε) (portNum : UInt8) (r : I2cRun ε) (h : r.Settled)
    (calls : List I2cCall) :
    Machine.Always (issue hal portNum) Settled r calls ∧
      Machine.Each (issue hal portNum) (StopsOnce hal portNum) r calls := by
  have halways : Machine.Always (issue hal portNum) Settled r calls :=
    @Machine.always_of_step _ _ _ Settled (fun _ input hs => (issue_settled hs input).1) r h calls
  refine ⟨halways, fun earlier input hpre => ?_⟩
  exact (issue_settled (halways earlier ((List.prefix_append _ _).trans hpre)) input).2

def idleHal : I2cHal (Bool × Bool) where
  setSda level e := (level, e.2)
  setScl level e := (e.1, level)
  getSda e := (e.1, e)
  getScl e := (e.2, e)
  getTime e := (0, e)
  delayUs _ e := e
  mutexTake e := (true, e)
  mutexGive e := e

def initialisedRun : I2cRun (Bool × Bool) where
  state := ⟨{ configured := true }, true, true, true, 0, (true, true)⟩

theorem calls_bracketed_probe :
    Machine.Always (issue idleHal 0) Settled initialisedRun [.writeStream 0x3C [], .readRegs 0x68 0 7] ∧
      Machine.Each (issue idleHal 0) (StopsOnce idleHal 0) initialisedRun
        [.writeStream 0x3C [], .readRegs 0x68 0 7] :=
  calls_bracketed idleHal 0 initialisedRun ⟨⟨rfl, rfl, rfl, rfl, rfl, rfl⟩, rfl, rfl⟩ _

end I2cRun

end EventFramework
