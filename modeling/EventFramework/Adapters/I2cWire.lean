import EventFramework.Adapters.I2cFraming

/-!
# Transactions on the wire

What the four calls put on an idle bus when they succeed.
-/

namespace EventFramework
set_option autoImplicit false

open I2cAdapter I2cState I2cBus

theorem InFrame.address {cells : List BusCell} (h : InFrame cells {}) (address7bit : UInt8)
    (read : Bool) :
    InFrame (cells ++ addressByte address7bit read) { first := false, reading := read } := by
  have hbyte := h.writtenByte rfl (address7bit <<< 1 ||| if read then 1 else 0)
  rw [writtenByte_address, if_pos rfl, (testBit_shiftIn address7bit read).1] at hbyte
  exact hbyte

theorem inFrame_selected (address7bit firstReg : UInt8) :
    InFrame ([.start] ++ addressByte address7bit false ++ writtenByte firstReg)
      { first := false } :=
  ((InFrame.start []).address address7bit false).writtenByte rfl firstReg

namespace I2cAdapter

variable {cells : List BusCell} {m : Bool} {w : I2cWorld} {startedUs : Int} {s : I2cState I2cBus}

theorem whileOk_ok {ε : Type} {out : I2cStatus × I2cState ε}
    {next : I2cState ε → I2cStatus × I2cState ε} (hok : (whileOk out next).1 = .ok) :
    out.1 = .ok ∧ whileOk out next = next out.2 := by
  unfold whileOk at *
  split at hok
  · rename_i hout
    exact ⟨hout, if_pos hout⟩
  · rename_i hout
    exact absurd hok hout

theorem readAfter_ok {ε : Type} {hal : I2cHal ε} {dataLen : Nat} {out : I2cStatus × I2cState ε}
    (hok : (readAfter hal dataLen startedUs out).1.1 = .ok) :
    out.1 = .ok ∧ readAfter hal dataLen startedUs out = readPayload hal startedUs dataLen out.2 := by
  unfold readAfter at *
  split at hok
  · rename_i hout
    exact ⟨hout, if_pos hout⟩
  · rename_i hout
    exact absurd hok hout

theorem address_ok {value address7bit : UInt8} {read : Bool} {phase : I2cPhase}
    (hvalue : value = address7bit <<< 1 ||| if read then 1 else 0) (h : Low cells m s.env)
    (hst : InFrame cells {})
    (hlegal : slaveLegal (writeByteObserved w.hal value startedUs phase s).2.env.trace = true)
    (hok : (writeByteObserved w.hal value startedUs phase s).1 = .ok) :
    ∃ m', Low (cells ++ addressByte address7bit read) m'
      (writeByteObserved w.hal value startedUs phase s).2.env := by
  rw [← writtenByte_address, ← hvalue]
  exact writeByteObserved_ok h hst rfl rfl hlegal hok

theorem addressWrite_eq (address7bit : UInt8) :
    addressWrite address7bit = address7bit <<< 1 ||| if false then 1 else 0 := by
  rw [if_neg Bool.false_ne_true]
  rfl

theorem addressRead_eq (address7bit : UInt8) :
    addressRead address7bit = address7bit <<< 1 ||| if true then 1 else 0 := by
  rw [if_pos rfl]
  rfl

theorem writeStreamBytes_ok {address7bit : UInt8} {data : List UInt8} (h : Low [.start] m s.env)
    (hlegal : slaveLegal (writeStreamBytes w.hal address7bit data startedUs s).2.env.trace = true)
    (hok : (writeStreamBytes w.hal address7bit data startedUs s).1 = .ok) :
    ∃ m', Low ([.start] ++ addressByte address7bit false ++ data.flatMap writtenByte) m'
      (writeStreamBytes w.hal address7bit data startedUs s).2.env := by
  unfold writeStreamBytes at *
  obtain ⟨haddressed, heq⟩ := whileOk_ok hok
  rw [heq] at hlegal hok ⊢
  have hst := InFrame.start []
  obtain ⟨m', hlow⟩ := address_ok (addressWrite_eq address7bit) h hst
    ((writePayload_steps w.hal startedUs data _).legal hlegal) haddressed
  exact writePayload_ok data _ _ m' hlow (hst.address address7bit false) hlegal hok

theorem select_ok {address7bit firstReg : UInt8} (h : Low [.start] m s.env)
    (hlegal : slaveLegal (whileOk (writeByteObserved w.hal (addressWrite address7bit) startedUs .addrW s)
      (writeByteObserved w.hal firstReg startedUs .reg)).2.env.trace = true)
    (hok : (whileOk (writeByteObserved w.hal (addressWrite address7bit) startedUs .addrW s)
      (writeByteObserved w.hal firstReg startedUs .reg)).1 = .ok) :
    ∃ m', Low ([.start] ++ addressByte address7bit false ++ writtenByte firstReg) m'
      (whileOk (writeByteObserved w.hal (addressWrite address7bit) startedUs .addrW s)
        (writeByteObserved w.hal firstReg startedUs .reg)).2.env := by
  obtain ⟨haddressed, heq⟩ := whileOk_ok hok
  rw [heq] at hlegal hok ⊢
  have hst := InFrame.start []
  obtain ⟨m', hlow⟩ := address_ok (addressWrite_eq address7bit) h hst
    ((writeByteObserved_steps w.hal startedUs firstReg .reg _).legal hlegal) haddressed
  exact writeByteObserved_ok hlow (hst.address address7bit false) rfl rfl hlegal hok

theorem writeRegsBytes_ok {address7bit firstReg : UInt8} {data : List UInt8}
    (h : Low [.start] m s.env)
    (hlegal : slaveLegal (writeRegsBytes w.hal address7bit firstReg data startedUs s).2.env.trace = true)
    (hok : (writeRegsBytes w.hal address7bit firstReg data startedUs s).1 = .ok) :
    ∃ m', Low ([.start] ++ addressByte address7bit false ++ writtenByte firstReg ++
        data.flatMap writtenByte) m'
      (writeRegsBytes w.hal address7bit firstReg data startedUs s).2.env := by
  unfold writeRegsBytes at *
  obtain ⟨hselected, heq⟩ := whileOk_ok hok
  rw [heq] at hlegal hok ⊢
  obtain ⟨m', hlow⟩ := select_ok h ((writePayload_steps w.hal startedUs data _).legal hlegal) hselected
  exact writePayload_ok data _ _ m' hlow (inFrame_selected address7bit firstReg) hlegal hok

theorem readStreamBytes_ok {address7bit : UInt8} {dataLen : Nat} (h : Low [.start] m s.env)
    (hlegal : slaveLegal (readStreamBytes w.hal address7bit dataLen startedUs s).2.env.trace = true)
    (hok : (readStreamBytes w.hal address7bit dataLen startedUs s).1.1 = .ok) :
    (readStreamBytes w.hal address7bit dataLen startedUs s).1.2.length = dataLen ∧
      ∃ m', Low ([.start] ++ addressByte address7bit true ++
          readAllCells (readStreamBytes w.hal address7bit dataLen startedUs s).1.2) m'
        (readStreamBytes w.hal address7bit dataLen startedUs s).2.env := by
  unfold readStreamBytes at *
  obtain ⟨haddressed, heq⟩ := readAfter_ok hok
  rw [heq] at hlegal hok ⊢
  have hst := InFrame.start []
  obtain ⟨m', hlow⟩ := address_ok (addressRead_eq address7bit) h hst
    ((readPayload_steps w.hal startedUs dataLen _).legal hlegal) haddressed
  exact readPayload_ok dataLen _ _ m' hlow (hst.address address7bit true) hlegal hok

theorem readRegsBytes_ok {address7bit firstReg : UInt8} {dataLen : Nat} (h : Low [.start] m s.env)
    (hlegal : slaveLegal (readRegsBytes w.hal address7bit firstReg dataLen startedUs s).2.env.trace = true)
    (hok : (readRegsBytes w.hal address7bit firstReg dataLen startedUs s).1.1 = .ok) :
    (readRegsBytes w.hal address7bit firstReg dataLen startedUs s).1.2.length = dataLen ∧
      ∃ m', Low ([.start] ++ addressByte address7bit false ++ writtenByte firstReg ++ [.start] ++
          addressByte address7bit true ++
          readAllCells (readRegsBytes w.hal address7bit firstReg dataLen startedUs s).1.2) m'
        (readRegsBytes w.hal address7bit firstReg dataLen startedUs s).2.env := by
  unfold readRegsBytes at *
  simp only at hlegal hok ⊢
  obtain ⟨haddressed, heq⟩ := readAfter_ok hok
  rw [heq] at hlegal hok ⊢
  obtain ⟨hrestarted, heq'⟩ := whileOk_ok haddressed
  rw [heq'] at haddressed hlegal hok ⊢
  obtain ⟨hselected, heq''⟩ := whileOk_ok hrestarted
  rw [heq''] at hrestarted haddressed hlegal hok ⊢
  have haddress := (readPayload_steps w.hal startedUs dataLen _).legal hlegal
  have hrestart := (writeByteObserved_steps w.hal startedUs _ _ _).legal haddress
  have hregister := (setPhase_steps w.hal .restart _).legal ((startCondition_steps w.hal startedUs _).legal hrestart)
  obtain ⟨m', hlow⟩ := select_ok h hregister hselected
  generalize whileOk (writeByteObserved w.hal (addressWrite address7bit) startedUs .addrW s)
    (writeByteObserved w.hal firstReg startedUs .reg) = selected at *
  have hstarted := startCondition_low (s := setPhase .restart selected.2) hlow
    (inFrame_selected address7bit firstReg) rfl hrestart hrestarted
  have hst := InFrame.start ([.start] ++ addressByte address7bit false ++ writtenByte firstReg)
  obtain ⟨m'', hlow'⟩ := address_ok (addressRead_eq address7bit) hstarted hst haddress haddressed
  exact readPayload_ok dataLen _ _ m'' hlow' (hst.address address7bit true) hlegal hok

theorem idle_high : High [] true true none I2cBus.idle := ⟨rfl, rfl, rfl, rfl, rfl, rfl⟩

theorem takeBus_ok {ε : Type} {hal : I2cHal ε} {s : I2cState ε} (hok : (takeBus hal s).1 = .ok) :
    (takeBus hal s).2.env = (hal.mutexTake s.env).2 := by
  unfold takeBus at *
  split at hok
  · cases hok
  · rename_i hcreated
    rw [if_neg hcreated]
    simp only at hok ⊢
    split at hok
    · cases hok
    · rename_i htaken
      rw [if_neg htaken]
      rfl

/-- A bus that is idle stays idle while a transaction prepares it. -/
theorem beginLocked_high (h : High [] true true none s.env)
    (hlegal : slaveLegal (beginLocked w.hal s).2.env.trace = true) :
    High [] true true none (beginLocked w.hal s).2.env := by
  have henv : (beginLocked w.hal s).2.env =
      (prepareBus w.hal (readTime w.hal s).1 (readTime w.hal s).2).2.env := by
    unfold beginLocked
    simp only
    split <;> rfl
  rw [henv] at hlegal ⊢
  have hread := (prepareBus_steps w.hal (readTime w.hal s).1 _).legal hlegal
  have hstill := h.stay hread
  unfold prepareBus at hlegal ⊢
  simp only at hlegal ⊢
  have hwaits : ∀ hwaited : slaveLegal (waitSclHigh w.hal (readTime w.hal s).1 (releaseBusLines w.hal
      (readTime w.hal s).2)).2.env.trace = true, (waitSclHigh w.hal (readTime w.hal s).1 (releaseBusLines w.hal
      (readTime w.hal s).2)).1 = .ok ∧ High [] true true none
        (waitSclHigh w.hal (readTime w.hal s).1 (releaseBusLines w.hal (readTime w.hal s).2)).2.env := by
    intro hwaited
    have hreleased := (waitSclHigh_steps w.hal (readTime w.hal s).1 _).legal hwaited
    have hsda := (Steps.setScl true _).legal hreleased
    exact waitSclHighFor_high ((hstill.setSda_same hsda).setScl_same hreleased) _ hwaited
  split
  · rename_i hfailed
    rw [if_pos hfailed] at hlegal
    exact (hwaits hlegal).2
  · rename_i hready
    rw [if_neg hready] at hlegal
    exact (freeSda_high (hwaits ((freeSda_steps w.hal _ _).legal hlegal)).2 hlegal).2

/-- Where the whole of `ev_esp8266_i2c_finish_locked` succeeds, the STOP did, and no recovery ran. -/
theorem finishLocked_ok {ε : Type} {hal : I2cHal ε} {started : Bool} {status : I2cStatus}
    {s : I2cState ε} (hok : (finishLocked hal started startedUs status s).1 = .ok) :
    status = .ok ∧ (started = true → (stopCondition hal startedUs s).1 = .ok ∧
      (finishLocked hal started startedUs status s).2.env =
        (releaseBusLines hal (stopCondition hal startedUs s).2).env) := by
  have hrecovery : ∀ (status stopStatus : I2cStatus) (t : I2cState ε),
      (finishRecovery hal startedUs status stopStatus t).1 = .ok →
        status = .ok ∧ (stopStatus = .ok → finishRecovery hal startedUs status stopStatus t = (.ok, t)) := by
    intro status stopStatus t hended
    have hstatus : status = .ok := by
      unfold finishRecovery at hended
      simp only at hended
      split at hended
      · split at hended
        · rename_i hboth
          exact hboth.1
        · exact hended
      · exact hended
    refine ⟨hstatus, fun hstopped => ?_⟩
    rw [hstatus, hstopped]
    rfl
  have hended : (finishRecovery hal startedUs (finishStop hal started startedUs status s).1.1
      (finishStop hal started startedUs status s).1.2
      (finishStop hal started startedUs status s).2).1 = .ok := hok
  obtain ⟨hstatus, hquiet⟩ := hrecovery _ _ _ hended
  cases started with
  | false => exact ⟨hstatus, fun h => by cases h⟩
  | true =>
    have hboth : status = .ok ∧ (stopCondition hal startedUs s).1 = .ok := by
      change (if status = .ok then _ else status) = I2cStatus.ok at hstatus
      split at hstatus
      · rename_i h
        exact ⟨h, hstatus⟩
      · rename_i h
        exact absurd hstatus h
    refine ⟨hboth.1, fun _ => ⟨hboth.2, ?_⟩⟩
    unfold finishLocked
    simp only
    rw [hquiet hboth.2]
    rfl

theorem giveBus_grows (s : I2cState I2cBus) : s.env.trace <:+ (giveBus w.hal s).env.trace := by
  unfold giveBus
  split
  · exact w.move_grows _ _
  · exact List.suffix_refl _

theorem giveBus_high {v : Bool} {pending : Option (Bool × Bool)} (h : High cells m v pending s.env)
    (hlegal : slaveLegal (giveBus w.hal s).env.trace = true) :
    High cells m v pending (giveBus w.hal s).env := by
  unfold giveBus at *
  split
  · rename_i hcreated
    rw [if_pos hcreated] at hlegal
    exact h.stay hlegal
  · exact h

theorem closeTransaction_status {ε α : Type} {hal : I2cHal ε} {t : Transfer ε α}
    (hok : (closeTransaction hal t).1.1 = .ok) : t.status = .ok :=
  (finishLocked_ok hok).1

theorem closeTransaction_ok {α : Type} {t : Transfer I2cBus α} (hstarted : t.started = true)
    (hlegal : slaveLegal (closeTransaction w.hal t).2.env.trace = true)
    (hok : (closeTransaction w.hal t).1.1 = .ok) :
    slaveLegal t.state.env.trace = true ∧ ∀ cells m, Low cells m t.state.env →
      High (cells ++ [.stop]) true true none (closeTransaction w.hal t).2.env := by
  obtain ⟨_, hstopped⟩ := finishLocked_ok hok
  obtain ⟨hstop, henv⟩ := hstopped hstarted
  have hfinished : slaveLegal
      (finishLocked w.hal t.started t.startedUs t.status t.state).2.env.trace = true :=
    slaveLegal_suffix hlegal (giveBus_grows
      (setActive false (finishLocked w.hal t.started t.startedUs t.status t.state).2))
  rw [henv] at hfinished
  have hsda := (Steps.setScl true _).legal hfinished
  have hreleased := (Steps.setSda true _).legal hsda
  refine ⟨(stopCondition_steps w.hal t.startedUs t.state).legal hreleased, fun cells m hlow => ?_⟩
  have hhigh := ((stopCondition_ok hlow hreleased hstop).setSda_same hsda).setScl_same hfinished
  have hend : High (cells ++ [.stop]) true true none
      (finishLocked w.hal t.started t.startedUs t.status t.state).2.env := henv ▸ hhigh
  exact giveBus_high (s := setActive false _) hend hlegal

section Transaction

variable {bytes : Int → I2cState I2cBus → (I2cStatus × List UInt8) × I2cState I2cBus}
  {body : List UInt8 → List BusCell} {P : List UInt8 → Prop}

theorem transfer_steps
    (hsteps : ∀ startedUs s, ∃ n, Steps w.hal n s (bytes startedUs s).2) (s : I2cState I2cBus) :
    ∃ n, Steps w.hal n s (transfer w.hal [] bytes s).state := by
  have hbegun : Steps w.hal 0 s ((beginLocked w.hal s).1.1, (beginLocked w.hal s).2).2 :=
    beginLocked_steps w.hal s
  have hopened := whileOk_steps w.hal hbegun
    fun t => ⟨_, (setPhase_steps w.hal .start t).next
      (startCondition_steps w.hal (beginLocked w.hal s).1.2 _)⟩
  unfold transfer
  simp only
  generalize beginLocked w.hal s = begun at *
  generalize whileOk (begun.1.1, begun.2) _ = opened at *
  obtain ⟨n, hopened⟩ := hopened
  split
  · obtain ⟨k, hmore⟩ := hsteps begun.1.2 opened.2
    exact ⟨n + k, hopened.trans hmore⟩
  · exact ⟨n, hopened⟩

theorem transfer_ok
    (hsteps : ∀ startedUs s, ∃ n, Steps w.hal n s (bytes startedUs s).2)
    (hbytes : ∀ startedUs s, Low [.start] false s.env →
      slaveLegal (bytes startedUs s).2.env.trace = true → (bytes startedUs s).1.1 = .ok →
      P (bytes startedUs s).1.2 ∧ ∃ m, Low (body (bytes startedUs s).1.2) m (bytes startedUs s).2.env)
    (hok : (transfer w.hal [] bytes s).status = .ok) :
    (transfer w.hal [] bytes s).started = true ∧ (High [] true true none s.env →
      slaveLegal (transfer w.hal [] bytes s).state.env.trace = true →
        P (transfer w.hal [] bytes s).data ∧
          ∃ m, Low (body (transfer w.hal [] bytes s).data) m (transfer w.hal [] bytes s).state.env) := by
  unfold transfer at *
  simp only at hok ⊢
  split at hok
  · rename_i hopened
    rw [if_pos hopened]
    refine ⟨rfl, fun h hlegal => ?_⟩
    obtain ⟨hbegun, heq⟩ := whileOk_ok hopened
    simp only at hlegal hok ⊢
    rw [heq] at hopened hlegal hok ⊢
    obtain ⟨n, hgrown⟩ := hsteps (beginLocked w.hal s).1.2
      (startCondition w.hal (beginLocked w.hal s).1.2 (setPhase .start (beginLocked w.hal s).2)).2
    have hstart := hgrown.legal hlegal
    have hprepared := (setPhase_steps w.hal .start _).legal
      ((startCondition_steps w.hal _ _).legal hstart)
    have hidle := beginLocked_high h hprepared
    generalize beginLocked w.hal s = begun at *
    exact hbytes _ _ (startCondition_idle (s := setPhase .start begun.2) hidle hstart hopened)
      hlegal hok
  · rename_i hfailed
    exact absurd hok hfailed

/-- A transaction that succeeds, from the frame of its bytes. -/
theorem transaction_ok {portNum address7bit : UInt8} {argsOk : Bool}
    (body : List UInt8 → List BusCell) (P : List UInt8 → Prop)
    (hsteps : ∀ startedUs s, ∃ n, Steps w.hal n s (bytes startedUs s).2)
    (hbytes : ∀ startedUs s, Low [.start] false s.env →
      slaveLegal (bytes startedUs s).2.env.trace = true → (bytes startedUs s).1.1 = .ok →
      P (bytes startedUs s).1.2 ∧ ∃ m, Low (body (bytes startedUs s).1.2) m (bytes startedUs s).2.env)
    (hidle : s.env = I2cBus.idle)
    (hlegal : slaveLegal
      (transaction w.hal portNum address7bit argsOk [] bytes s).2.env.trace = true)
    (hok : (transaction w.hal portNum address7bit argsOk [] bytes s).1.1 = .ok) :
    P (transaction w.hal portNum address7bit argsOk [] bytes s).1.2 ∧
      High (body (transaction w.hal portNum address7bit argsOk [] bytes s).1.2 ++ [.stop]) true true none
        (transaction w.hal portNum address7bit argsOk [] bytes s).2.env := by
  unfold transaction at hlegal hok ⊢
  split at hok
  · cases hok
  · rename_i hvalid
    rw [if_neg hvalid] at hlegal ⊢
    simp only at hlegal hok ⊢
    split at hok
    · rename_i hfailed
      exact absurd hok hfailed
    · rename_i htaken
      rw [if_neg htaken] at hlegal ⊢
      have henv := takeBus_ok (not_not.mp htaken)
      generalize takeBus w.hal (beginDiag address7bit s) = taken at *
      obtain ⟨hstarted, hput⟩ := transfer_ok hsteps hbytes (closeTransaction_status hok)
      obtain ⟨htransferred, hclosed⟩ := closeTransaction_ok hstarted hlegal hok
      obtain ⟨n, hgrown⟩ := transfer_steps hsteps (setActive true taken.2)
      have hopened : slaveLegal taken.2.env.trace = true := hgrown.legal htransferred
      have hhigh : High [] true true none taken.2.env := by
        rw [henv, show (beginDiag address7bit s).env = I2cBus.idle from hidle] at hopened ⊢
        exact idle_high.stay hopened
      obtain ⟨hdata, m, hlow⟩ := hput hhigh htransferred
      exact ⟨hdata, hclosed _ m hlow⟩

end Transaction

end I2cAdapter

namespace I2cCall

def readLen : I2cCall → Nat
  | .writeStream _ _ => 0
  | .writeRegs _ _ _ => 0
  | .readStream _ dataLen => dataLen
  | .readRegs _ _ dataLen => dataLen

theorem run_high {w : I2cWorld} {portNum : UInt8} {call : I2cCall} {s : I2cState I2cBus}
    (hidle : s.env = I2cBus.idle)
    (hlegal : slaveLegal (call.run w.hal portNum s).2.env.trace = true)
    (hok : (call.run w.hal portNum s).1.1 = .ok) :
    (call.run w.hal portNum s).1.2.length = call.readLen ∧
      High (call.frame (call.run w.hal portNum s).1.2) true true none
        (call.run w.hal portNum s).2.env := by
  cases call with
  | writeStream address7bit data =>
    refine transaction_ok
      (fun _ => [.start] ++ addressByte address7bit false ++ data.flatMap writtenByte)
      (fun filled => filled.length = 0)
      (fun startedUs s => writeStreamBytes_steps w.hal startedUs address7bit data s)
      (fun startedUs s h hlegal hok => ⟨rfl, ?_⟩) hidle hlegal hok
    simp only [writing] at hlegal hok ⊢
    exact writeStreamBytes_ok h hlegal hok
  | writeRegs address7bit firstReg data =>
    refine transaction_ok
      (fun _ => [.start] ++ addressByte address7bit false ++ writtenByte firstReg ++
        data.flatMap writtenByte)
      (fun filled => filled.length = 0)
      (fun startedUs s => writeRegsBytes_steps w.hal startedUs address7bit firstReg data s)
      (fun startedUs s h hlegal hok => ⟨rfl, ?_⟩) hidle hlegal hok
    simp only [writing] at hlegal hok ⊢
    exact writeRegsBytes_ok h hlegal hok
  | readStream address7bit dataLen =>
    exact transaction_ok
      (fun filled => [.start] ++ addressByte address7bit true ++ readAllCells filled)
      (fun filled => filled.length = dataLen)
      (fun startedUs s => readStreamBytes_steps w.hal startedUs address7bit dataLen s)
      (fun startedUs s h hlegal hok => readStreamBytes_ok h hlegal hok) hidle hlegal hok
  | readRegs address7bit firstReg dataLen =>
    exact transaction_ok
      (fun filled => [.start] ++ addressByte address7bit false ++ writtenByte firstReg ++
        [.start] ++ addressByte address7bit true ++ readAllCells filled)
      (fun filled => filled.length = dataLen)
      (fun startedUs s => readRegsBytes_steps w.hal startedUs address7bit firstReg dataLen s)
      (fun startedUs s h hlegal hok => readRegsBytes_ok h hlegal hok) hidle hlegal hok

/-- A call that succeeds on an idle bus has put exactly its frame on the lines: what they show, what
each side put there, and every change of the master's SDA while SCL was high. -/
theorem run_frame (w : I2cWorld) (portNum : UInt8) (call : I2cCall) (s : I2cState I2cBus)
    (hidle : s.env = I2cBus.idle)
    (hlegal : slaveLegal (call.run w.hal portNum s).2.env.trace = true)
    (hok : (call.run w.hal portNum s).1.1 = .ok) :
    (call.run w.hal portNum s).1.2.length = call.readLen ∧
      busDecode BusLevel.sda (call.run w.hal portNum s).2.env.trace =
        ⟨lineSymbols (call.frame (call.run w.hal portNum s).1.2), none⟩ ∧
      busDecode BusLevel.sides (call.run w.hal portNum s).2.env.trace =
        ⟨call.frame (call.run w.hal portNum s).1.2, none⟩ ∧
      masterEdges (call.run w.hal portNum s).2.env.trace =
        (call.frame (call.run w.hal portNum s).1.2).filterMap BusSymbol.isEdge := by
  obtain ⟨hlength, hhigh⟩ := run_high hidle hlegal hok
  refine ⟨hlength, ?_, hhigh.decoded, hhigh.edges⟩
  have hline := busDecode_map (fun p : Bool × Bool => p.1 && p.2) BusLevel.sides
    (call.run w.hal portNum s).2.env.trace
  rw [hhigh.decoded] at hline
  exact hline

/-- A slave that acknowledges every byte written and sends zeros, a timer that stands still and a mutex
that is free. -/
def zeroWorld : I2cWorld where
  react trace :=
    if trace.head?.any BusLevel.scl then []
    else [(!(FrameState.ofSymbols (busDecode BusLevel.sda trace).symbols).any FrameState.slaveTurn, true)]
  time _ := 0
  grants _ := true

def idleAdapter : I2cState I2cBus := ⟨{ configured := true }, true, true, true, 0, I2cBus.idle⟩

theorem run_frame_probe :
    busDecode BusLevel.sda ((I2cCall.readRegs 0x68 0 2).run zeroWorld.hal 0 idleAdapter).2.env.trace =
      ⟨lineSymbols ((I2cCall.readRegs 0x68 0 2).frame
        ((I2cCall.readRegs 0x68 0 2).run zeroWorld.hal 0 idleAdapter).1.2), none⟩ :=
  (run_frame zeroWorld 0 (.readRegs 0x68 0 2) idleAdapter rfl (by decide +kernel)
    (by decide +kernel)).2.1

end I2cCall

end EventFramework
