import EventFramework.Adapters.I2cBus

/-!
# The levels of a transaction

What the primitive operations of the adapter put on the bus, given the phase that the bus is in:
SCL held low by the master, SCL released but perhaps held by the slave, or SCL high.
-/

namespace EventFramework
set_option autoImplicit false

open I2cAdapter

/-- What both sides say in one symbol. -/
abbrev BusCell := BusSymbol (Bool × Bool)

def lineSymbols (cells : List BusCell) : List (BusSymbol Bool) :=
  cells.map (BusSymbol.map fun p => p.1 && p.2)

/-- Nothing is decoded while SCL is high and SDA stays. -/
theorem BusDecoder.edge_still {α : Type} (sample : BusLevel → α) (d : BusDecoder α)
    {old new : BusLevel} (hold : old.scl = true) (hnew : new.scl = true) (hsda : new.sda = old.sda) :
    d.edge sample old new = d := by
  unfold edge
  rw [hold, hnew, hsda]
  cases old.sda <;> rfl

namespace I2cBus

structure Low (cells : List BusCell) (m : Bool) (b : I2cBus) : Prop where
  scl : b.now.masterScl = false
  sda : b.now.masterSda = m
  decoded : busDecode BusLevel.sides b.trace = ⟨cells, none⟩
  edges : masterEdges b.trace = cells.filterMap BusSymbol.isEdge

/-- The master has released SCL after a low phase. -/
structure Rising (cells : List BusCell) (m : Bool) (b : I2cBus) : Prop where
  scl : b.now.masterScl = true
  sda : b.now.masterSda = m
  decoded : busDecode BusLevel.sides b.trace =
    ⟨cells, if b.now.slaveScl then some (m, b.now.slaveSda) else none⟩
  edges : masterEdges b.trace = cells.filterMap BusSymbol.isEdge

structure High (cells : List BusCell) (m v : Bool) (pending : Option (Bool × Bool)) (b : I2cBus) :
    Prop where
  scl : b.now.masterScl = true
  slaveScl : b.now.slaveScl = true
  sda : b.now.masterSda = m
  slave : b.now.slaveSda = v
  decoded : busDecode BusLevel.sides b.trace = ⟨cells, pending⟩
  edges : masterEdges b.trace = cells.filterMap BusSymbol.isEdge

variable {cells : List BusCell} {m v : Bool} {pending : Option (Bool × Bool)} {b : I2cBus}
  {w : I2cWorld} {l : BusLevel}

theorem decode_push (l : BusLevel) (b : I2cBus) : busDecode BusLevel.sides (b.push l).trace =
    (busDecode BusLevel.sides b.trace).edge BusLevel.sides b.now l := rfl

theorem edges_push (l : BusLevel) (b : I2cBus) : masterEdges (b.push l).trace =
    masterEdges b.trace ++ if b.now.scl && l.scl && b.now.masterSda != l.masterSda then
      [if l.masterSda then .stop else .start] else [] := rfl

theorem legal_push {l : BusLevel} {b : I2cBus} (h : slaveLegal (b.push l).trace = true) :
    slaveLegal b.trace = true ∧
      (b.now.scl = true → l.slaveSda = b.now.slaveSda ∧ l.slaveScl = true) := by
  change slaveLegal (l :: b.now :: b.past) = true at h
  simp only [slaveLegal, Bool.and_eq_true, Bool.or_eq_true, Bool.not_eq_true', beq_iff_eq] at h
  refine ⟨h.1.1, fun hscl => ?_⟩
  rcases h.1.2 with hlow | hboth
  · rw [hscl] at hlow
    cases hlow
  · exact hboth

theorem Low.push (h : Low cells m b) (hl : l.masterScl = false) :
    Low cells l.masterSda (b.push l) where
  scl := hl
  sda := rfl
  decoded := by
    rw [decode_push, h.decoded]
    simp [BusDecoder.edge, BusLevel.scl, h.scl, hl]
  edges := by
    rw [edges_push, h.edges]
    simp [BusLevel.scl, h.scl]

theorem Low.settle (h : Low cells m b) (hlegal : slaveLegal (w.settle b).trace = true) :
    Low cells m (w.settle b) := by
  refine w.settle_keeps (Low cells m) (fun b out hb _ => ?_) h hlegal
  have hpushed := hb.push (l := { b.now with slaveSda := out.1, slaveScl := out.2 }) hb.scl
  rwa [hb.sda] at hpushed

theorem Low.setSda (h : Low cells m b) (level : Bool)
    (hlegal : slaveLegal (w.hal.setSda level b).trace = true) :
    Low cells level (w.hal.setSda level b) :=
  (h.push (l := { b.now with masterSda := level }) h.scl).settle hlegal

theorem Low.stay (h : Low cells m b) (hlegal : slaveLegal (w.move b.now b).trace = true) :
    Low cells m (w.move b.now b) := by
  have hpushed := h.push (l := b.now) h.scl
  rw [h.sda] at hpushed
  exact hpushed.settle hlegal

theorem Rising.answer (h : Rising cells m b) (out : Bool × Bool)
    (hlegal : slaveLegal (b.answer out).trace = true) : Rising cells m (b.answer out) where
  scl := h.scl
  sda := h.sda
  decoded := by
    have hstill := (legal_push hlegal).2
    unfold I2cBus.answer at *
    rw [decode_push, h.decoded]
    cases hslave : b.now.slaveScl with
    | false => cases out.2 <;>
        simp [BusDecoder.edge, BusLevel.scl, BusLevel.sides, I2cBus.push, h.scl, h.sda, hslave]
    | true =>
      have hscl : b.now.scl = true := by simp [BusLevel.scl, h.scl, hslave]
      obtain ⟨hsda, hout⟩ := hstill hscl
      have hout : out.2 = true := hout
      rw [BusDecoder.edge_still]
      · simp [I2cBus.push, show out.1 = b.now.slaveSda from hsda, hout]
      · exact hscl
      · simp [BusLevel.scl, h.scl, hout]
      · exact congrArg (b.now.masterSda && ·) hsda
  edges := by
    unfold I2cBus.answer
    rw [edges_push, h.edges]
    simp

theorem Rising.settle (h : Rising cells m b) (hlegal : slaveLegal (w.settle b).trace = true) :
    Rising cells m (w.settle b) :=
  w.settle_keeps (Rising cells m) (fun _ out hb hanswer => hb.answer out hanswer) h hlegal

theorem Rising.push (h : Rising cells m b) : Rising cells m (b.push b.now) where
  scl := h.scl
  sda := h.sda
  decoded := by
    rw [decode_push, h.decoded]
    cases hslave : b.now.slaveScl with
    | false => simp [BusDecoder.edge, BusLevel.scl, I2cBus.push, h.scl, hslave]
    | true =>
      have hscl : b.now.scl = true := by simp [BusLevel.scl, h.scl, hslave]
      rw [BusDecoder.edge_still _ _ hscl hscl rfl]
      simp [I2cBus.push, hslave]
  edges := by
    rw [edges_push, h.edges]
    simp

theorem Rising.stay (h : Rising cells m b) (hlegal : slaveLegal (w.move b.now b).trace = true) :
    Rising cells m (w.move b.now b) :=
  h.push.settle hlegal

theorem Low.release (h : Low cells m b) (hlegal : slaveLegal (w.hal.setScl true b).trace = true) :
    Rising cells m (w.hal.setScl true b) := by
  refine Rising.settle ⟨rfl, h.sda, ?_, ?_⟩ hlegal
  · rw [decode_push, h.decoded]
    cases hslave : b.now.slaveScl <;>
      simp [BusDecoder.edge, BusLevel.scl, BusLevel.sides, I2cBus.push, h.scl, h.sda, hslave]
  · rw [edges_push, h.edges]
    simp

theorem Rising.high (h : Rising cells m b) (hscl : b.now.scl = true) :
    High cells m b.now.slaveSda (some (m, b.now.slaveSda)) b := by
  have hslave : b.now.slaveScl = true := by
    simpa [BusLevel.scl, h.scl] using hscl
  refine ⟨h.scl, hslave, h.sda, rfl, ?_, h.edges⟩
  rw [h.decoded, hslave]
  rfl

theorem High.scl_high (h : High cells m v pending b) : b.now.scl = true := by
  simp [BusLevel.scl, h.scl, h.slaveScl]

theorem High.sda_eq (h : High cells m v pending b) : b.now.sda = (m && v) := by
  simp [BusLevel.sda, h.sda, h.slave]

theorem High.answer (h : High cells m v pending b) (out : Bool × Bool)
    (hlegal : slaveLegal (b.answer out).trace = true) : High cells m v pending (b.answer out) := by
  obtain ⟨hsda, hout⟩ := (legal_push hlegal).2 h.scl_high
  have hsda : out.1 = v := hsda.trans h.slave
  have hout : out.2 = true := hout
  refine ⟨h.scl, hout, h.sda, hsda, ?_, ?_⟩
  · unfold I2cBus.answer
    rw [decode_push, h.decoded]
    refine BusDecoder.edge_still _ _ h.scl_high ?_ ?_
    · simp [BusLevel.scl, h.scl, hout]
    · simp [BusLevel.sda, h.slave, hsda]
  · unfold I2cBus.answer
    rw [edges_push, h.edges]
    simp

theorem High.settle (h : High cells m v pending b) (hlegal : slaveLegal (w.settle b).trace = true) :
    High cells m v pending (w.settle b) :=
  w.settle_keeps (High cells m v pending) (fun _ out hb hanswer => hb.answer out hanswer) h hlegal

theorem High.stay (h : High cells m v pending b)
    (hlegal : slaveLegal (w.move b.now b).trace = true) :
    High cells m v pending (w.move b.now b) := by
  refine High.settle ⟨h.scl, h.slaveScl, h.sda, h.slave, ?_, ?_⟩ hlegal
  · rw [decode_push, h.decoded]
    exact BusDecoder.edge_still _ _ h.scl_high h.scl_high rfl
  · rw [edges_push, h.edges]
    simp

/-- Lines that the master has released already. -/
theorem High.setSda_same (h : High cells m v pending b)
    (hlegal : slaveLegal (w.hal.setSda m b).trace = true) :
    High cells m v pending (w.hal.setSda m b) := by
  have hsame : ({ b.now with masterSda := m } : BusLevel) = b.now := by rw [← h.sda]
  change High cells m v pending (w.move _ b)
  change slaveLegal (w.move _ b).trace = true at hlegal
  rw [hsame] at hlegal ⊢
  exact h.stay hlegal

theorem High.setScl_same (h : High cells m v pending b)
    (hlegal : slaveLegal (w.hal.setScl true b).trace = true) :
    High cells m v pending (w.hal.setScl true b) := by
  have hsame : ({ b.now with masterScl := true } : BusLevel) = b.now := by rw [← h.scl]
  change High cells m v pending (w.move _ b)
  change slaveLegal (w.move _ b).trace = true at hlegal
  rw [hsame] at hlegal ⊢
  exact h.stay hlegal

theorem High.lower (h : High cells m v pending b)
    (hlegal : slaveLegal (w.hal.setScl false b).trace = true) :
    Low (cells ++ pending.toList.map .bit) m (w.hal.setScl false b) := by
  refine Low.settle ⟨rfl, h.sda, ?_, ?_⟩ hlegal
  · rw [decode_push, h.decoded]
    simp [BusDecoder.edge, BusLevel.scl, h.scl, h.slaveScl]
  · rw [edges_push, h.edges]
    cases pending <;> simp [BusSymbol.isEdge]

/-- The master pulls SDA low while SCL is high. -/
theorem High.start (h : High cells true true pending b)
    (hlegal : slaveLegal (w.hal.setSda false b).trace = true) :
    High (cells ++ [.start]) false true none (w.hal.setSda false b) := by
  refine High.settle ⟨h.scl, h.slaveScl, rfl, h.slave, ?_, ?_⟩ hlegal
  · rw [decode_push, h.decoded]
    simp [BusDecoder.edge, BusLevel.scl, BusLevel.sda, h.scl, h.slaveScl, h.sda, h.slave]
  · rw [edges_push, h.edges]
    simp [BusLevel.scl, h.scl, h.slaveScl, h.sda, BusSymbol.isEdge]

/-- The master releases SDA while SCL is high, and the slave does not hold it. -/
theorem High.stop (h : High cells false true pending b)
    (hlegal : slaveLegal (w.hal.setSda true b).trace = true) :
    High (cells ++ [.stop]) true true none (w.hal.setSda true b) := by
  refine High.settle ⟨h.scl, h.slaveScl, rfl, h.slave, ?_, ?_⟩ hlegal
  · rw [decode_push, h.decoded]
    simp [BusDecoder.edge, BusLevel.scl, BusLevel.sda, h.scl, h.slaveScl, h.sda, h.slave]
  · rw [edges_push, h.edges]
    simp [BusLevel.scl, h.scl, h.slaveScl, h.sda, BusSymbol.isEdge]

end I2cBus

end EventFramework
