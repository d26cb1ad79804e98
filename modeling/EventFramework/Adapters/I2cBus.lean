import EventFramework.Adapters.I2cBracket

/-!
# The I2C bus

Two open-drain lines between the adapter and a slave, and what the levels on them say by the rules
of I2C. Every call of the hardware layer is one entry of the trace, followed by whatever the slave
does before the next one. Traces have their newest level first.
-/

namespace EventFramework
set_option autoImplicit false

/-- Who pulls which line; `true` lets go of it. -/
structure BusLevel where
  masterSda : Bool := true
  masterScl : Bool := true
  slaveSda : Bool := true
  slaveScl : Bool := true
  deriving DecidableEq, Repr

namespace BusLevel

def sda (l : BusLevel) : Bool := l.masterSda && l.slaveSda

def scl (l : BusLevel) : Bool := l.masterScl && l.slaveScl

def sides (l : BusLevel) : Bool × Bool := (l.masterSda, l.slaveSda)

end BusLevel

inductive BusSymbol (α : Type) where
  | start
  | stop
  | bit (a : α)
  deriving DecidableEq, Repr

namespace BusSymbol

variable {α β : Type}

def map (f : α → β) : BusSymbol α → BusSymbol β
  | .start => .start
  | .stop => .stop
  | .bit a => .bit (f a)

def isEdge : BusSymbol α → Option (BusSymbol Unit)
  | .start => some .start
  | .stop => some .stop
  | .bit _ => none

end BusSymbol

/-- The symbols decoded so far, and the sample of a clock pulse that is still high. -/
structure BusDecoder (α : Type) where
  symbols : List (BusSymbol α) := []
  pending : Option α := none
  deriving DecidableEq, Repr

section Decoding

variable {α β : Type}

/-- SDA that changes while SCL is high is a START or a STOP; a bit is what was sampled when SCL rose,
once SCL falls again. -/
def BusDecoder.edge (sample : BusLevel → α) (d : BusDecoder α) (old new : BusLevel) : BusDecoder α :=
  if old.scl && new.scl then
    if old.sda && !new.sda then { symbols := d.symbols ++ [.start] }
    else if !old.sda && new.sda then { symbols := d.symbols ++ [.stop] }
    else d
  else if !old.scl && new.scl then { d with pending := some (sample new) }
  else if old.scl && !new.scl then { symbols := d.symbols ++ d.pending.toList.map .bit }
  else d

def busDecode (sample : BusLevel → α) : List BusLevel → BusDecoder α
  | new :: old :: rest => (busDecode sample (old :: rest)).edge sample old new
  | _ => {}

def masterEdges : List BusLevel → List (BusSymbol Unit)
  | new :: old :: rest => masterEdges (old :: rest) ++
      if old.scl && new.scl && old.masterSda != new.masterSda then
        [if new.masterSda then .stop else .start]
      else []
  | _ => []

theorem busDecode_map (f : α → β) (sample : BusLevel → α) (trace : List BusLevel) :
    busDecode (fun l => f (sample l)) trace =
      ⟨(busDecode sample trace).symbols.map (BusSymbol.map f),
        (busDecode sample trace).pending.map f⟩ := by
  induction trace with
  | nil => rfl
  | cons new older ih =>
    cases older with
    | nil => rfl
    | cons old rest =>
      rw [busDecode, busDecode, ih]
      generalize busDecode sample (old :: rest) = d
      unfold BusDecoder.edge
      split
      · split
        · simp only [List.map_append]
          rfl
        · split
          · simp only [List.map_append]
            rfl
          · rfl
      · split
        · rfl
        · split
          · cases hpending : d.pending with
            | none => simp
            | some a =>
              simp only [List.map_append]
              rfl
          · rfl

end Decoding

/-- Where a frame stands: in its address byte or after it, the direction that the address gave, whether
the last byte was acknowledged, and the bits of the byte so far. -/
structure FrameState where
  first : Bool := true
  reading : Bool := false
  acked : Bool := true
  position : Nat := 0
  deriving DecidableEq, Repr

namespace FrameState

def bit (st : FrameState) (b : Bool) : FrameState :=
  if st.position = 8 then { st with first := false, acked := !b, position := 0 }
  else if st.position = 7 ∧ st.first = true then { st with reading := b, position := 8 }
  else { st with position := st.position + 1 }

def symbol (st : Option FrameState) : BusSymbol Bool → Option FrameState
  | .start => some {}
  | .stop => none
  | .bit b => st.map fun st => st.bit b

/-- The frame that the symbols leave open. -/
def ofSymbols (symbols : List (BusSymbol Bool)) : Option FrameState := symbols.foldl symbol none

/-- The bits that are the slave's: its acknowledgements and the data of a read. -/
def slaveTurn (st : FrameState) : Bool :=
  if st.first || !st.reading then st.position == 8 else decide (st.position < 8) && st.acked

theorem ofSymbols_snoc (symbols : List (BusSymbol Bool)) (s : BusSymbol Bool) :
    ofSymbols (symbols ++ [s]) = symbol (ofSymbols symbols) s :=
  List.foldl_append

end FrameState

/-- The slave touches SDA only while SCL is low, keeps SCL low only from a low phase on, and has let
go of SDA in every bit that is not its own. -/
def slaveLegal : List BusLevel → Bool
  | new :: old :: rest => slaveLegal (old :: rest) &&
      (!old.scl || new.slaveSda == old.slaveSda && new.slaveScl) &&
      (!new.scl || new.slaveSda ||
        (FrameState.ofSymbols (busDecode BusLevel.sda (new :: old :: rest)).symbols).any
          FrameState.slaveTurn)
  | _ => true

theorem slaveLegal_suffix {newer older : List BusLevel} (h : slaveLegal newer = true)
    (hsuffix : older <:+ newer) : slaveLegal older = true := by
  induction newer with
  | nil =>
    rw [List.suffix_nil.mp hsuffix]
    rfl
  | cons new rest ih =>
    rcases List.suffix_cons_iff.mp hsuffix with rfl | hrest
    · exact h
    · refine ih ?_ hrest
      cases rest with
      | nil => rfl
      | cons old rest =>
        simp only [slaveLegal, Bool.and_eq_true] at h
        exact h.1.1

structure I2cBus where
  now : BusLevel
  past : List BusLevel

namespace I2cBus

def trace (b : I2cBus) : List BusLevel := b.now :: b.past

def idle : I2cBus := ⟨{}, []⟩

def push (l : BusLevel) (b : I2cBus) : I2cBus := ⟨l, b.trace⟩

def answer (b : I2cBus) (out : Bool × Bool) : I2cBus :=
  b.push { b.now with slaveSda := out.1, slaveScl := out.2 }

end I2cBus

/-- The slave, the timer and the mutex: each may look at all that happened. -/
structure I2cWorld where
  react : List BusLevel → List (Bool × Bool)
  time : List BusLevel → Int
  grants : List BusLevel → Bool

namespace I2cWorld

def settle (w : I2cWorld) (b : I2cBus) : I2cBus := (w.react b.trace).foldl I2cBus.answer b

def move (w : I2cWorld) (l : BusLevel) (b : I2cBus) : I2cBus := w.settle (b.push l)

def hal (w : I2cWorld) : I2cHal I2cBus where
  setSda level b := w.move { b.now with masterSda := level } b
  setScl level b := w.move { b.now with masterScl := level } b
  getSda b := (b.now.sda, w.move b.now b)
  getScl b := (b.now.scl, w.move b.now b)
  getTime b := (w.time b.trace, w.move b.now b)
  delayUs _ b := w.move b.now b
  mutexTake b := (w.grants b.trace, w.move b.now b)
  mutexGive b := w.move b.now b

theorem answers_grow (outs : List (Bool × Bool)) : ∀ b : I2cBus,
    b.trace <:+ (outs.foldl I2cBus.answer b).trace := by
  induction outs with
  | nil => exact fun b => List.suffix_refl _
  | cons out outs ih => exact fun b => (List.suffix_cons _ _).trans (ih (b.answer out))

/-- What the slave keeps while it settles, if every answer that obeys a law of traces keeps it. -/
theorem settle_keeps_of (w : I2cWorld) (law : List BusLevel → Prop)
    (hlaw : ∀ newer older : List BusLevel, law newer → older <:+ newer → law older)
    (Inv : I2cBus → Prop)
    (hanswer : ∀ b out, Inv b → law (b.answer out).trace → Inv (b.answer out))
    {b : I2cBus} (hb : Inv b) (h : law (w.settle b).trace) : Inv (w.settle b) := by
  have hall (outs : List (Bool × Bool)) : ∀ b : I2cBus, Inv b →
      law (outs.foldl I2cBus.answer b).trace → Inv (outs.foldl I2cBus.answer b) := by
    induction outs with
    | nil => exact fun b hb _ => hb
    | cons out outs ih =>
      intro b hb h
      exact ih _ (hanswer b out hb (hlaw _ _ h (answers_grow outs _))) h
  exact hall _ b hb h

/-- What the slave keeps while it settles, if every legal answer keeps it. -/
theorem settle_keeps (w : I2cWorld) (Inv : I2cBus → Prop)
    (hanswer : ∀ b out, Inv b → slaveLegal (b.answer out).trace = true → Inv (b.answer out))
    {b : I2cBus} (hb : Inv b) (hlegal : slaveLegal (w.settle b).trace = true) : Inv (w.settle b) :=
  w.settle_keeps_of (fun trace => slaveLegal trace = true)
    (fun _ _ h hsuffix => slaveLegal_suffix h hsuffix) Inv hanswer hb hlegal

theorem settle_grows (w : I2cWorld) (b : I2cBus) : b.trace <:+ (w.settle b).trace :=
  answers_grow _ b

theorem move_grows (w : I2cWorld) (l : BusLevel) (b : I2cBus) : b.trace <:+ (w.move l b).trace :=
  (List.suffix_cons _ _).trans (w.settle_grows (b.push l))

end I2cWorld

open I2cAdapter in
/-- The parts of a transaction only add to the trace. -/
theorem I2cAdapter.Steps.grows {w : I2cWorld} {n : Nat} {s t : I2cState I2cBus}
    (h : Steps w.hal n s t) : s.env.trace <:+ t.env.trace := by
  induction h with
  | refl s => exact List.suffix_refl _
  | trans _ _ ih ih' => exact ih.trans ih'
  | note f s hf => exact List.suffix_refl _
  | started s => exact List.suffix_refl _
  | _ => exact w.move_grows _ _

end EventFramework
