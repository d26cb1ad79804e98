import Mathlib.Data.List.GetD
import Mathlib.Data.List.Nodup
import Mathlib.Data.UInt

/-!
# Identifiers and catalogs

The enumerations of the core and the tables of `config/events.def` and
`config/actors.def`. A C enum can hold a value that no enumerator has, and the
catalog lookups test for it; `undeclared` stands for such a value.
-/

namespace EventFramework
set_option autoImplicit false

inductive Result where
  | ok
  | errInvalidArg
  | errOutOfRange
  | errNotFound
  | errState
  | errContract
  | errFull
  | errEmpty
  | errUnsupported
  | errPartial
  | errNoCapability
  | errAuth
  | errPolicy
  | errTimeout
  | errNotReady
  deriving DecidableEq, Repr

inductive PayloadKind where
  | inline
  | copyFixed
  | lease
  | streamView
  deriving DecidableEq, Repr

inductive MailboxKind where
  | fifo8
  | fifo16
  | mailbox1
  | lossyRing8
  | coalescedFlag
  deriving DecidableEq, Repr

inductive ExecutionDomain where
  | isr
  | fastLoop
  | slowIo
  | network
  deriving DecidableEq, Repr

inductive RouteQos where
  | critical
  | bestEffort
  | lossy
  | coalesced
  | latestOnly
  | wakeupCritical
  | telemetry
  | command
  deriving DecidableEq, Repr

inductive EventId where
  | bootStarted
  | bootCompleted
  | tick1s
  | streamChunkReady
  | diagSnapshotReq
  | diagSnapshotRsp
  | oledDisplayTextCmd
  | oledCommitFrame
  | timeUpdated
  | tempUpdated
  | lightUpdated
  | tick100ms
  | gpioIrq
  | mcp23008InputChanged
  | buttonEvent
  | panelLedSetCmd
  | mcp23008Ready
  | rtcReady
  | oledReady
  | ds18b20Ready
  | bh1750Ready
  | systemReady
  | sysGotoSleepCmd
  | netWifiUp
  | netWifiDown
  | netMqttUp
  | netMqttDown
  | netMqttMsgRx
  | netMqttMsgRxLease
  | netTxCmd
  | faultReported
  | actorLifecycleChanged
  | actorReady
  | actorDegraded
  | actorOffline
  | actorSleepReady
  | actorFault
  | capabilityUpdated
  | commandAuthFailed
  | commandAccepted
  | commandRejected
  | undeclared (raw : Int)
  deriving DecidableEq, Repr

/-- `EV_ACTOR_NONE` is the value -1, which has no catalog entry. -/
inductive ActorId where
  | boot
  | runtime
  | stream
  | diag
  | app
  | oled
  | rtc
  | ds18b20
  | bh1750
  | panel
  | mcp23008
  | supervisor
  | power
  | watchdog
  | network
  | command
  | fault
  | metrics
  | none
  | undeclared (raw : Int)
  deriving DecidableEq, Repr

/-- The part of `ev_event_meta_t` that the runtime reads. -/
structure EventMeta where
  payloadKind : PayloadKind
  deriving DecidableEq, Repr

/-- The part of `ev_actor_meta_t` that the runtime reads. -/
structure ActorMeta where
  executionDomain : ExecutionDomain
  mailboxKind : MailboxKind
  drainBudget : Nat
  deriving DecidableEq, Repr

def eventMeta : EventId → Option EventMeta
  | .streamChunkReady | .diagSnapshotRsp | .oledCommitFrame | .netMqttMsgRxLease =>
    some ⟨.lease⟩
  | .faultReported | .actorLifecycleChanged | .actorReady | .actorDegraded | .actorOffline
  | .actorSleepReady | .actorFault | .capabilityUpdated => some ⟨.copyFixed⟩
  | .undeclared _ => none
  | _ => some ⟨.inline⟩

def EventId.isValid (id : EventId) : Bool := (eventMeta id).isSome

def actorMeta : ActorId → Option ActorMeta
  | .boot => some ⟨.fastLoop, .fifo8, 4⟩
  | .runtime => some ⟨.fastLoop, .fifo8, 1⟩
  | .stream => some ⟨.fastLoop, .fifo16, 8⟩
  | .diag => some ⟨.slowIo, .fifo8, 2⟩
  | .app => some ⟨.fastLoop, .fifo8, 4⟩
  | .oled => some ⟨.slowIo, .fifo8, 1⟩
  | .rtc => some ⟨.slowIo, .fifo8, 1⟩
  | .ds18b20 => some ⟨.slowIo, .fifo8, 1⟩
  | .bh1750 => some ⟨.slowIo, .fifo8, 1⟩
  | .panel => some ⟨.fastLoop, .fifo8, 4⟩
  | .mcp23008 => some ⟨.slowIo, .fifo8, 1⟩
  | .supervisor => some ⟨.fastLoop, .fifo8, 2⟩
  | .power => some ⟨.fastLoop, .fifo8, 1⟩
  | .watchdog => some ⟨.fastLoop, .fifo8, 1⟩
  | .network => some ⟨.slowIo, .fifo8, 2⟩
  | .command => some ⟨.slowIo, .fifo8, 2⟩
  | .fault => some ⟨.fastLoop, .fifo8, 4⟩
  | .metrics => some ⟨.fastLoop, .fifo8, 4⟩
  | .none | .undeclared _ => none

def ActorId.isValid (id : ActorId) : Bool := (actorMeta id).isSome

/-- The actors in the order of `config/actors.def`, which numbers them from zero. -/
def actorCatalog : List ActorId :=
  [.boot, .runtime, .stream, .diag, .app, .oled, .rtc, .ds18b20, .bh1750, .panel, .mcp23008,
    .supervisor, .power, .watchdog, .network, .command, .fault, .metrics]

def actorCount : Nat := actorCatalog.length

/-- The cast `(ev_actor_id_t)index`. -/
def ActorId.ofIndex (index : Nat) : ActorId := actorCatalog.getD index (.undeclared index)

/-- The domains in the order of `ev_execution_domain_t`. -/
def domainCatalog : List ExecutionDomain := [.isr, .fastLoop, .slowIo, .network]

/-- `EV_DOMAIN_COUNT`. -/
def domainCount : Nat := domainCatalog.length

/-- The cast `(ev_execution_domain_t)index` of an index below `domainCount`. -/
def ExecutionDomain.ofIndex (index : Nat) : ExecutionDomain := domainCatalog.getD index .isr

def actorDefaultDrainBudget (id : ActorId) : Nat :=
  match actorMeta id with
  | some info => info.drainBudget
  | none => 0

theorem actorCount_pos : 0 < actorCount := by decide

theorem actorCatalog_nodup : actorCatalog.Nodup := by decide

theorem mem_actorCatalog_iff (id : ActorId) : id ∈ actorCatalog ↔ id.isValid = true := by
  cases id <;> simp [actorCatalog, ActorId.isValid, actorMeta]

/-- Every declared actor may drain at least one message per visit. -/
theorem drainBudget_pos {id : ActorId} (h : id.isValid = true) : 0 < actorDefaultDrainBudget id := by
  cases id <;> simp_all [ActorId.isValid, actorMeta, actorDefaultDrainBudget]

theorem actorMeta_fifo {id : ActorId} {info : ActorMeta} (h : actorMeta id = some info) :
    info.mailboxKind = .fifo8 ∨ info.mailboxKind = .fifo16 := by
  cases id <;> simp_all [actorMeta] <;> subst h <;> simp

end EventFramework
