import EventFramework.Core.MailboxRefinement
import EventFramework.Core.MailboxAtomicity
import EventFramework.Core.MailboxReport
import EventFramework.Core.LeaseHandles
import EventFramework.Core.LeaseOwnership
import EventFramework.Core.PumpFairness
import EventFramework.Core.PumpAccounting
import EventFramework.Core.ExactlyOnce
import EventFramework.Core.TurnAccounting
import EventFramework.Runtime.NetworkIsolation
import EventFramework.Runtime.NextDeadline
import EventFramework.Runtime.OneShots
import EventFramework.Runtime.StaleHandles
import EventFramework.Runtime.TimerAttempts
import EventFramework.Runtime.LoopBounds
import EventFramework.Runtime.DeliveryAgreement
import EventFramework.Actors.SupervisorActor
import EventFramework.Actors.OledCoherence
import EventFramework.Actors.Ds18b20Stall
import EventFramework.Actors.PanelGrammar
import EventFramework.Actors.PanelAgreement
import EventFramework.Actors.Mcp23008Leds
import EventFramework.Actors.RtcUnixTime
import EventFramework.Drivers.Ds18b20Decoding
import EventFramework.Drivers.Ds18b20Crc
import EventFramework.Actors.CommandDecimal
import EventFramework.Actors.Bh1750Retry
import EventFramework.Actors.Mcp23008Inputs
import EventFramework.Actors.WatchdogActor
import EventFramework.Actors.PowerSleep
import EventFramework.Actors.SleepConsent
import EventFramework.Adapters.SleepRecovery
import EventFramework.Adapters.I2cAdapter
import EventFramework.Adapters.I2cBracket
import EventFramework.Adapters.I2cBus
import EventFramework.Adapters.I2cLevels
import EventFramework.Adapters.I2cPulses
import EventFramework.Runtime.TimerCatchUp
import EventFramework.Adapters.NetLinks
import EventFramework.Runtime.Quiescence
import EventFramework.Runtime.SleepChecks
import EventFramework.Runtime.GraphBuilder
import EventFramework.Runtime.GraphRoutes
import EventFramework.Runtime.Rebuild
import EventFramework.Runtime.RouteSpans
import EventFramework.Runtime.OutboxHistory
import EventFramework.Core.FifoPush
import EventFramework.Runtime.ActorPublishPort
import EventFramework.Runtime.PublishWalks
import EventFramework.Runtime.PollBudgets
import EventFramework.Runtime.PollEnds
import EventFramework.Runtime.PublishAgreement
import EventFramework.Runtime.ActorPublishing
import EventFramework.Apps.DemoApp
import EventFramework.Apps.SleepAdmission
import EventFramework.Adapters.I2cFraming
import EventFramework.Adapters.I2cWire
import EventFramework.Adapters.I2cRecovery
import EventFramework.Runtime.RingHistories
import EventFramework.Runtime.FaultStore
import EventFramework.Runtime.TraceLoss
import EventFramework.Apps.NetMessages
import EventFramework.Apps.NetSlots
import EventFramework.Apps.MqttIngress
import EventFramework.Actors.CommandViews
import EventFramework.Actors.NetworkLink
import EventFramework.Actors.NetworkTelemetry
import EventFramework.Actors.OledDirty
import EventFramework.Actors.OledScene
import EventFramework.Actors.OledWindow
import EventFramework.Adapters.RuntimeApp
import EventFramework.Apps.SleepRefusal
import EventFramework.Adapters.OnewireTransfers
import EventFramework.Actors.Ds18b20Wire
import EventFramework.Adapters.OnewireDiagnostics
import EventFramework.Library.Pendulum
import EventFramework.Apps.DemoPresentation
import EventFramework.Apps.DemoPolicy
import EventFramework.Apps.ScreenSaver
