import HostErrorMonitor.Reactive.Trace
import HostErrorMonitor.Reactive.Machine
import HostErrorMonitor.Reactive.SharedCounter
import HostErrorMonitor.Reactive.OrderedCounter
import HostErrorMonitor.Reactive.Composition
import HostErrorMonitor.Reactive.Replica
import HostErrorMonitor.Container.FlatMap
import HostErrorMonitor.Source.BaseMonitor
import HostErrorMonitor.Source.Peci
import HostErrorMonitor.Source.IerrMonitor
import HostErrorMonitor.Source.Crashdump
import HostErrorMonitor.Source.ErrorCount
import HostErrorMonitor.Source.HostState
import HostErrorMonitor.Source.GpioPollMonitor
import HostErrorMonitor.Source.Indicators
import HostErrorMonitor.Source.GpioMonitor
import HostErrorMonitor.Source.ThermtripMonitors
import HostErrorMonitor.Source.PollOverrides
import HostErrorMonitor.Source.ErrPins
import HostErrorMonitor.Source.ErrPinMonitor
import HostErrorMonitor.Source.ErrPinTimeoutMonitor
import HostErrorMonitor.Source.IerrOverrides
import HostErrorMonitor.Source.Err2Monitor
import HostErrorMonitor.Source.SmiMonitor
import HostErrorMonitor.Source.PresenceMonitors
import HostErrorMonitor.Source.LogMonitors
import HostErrorMonitor.Spec.IerrDiagnosis
import HostErrorMonitor.Spec.CrashdumpService
import HostErrorMonitor.Spec.SettingsService
import HostErrorMonitor.Spec.HostedMonitor
import HostErrorMonitor.Spec.ErrorResponse
import HostErrorMonitor.Spec.ErrorCounting
import HostErrorMonitor.Spec.MonitorProcess
import HostErrorMonitor.Spec.MonitorClasses
import HostErrorMonitor.Spec.HostService
import HostErrorMonitor.Guarantees.IerrLogging
import HostErrorMonitor.Guarantees.IerrAttribution
import HostErrorMonitor.Guarantees.ErrPinAttribution
import HostErrorMonitor.Guarantees.ErrorCount
import HostErrorMonitor.Guarantees.ErrorCountSafety
import HostErrorMonitor.Guarantees.CrashdumpRecovery
import HostErrorMonitor.Guarantees.RecoveryRequests
import HostErrorMonitor.Guarantees.RecoveryDowngrade
import HostErrorMonitor.Guarantees.PrematureRecovery
import HostErrorMonitor.Guarantees.HostStateSignal
import HostErrorMonitor.Guarantees.HostOn
import HostErrorMonitor.Guarantees.PollingChain
import HostErrorMonitor.Guarantees.PollingAssertion
import HostErrorMonitor.Guarantees.PollingTimeout
import HostErrorMonitor.Guarantees.PollingReport
import HostErrorMonitor.Guarantees.DetectionTime
import HostErrorMonitor.Guarantees.EdgeHandlers
import HostErrorMonitor.Guarantees.EdgeReports
import HostErrorMonitor.Guarantees.DerivedPolling
import HostErrorMonitor.Guarantees.TimeoutBlame
import HostErrorMonitor.Guarantees.TimeoutWrites
import HostErrorMonitor.Guarantees.TimeoutArithmetic
import HostErrorMonitor.Guarantees.IerrIndicators
import HostErrorMonitor.Guarantees.OverrideRefinement
import HostErrorMonitor.Guarantees.Err2Timeouts
import HostErrorMonitor.Guarantees.HostReset
import HostErrorMonitor.Guarantees.ReportCounts
import HostErrorMonitor.Guarantees.EdgeLogging
import HostErrorMonitor.Guarantees.ProcessStart
import HostErrorMonitor.Guarantees.ProcessAssertion
import HostErrorMonitor.Guarantees.PollingClasses
import HostErrorMonitor.Guarantees.ProcessLogging
import HostErrorMonitor.Guarantees.DetectionLatency
import HostErrorMonitor.Guarantees.HostTracking
