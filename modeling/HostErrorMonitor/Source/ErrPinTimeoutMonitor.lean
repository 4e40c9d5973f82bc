import HostErrorMonitor.Source.ErrPins
import HostErrorMonitor.Source.PollOverrides

/-!
The monitor of an ERR pin that reports a timeout (err_pin_timeout_monitor.hpp).
Its `startPolling` samples the CPUs that show the pin, before it calls the
inherited one; its `logEvent` names the CPUs of the latest sample.
-/
namespace HostErrorMonitor.Source

namespace ErrPinTimeoutMonitor

def errPinPollingTimeMs : Nat := 1000
def errPinTimeoutMs : Nat := 90000

/-- `errPinTimeoutLog()`, the entry that names no CPU. -/
def errPinTimeoutLog (errPin : Nat) : LogEntry := errPinEntry ("ERR" ++ errPin.repr ++ " Timeout")

/-- `errPinTimeoutLog(cpuNum)`. -/
def errPinTimeoutLogCpu (errPin cpuNum : Nat) : LogEntry :=
  errPinEntry ("ERR" ++ errPin.repr ++ " Timeout on CPU " ++ cpuNum.repr)

def logEvent {n : Nat} (errPin : Nat) (errPinCPUs : BitVec n) : List LogEntry :=
  logCPUs errPinCPUs (errPinTimeoutLog errPin) (errPinTimeoutLogCpu errPin)

/-- What the overrides do: a sample with the CPUs that it flagged, and the
entries of a `logEvent`. -/
inductive ErrPinEffect (n : Nat) where
  | checkErrPinCPUs (errPinCPUs : BitVec n)
  | logEvent (entries : List LogEntry)
  deriving DecidableEq, Repr

/-- The inherited `assertHandler` calls `logEvent`; the inherited
`deassertHandler` does nothing. -/
def overrides (n : Nat) (lib : Libpeci) (errPin : Nat) :
    PollOverrides (BitVec n) (ErrPinEffect n) where
  startPolling peci errPinCPUs :=
    let errPinCPUs := checkErrPinCPUs lib peci errPin errPinCPUs
    (errPinCPUs, [.checkErrPinCPUs errPinCPUs])
  assertHandler _ errPinCPUs := (errPinCPUs, [.logEvent (logEvent errPin errPinCPUs)])
  deassertHandler errPinCPUs := (errPinCPUs, [])

/-- The polling period, with the width of `int`. -/
def config (intBits : Nat) (intBits_ge : 32 ≤ intBits) : PollConfig :=
  ⟨errPinPollingTimeMs, intBits, intBits_ge⟩

def initial (n : Nat) (lib : Libpeci) (errPin : Nat) (cfg : PollConfig) (l : ValidPollLine) :
    DerivedMonitor (BitVec n) × List (DerivedEvent (ErrPinEffect n)) :=
  l.initial (overrides n lib errPin) cfg errPinTimeoutMs 0#n

end ErrPinTimeoutMonitor
end HostErrorMonitor.Source
