import HostErrorMonitor.Source.ErrPins

/-!
The monitor of an ERR pin (err_pin_monitor.hpp). Each `logEvent` samples the CPUs
that show the pin into the member `errPinCPUs`, and logs those.
-/
namespace HostErrorMonitor.Source
namespace ErrPinMonitor

/-- `errPinLog()`, the entry that names no CPU. -/
def errPinLog (errPin : Nat) : LogEntry := errPinEntry ("ERR" ++ errPin.repr)

/-- `errPinLog(cpuNum)`. -/
def errPinLogCpu (errPin cpuNum : Nat) : LogEntry :=
  errPinEntry ("ERR" ++ errPin.repr ++ " on CPU " ++ cpuNum.repr)

/-- `logEvent`, with the bitset that it leaves and the entries that it writes. -/
def logEvent {n : Nat} (lib : Libpeci) (peci : Peci) (errPin : Nat) (errPinCPUs : BitVec n) :
    BitVec n × List LogEntry :=
  let errPinCPUs := checkErrPinCPUs lib peci errPin errPinCPUs
  (errPinCPUs, logCPUs errPinCPUs (errPinLog errPin) (errPinLogCpu errPin))

end ErrPinMonitor
end HostErrorMonitor.Source
