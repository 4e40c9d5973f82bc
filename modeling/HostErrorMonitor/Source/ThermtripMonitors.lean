import HostErrorMonitor.Source.GpioMonitor
import HostErrorMonitor.Source.Indicators

/-!
The three edge-driven monitors: thermal trips of a CPU, of its memory and of the
PCH (cpu_thermtrip_monitor.hpp, mem_thermtrip_monitor.hpp,
pch_thermtrip_monitor.hpp). The first two publish `Asserted`, the last lights an
LED through its associations.
-/
namespace HostErrorMonitor.Source
open Reactive

def thermalTripInterface : String := "xyz.openbmc_project.HostErrorMonitor.Processor.ThermalTrip"

namespace CPUThermtripMonitor

def assertValue : AssertValue := .lowAssert

def cpuThermTripLog (cpuNum : Nat) : LogEntry where
  priority := .logInfo
  msg := "CPU " ++ cpuNum.repr ++ " thermal trip"
  redfishId := "OpenBMC.0.1.CPUThermalTrip"
  redfishMsg := cpuNum.repr

def logEvent (cpuNum : Nat) (assertInterface : AssertInterface) :
    AssertInterface × List LogEntry :=
  ({ assertInterface with asserted := true }, [cpuThermTripLog cpuNum])

def deassertHandler (assertInterface : AssertInterface) : AssertInterface × List LogEntry :=
  ({ assertInterface with asserted := false }, [])

def handlers (cpuNum : Nat) : GPIOHandlers AssertInterface :=
  BaseGPIOMonitor.inherited (logEvent cpuNum) deassertHandler

/-- The monitor as it is when its constructor calls `startMonitoring`, but for
the edges that came since the line was requested. -/
def initial (l : ValidLine) (signalName customName : String) :
    BaseGPIOMonitor AssertInterface × List GPIOEvent :=
  l.initial assertValue (addAssertInterface signalName customName thermalTripInterface)

end CPUThermtripMonitor

namespace MemThermtripMonitor

def assertValue : AssertValue := .lowAssert

def logEvent (cpuNum : Nat) (assertInterface : AssertInterface) :
    AssertInterface × List LogEntry :=
  let cpuNumber := "CPU " ++ cpuNum.repr
  let msg := cpuNumber ++ " Memory Thermal trip."
  ({ assertInterface with asserted := true },
    [{ priority := .logErr
       msg := msg
       redfishId := "OpenBMC.0.1.MemoryThermTrip"
       redfishMsg := cpuNumber }])

def deassertHandler (assertInterface : AssertInterface) : AssertInterface × List LogEntry :=
  ({ assertInterface with asserted := false }, [])

def handlers (cpuNum : Nat) : GPIOHandlers AssertInterface :=
  BaseGPIOMonitor.inherited (logEvent cpuNum) deassertHandler

def initial (l : ValidLine) (signalName customName : String) :
    BaseGPIOMonitor AssertInterface × List GPIOEvent :=
  l.initial assertValue (addAssertInterface signalName customName thermalTripInterface)

end MemThermtripMonitor

namespace PCHThermtripMonitor

def assertValue : AssertValue := .lowAssert

def objectPath : String := "/xyz/openbmc_project/host_error_monitor/ssb_thermal_trip"

def logEvent (associations : List Association) : List Association × List LogEntry :=
  (associations,
    [{ priority := .logInfo
       msg := "SSB thermal trip"
       redfishId := "OpenBMC.0.1.SsbThermalTrip"
       redfishMsg := "" }])

def setLED (_ : List Association) : List Association := criticalAssociations objectPath

def unsetLED (_ : List Association) : List Association := noAssociations

/-- The inherited `assertHandler`, then `setLED`. -/
def assertHandler (associations : List Association) : List Association × List LogEntry :=
  let (associations, entries) := logEvent associations
  (setLED associations, entries)

/-- The inherited `deassertHandler` does nothing. -/
def deassertHandler (associations : List Association) : List Association × List LogEntry :=
  (unsetLED associations, [])

def handlers : GPIOHandlers (List Association) where
  assertHandler := assertHandler
  deassertHandler := deassertHandler

def initial (l : ValidLine) : BaseGPIOMonitor (List Association) × List GPIOEvent :=
  l.initial assertValue noAssociations

end PCHThermtripMonitor

end HostErrorMonitor.Source
