import HostErrorMonitor.Source.ErrPinMonitor
import HostErrorMonitor.Source.PresenceMonitors

/-!
The edge-driven monitors that log and publish nothing (memhot_monitor.hpp,
prochot_monitor.hpp, vr_hot_monitor.hpp, cpu_early_error_monitor.hpp,
mcerr_monitor.hpp, cpld_crc_monitor.hpp, err_pin_monitor.hpp). The first five
differ in their entry and their assert value, which that of MCERR is constructed
with. The monitor of CPLD CRC errors ignores assertions while its CPU is not
present; that of an ERR pin looks for the CPUs that show the pin.
-/
namespace HostErrorMonitor.Source
open Reactive

/-- A monitor that overrides `logEvent` only, to write one entry. -/
def logOnly (logEvent : LogEntry) : GPIOHandlers Unit :=
  BaseGPIOMonitor.inherited (fun p => (p, [logEvent])) fun p => (p, [])

namespace MemhotMonitor

def assertValue : AssertValue := .lowAssert

def logEvent (cpuNum : Nat) : LogEntry :=
  let cpuNumber := "CPU " ++ cpuNum.repr
  { priority := .logErr
    msg := cpuNumber ++ " Memhot."
    redfishId := "OpenBMC.0.1.ComponentOverTemperature"
    redfishMsg := cpuNumber ++ " memory" }

def handlers (cpuNum : Nat) : GPIOHandlers Unit := logOnly (logEvent cpuNum)

end MemhotMonitor

namespace ProchotMonitor

def assertValue : AssertValue := .lowAssert

def logEvent (cpuNum : Nat) : LogEntry :=
  let cpuNumber := "CPU " ++ cpuNum.repr
  { priority := .logErr
    msg := cpuNumber ++ " Prochot."
    redfishId := "OpenBMC.0.1.ComponentOverTemperature"
    redfishMsg := cpuNumber }

def handlers (cpuNum : Nat) : GPIOHandlers Unit := logOnly (logEvent cpuNum)

end ProchotMonitor

namespace VRHotMonitor

def assertValue : AssertValue := .lowAssert

def logEvent (vrName : String) : LogEntry where
  priority := .logInfo
  msg := vrName ++ " Voltage Regulator Overheated."
  redfishId := "OpenBMC.0.1.VoltageRegulatorOverheated"
  redfishMsg := vrName

def handlers (vrName : String) : GPIOHandlers Unit := logOnly (logEvent vrName)

end VRHotMonitor

namespace CPUEarlyErrorMonitor

def assertValue : AssertValue := .lowAssert

def logEvent (cpuNum : Nat) : LogEntry :=
  let cpuNumber := "CPU " ++ cpuNum.repr
  let msg := cpuNumber ++ " early error."
  { priority := .logErr, msg := msg, redfishId := "OpenBMC.0.1.CPUError", redfishMsg := msg }

def handlers (cpuNum : Nat) : GPIOHandlers Unit := logOnly (logEvent cpuNum)

end CPUEarlyErrorMonitor

namespace MCERRMonitor

def logEvent (cpuNum : Nat) : LogEntry :=
  let msg := "MCERR on CPU " ++ cpuNum.repr
  { priority := .logInfo, msg := msg, redfishId := "OpenBMC.0.1.CPUError", redfishMsg := msg }

def handlers (cpuNum : Nat) : GPIOHandlers Unit := logOnly (logEvent cpuNum)

end MCERRMonitor

namespace CPLDCRCMonitor

def assertValue : AssertValue := .highAssert

def logEvent (cpuNum : Nat) : LogEntry :=
  let cpuNumber := "CPU " ++ cpuNum.repr
  let msg := cpuNumber ++ " CPLD CRC error."
  { priority := .logInfo, msg := msg, redfishId := "OpenBMC.0.1.CPUError", redfishMsg := msg }

/-- `getCPUPresence` is that of the presence monitor. -/
def getCPUPresence (l : InputLine) : Option Bool := CPUPresenceMonitor.getCPUPresence l

/-- The member `cpuPresent`; `getCPUPresence` writes it, or leaves the monitor invalid. -/
def assertHandler (cpuNum : Nat) (cpuPresent : Option Bool) : Option Bool × List LogEntry :=
  if cpuPresent = some true then (cpuPresent, [logEvent cpuNum]) else (cpuPresent, [])

def handlers (cpuNum : Nat) : GPIOHandlers (Option Bool) where
  assertHandler := assertHandler cpuNum
  deassertHandler cpuPresent := (cpuPresent, [])

/-- The constructor, on a line at the given level. -/
def construct (setup : LineSetup) (high : Bool) (cpuPresenceLine : InputLine) :
    BaseGPIOMonitor (Option Bool) :=
  let s := BaseGPIOMonitor.construct setup assertValue high none
  match getCPUPresence cpuPresenceLine with
  | none => { s with valid := false }
  | some present => { s with published := some present }

/-- The monitor as its constructor calls `startMonitoring`. -/
def initial (l : ValidLine) (cpuPresenceLine : InputLine) :
    BaseGPIOMonitor (Option Bool) × List GPIOEvent :=
  (construct l.setup l.high cpuPresenceLine, [])

end CPLDCRCMonitor

/-- The member `errPinCPUs`, and the number of samples taken. -/
structure ErrPinMonitor (n : Nat) where
  errPinCPUs : BitVec n
  samples : Nat
  deriving DecidableEq, Repr

namespace ErrPinMonitor

def assertValue : AssertValue := .lowAssert

/-- `pecis` are the PECI behaviours that the samples meet, one after the other. -/
def handlers (n : Nat) (lib : Libpeci) (pecis : Nat → Peci) (errPin : Nat) :
    GPIOHandlers (ErrPinMonitor n) where
  assertHandler m :=
    let (errPinCPUs, entries) := logEvent lib (pecis m.samples) errPin m.errPinCPUs
    (⟨errPinCPUs, m.samples + 1⟩, entries)
  deassertHandler m := (m, [])

def initial (n : Nat) (l : ValidLine) : BaseGPIOMonitor (ErrPinMonitor n) × List GPIOEvent :=
  l.initial assertValue ⟨0#n, 0⟩

end ErrPinMonitor
end HostErrorMonitor.Source
