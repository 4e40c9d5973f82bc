import HostErrorMonitor.Source.BaseMonitor
import HostErrorMonitor.Source.Peci

/-!
`IERRMonitor::logEvent` and `checkIERRCPUs` of the LIBPECI build
(ierr_monitor.hpp:47-302). Both model branches are kept as the source writes
them, each with its own reads and early exits: a `continue` returns the scan as
it stands. Messages to stderr are not modeled.
-/
namespace HostErrorMonitor.Source

/-- What the scan does to the outside: a count increment or a log entry. -/
inductive IerrEffect where
  | incrementCPUErrorCount (cpuNum : Nat)
  | logMessage (entry : LogEntry)
  deriving DecidableEq, Repr

def ierrEntry (msg : String) : LogEntry :=
  { priority := .logInfo, msg := msg, redfishId := "OpenBMC.0.1.CPUError", redfishMsg := msg }

/-- `cpuIERRLog()`, the entry that names no CPU. -/
def cpuIERRLog : LogEntry := ierrEntry "IERR"

/-- `cpuIERRLog(cpuNum)`. -/
def cpuIERRLogCpu (cpuNum : Nat) : LogEntry :=
  ierrEntry ("IERR on CPU " ++ cpuNum.repr)

/-- `cpuIERRLog(cpuNum, type)`. -/
def cpuIERRLogType (cpuNum : Nat) (type : String) : LogEntry :=
  ierrEntry (type ++ " IERR on CPU " ++ cpuNum.repr)

/-- The variables of the loop that outlive one CPU: the flag and the effects so far. -/
structure IerrScan where
  cpuIERRFound : Bool
  effects : List IerrEffect
  deriving DecidableEq, Repr

def IerrScan.empty : IerrScan := { cpuIERRFound := false, effects := [] }

def IerrScan.found (scan : IerrScan) (cpu : Nat) : IerrScan :=
  { cpuIERRFound := true, effects := scan.effects ++ [.incrementCPUErrorCount cpu] }

def IerrScan.log (scan : IerrScan) (entry : LogEntry) : IerrScan :=
  { scan with effects := scan.effects ++ [.logMessage entry] }

/-- MSMI_INTERNAL (20) or IERR_INTERNAL (27). -/
def ierrInternal (mcaErrSrcLog : BitVec 32) : Bool :=
  (mcaErrSrcLog &&& (1#32 <<< 20)) != 0#32 || (mcaErrSrcLog &&& (1#32 <<< 27)) != 0#32

/-- MSEC, bits 31:24 of IA32_MC4_STATUS. -/
def msecOf (mc4Status : BitVec 64) : BitVec 64 := (mc4Status >>> 24) &&& 0xFF

def msecVrMismatch (msec : BitVec 64) : Bool := msec == 0x40 || msec == 0x42 || msec == 0x43

def msecFivrCatas (msec : BitVec 64) : Bool := msec == 0x51 || msec == 0x52

def skylakeCase (lib : Libpeci) (peci : Peci) (cpu addr : Nat) (scan : IerrScan) : IerrScan :=
  let mcaErrSrcLog := peci.rdPkgConfig addr 0 5 4
  if peciError lib mcaErrSrcLog then scan
  else if ierrInternal mcaErrSrcLog.value then
    let scan := scan.found cpu
    let mc4Status := peci.rdIAMSR addr 0 0x411
    if peciError lib mc4Status then scan
    else
      let msec := msecOf mc4Status.value
      if msecVrMismatch msec then scan.log (cpuIERRLogType cpu "CPU/VR Mismatch")
      else
        let coreFIVRErrLog := peci.rdPCIConfigLocal addr 1 30 2 0x80 4
        if peciError lib coreFIVRErrLog then scan
        else if coreFIVRErrLog.value != 0#32 then scan.log (cpuIERRLogType cpu "Core FIVR Fault")
        else
          let uncoreFIVRErrLog := peci.rdPCIConfigLocal addr 1 30 2 0x84 4
          if peciError lib uncoreFIVRErrLog then scan
          else if uncoreFIVRErrLog.value != 0#32 then
            scan.log (cpuIERRLogType cpu "Uncore FIVR Fault")
          else if coreFIVRErrLog.value == 0#32 && uncoreFIVRErrLog.value == 0#32 &&
              msecFivrCatas msec then
            scan.log (cpuIERRLogType cpu "Uncore FIVR Fault")
          else scan.log (cpuIERRLogCpu cpu)
  else scan

def iceLakeCase (lib : Libpeci) (peci : Peci) (cpu addr : Nat) (scan : IerrScan) : IerrScan :=
  let mcaErrSrcLog := peci.rdPkgConfig addr 0 5 4
  if peciError lib mcaErrSrcLog then scan
  else if ierrInternal mcaErrSrcLog.value then
    let scan := scan.found cpu
    let mc4Status := peci.rdIAMSR addr 0 0x411
    if peciError lib mc4Status then scan
    else
      let msec := msecOf mc4Status.value
      if msecVrMismatch msec then scan.log (cpuIERRLogType cpu "CPU/VR Mismatch")
      else
        let coreFIVRErrLog0 := peci.rdEndPointConfigPciLocal addr 0 14 30 2 0xC0 4
        if peciError lib coreFIVRErrLog0 then scan
        else
          let coreFIVRErrLog1 := peci.rdEndPointConfigPciLocal addr 0 14 30 2 0xC4 4
          if peciError lib coreFIVRErrLog1 then scan
          else if coreFIVRErrLog0.value != 0#32 || coreFIVRErrLog1.value != 0#32 then
            scan.log (cpuIERRLogType cpu "Core FIVR Fault")
          else
            let uncoreFIVRErrLog := peci.rdEndPointConfigPciLocal addr 0 14 30 2 0x84 4
            if peciError lib uncoreFIVRErrLog then scan
            else if uncoreFIVRErrLog.value != 0#32 then
              scan.log (cpuIERRLogType cpu "Uncore FIVR Fault")
            else if coreFIVRErrLog0.value == 0#32 && coreFIVRErrLog1.value == 0#32 &&
                uncoreFIVRErrLog.value == 0#32 && msecFivrCatas msec then
              scan.log (cpuIERRLogType cpu "Uncore FIVR Fault")
            else scan.log (cpuIERRLogCpu cpu)
  else scan

/-- One pass of the loop body. -/
def checkIERRCPU (lib : Libpeci) (peci : Peci) (scan : IerrScan) (cpuAddr : Nat × Nat) :
    IerrScan :=
  let cpu := cpuAddr.1
  let addr := cpuAddr.2
  let cpuid := peci.getCPUID addr
  if cpuid.1 != .ccSuccess then scan
  else
    match cpuid.2 with
    | .skylake => skylakeCase lib peci cpu addr scan
    | .iceLake => iceLakeCase lib peci cpu addr scan
    | .other _ => scan

def checkIERRCPUs (lib : Libpeci) (peci : Peci) : IerrScan :=
  (clientAddrs lib).foldl (checkIERRCPU lib peci) .empty

/-- `logEvent`: the effects of the scan, and the entry without a CPU when it found none. -/
def ierrLogEvent (lib : Libpeci) (peci : Peci) : List IerrEffect :=
  let scan := checkIERRCPUs lib peci
  if !scan.cpuIERRFound then scan.effects ++ [.logMessage cpuIERRLog] else scan.effects

end HostErrorMonitor.Source
