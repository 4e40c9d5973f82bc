import HostErrorMonitor.Reactive.Machine
import HostErrorMonitor.Source.GpioMonitor

/-!
The two monitors that wait for no event (cpu_presence_monitor.hpp,
cpu_mismatch_monitor.hpp). Both check their CPU when they are constructed and on
every `hostOn`; the first by the presence that it read when it was constructed,
the second by the level of its line then.
-/
namespace HostErrorMonitor.Source
open Reactive

/-- A line that is requested as an input: what the library answers, and its level. -/
structure InputLine where
  found : Bool
  requested : Bool
  high : Bool
  deriving DecidableEq, Repr

/-- What a monitor of either kind does: a read of its line, a beep, a log entry. -/
inductive CheckEvent where
  | getValue (value : Bool)
  | beep (beepPriority : Nat)
  | logMessage (entry : LogEntry)
  deriving DecidableEq, Repr

/-- The level of a line may change at any time. -/
inductive CheckInput where
  | edge
  | hostOn
  deriving DecidableEq, Repr

/-- `cpuPresent` is written by `getCPUPresence` only. -/
structure CPUPresenceMonitor where
  valid : Bool
  cpuPresent : Option Bool
  high : Bool
  deriving DecidableEq, Repr

namespace CPUPresenceMonitor

def beepCPUMIssing : Nat := 3

def logEvent (cpuNum : Nat) : LogEntry :=
  let msg := "CPU " ++ cpuNum.repr ++ " missing"
  { priority := .logInfo, msg := msg, redfishId := "OpenBMC.0.1.CPUError", redfishMsg := msg }

def cpuPresenceAssertHandler (cpuNum : Nat) : List CheckEvent :=
  [.beep beepCPUMIssing, .logMessage (logEvent cpuNum)]

/-- The line is requested with FLAG_ACTIVE_LOW, and read once. -/
def getCPUPresence (l : InputLine) : Option Bool :=
  if !l.found then none
  else if !l.requested then none
  else some (GpioLine.getValue ⟨l.high, true⟩)

def checkCPUPresence (cpuNum : Nat) (s : CPUPresenceMonitor) : List CheckEvent :=
  match s.cpuPresent with
  | some false => cpuPresenceAssertHandler cpuNum
  | _ => []

/-- The constructor. -/
def construct (cpuNum : Nat) (l : InputLine) : CPUPresenceMonitor × List CheckEvent :=
  match getCPUPresence l with
  | none => (⟨false, none, l.high⟩, [])
  | some present =>
    let s : CPUPresenceMonitor := ⟨false, some present, l.high⟩
    ({ s with valid := true }, .getValue present :: checkCPUPresence cpuNum s)

def machine (cpuNum : Nat) : Machine CPUPresenceMonitor CheckInput CheckEvent where
  step s
    | .edge => some ({ s with high := !s.high }, [])
    | .hostOn => some (s, checkCPUPresence cpuNum s)

end CPUPresenceMonitor

structure CPUMismatchMonitor where
  valid : Bool
  high : Bool
  deriving DecidableEq, Repr

namespace CPUMismatchMonitor

def cpuMismatchLog (cpuNum : Nat) : LogEntry :=
  let cpuS := cpuNum.repr
  { priority := .logErr
    msg := "CPU " ++ cpuS ++ " mismatch"
    redfishId := "OpenBMC.0.1.CPUMismatch"
    redfishMsg := cpuS }

/-- The line is requested as it is, ACTIVE_HIGH. -/
def requestCPUMismatchInput (l : InputLine) : Bool :=
  if !l.found then false
  else if !l.requested then false
  else true

def cpuMismatchAsserted (s : CPUMismatchMonitor) : Bool := GpioLine.getValue ⟨s.high, false⟩

def checkCPUMismatch (cpuNum : Nat) (s : CPUMismatchMonitor) : List CheckEvent :=
  if cpuMismatchAsserted s then
    [.getValue true, .logMessage (cpuMismatchLog cpuNum)]
  else [.getValue false]

/-- The constructor. -/
def construct (cpuNum : Nat) (l : InputLine) : CPUMismatchMonitor × List CheckEvent :=
  if requestCPUMismatchInput l then (⟨true, l.high⟩, checkCPUMismatch cpuNum ⟨false, l.high⟩)
  else (⟨false, l.high⟩, [])

/-- On a line that was not requested a read throws. -/
def machine (cpuNum : Nat) : Machine CPUMismatchMonitor CheckInput CheckEvent where
  step s
    | .edge => some ({ s with high := !s.high }, [])
    | .hostOn => if s.valid then some (s, checkCPUMismatch cpuNum s) else none

end CPUMismatchMonitor
end HostErrorMonitor.Source
