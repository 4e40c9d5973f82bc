import HostErrorMonitor.Source.ErrPinTimeoutMonitor
import HostErrorMonitor.Source.Indicators

/-!
The monitor of ERR2 (err2_monitor.hpp), which derives from the monitor of an ERR
pin that reports a timeout: its handlers call the inherited ones, and then light
or clear an LED, beep, and ask for the setting ResetOnERR2. The handler of that
reply is with the crashdump.
-/
namespace HostErrorMonitor.Source

/-- The members of the class, the inherited one included. -/
structure Err2Monitor (n : Nat) where
  errPinCPUs : BitVec n
  associationERR2 : List Association
  deriving DecidableEq, Repr

/-- The effects of the inherited functions, and those of its own. -/
inductive Err2Effect (n : Nat) where
  | errPin (effect : ErrPinTimeoutMonitor.ErrPinEffect n)
  | beep (beepPriority : Nat)
  | getErrConfig (property : String)
  deriving DecidableEq, Repr

/-- An event with the effects of an override among the effects of another. -/
def DerivedEvent.map {ε ε' : Type} (f : ε → ε') : DerivedEvent ε → DerivedEvent ε'
  | .startPolling asserted => .startPolling asserted
  | .base event => .base event
  | .own effect => .own (f effect)

namespace Err2Monitor
variable {n : Nat}

def beepCPUErr2 : Nat := 5

def errPin : Nat := 2

def objectPath : String := "/xyz/openbmc_project/host_error_monitor/err2"

def setLED (m : Err2Monitor n) : Err2Monitor n :=
  { m with associationERR2 := criticalAssociations objectPath }

def unsetLED (m : Err2Monitor n) : Err2Monitor n := { m with associationERR2 := noAssociations }

/-- `startPolling` is that of the inherited class. -/
def startPolling (lib : Libpeci) (peci : Peci) (m : Err2Monitor n) :
    Err2Monitor n × List (Err2Effect n) :=
  let (errPinCPUs, effects) :=
    (ErrPinTimeoutMonitor.overrides n lib errPin).startPolling peci m.errPinCPUs
  ({ m with errPinCPUs := errPinCPUs }, effects.map .errPin)

def assertHandler (lib : Libpeci) (peci : Peci) (m : Err2Monitor n) :
    Err2Monitor n × List (Err2Effect n) :=
  let (errPinCPUs, effects) :=
    (ErrPinTimeoutMonitor.overrides n lib errPin).assertHandler peci m.errPinCPUs
  (setLED { m with errPinCPUs := errPinCPUs },
    effects.map .errPin ++ [.beep beepCPUErr2, .getErrConfig "ResetOnERR2"])

def deassertHandler (lib : Libpeci) (m : Err2Monitor n) : Err2Monitor n × List (Err2Effect n) :=
  let (errPinCPUs, effects) :=
    (ErrPinTimeoutMonitor.overrides n lib errPin).deassertHandler m.errPinCPUs
  (unsetLED { m with errPinCPUs := errPinCPUs }, effects.map .errPin)

def overrides (n : Nat) (lib : Libpeci) : PollOverrides (Err2Monitor n) (Err2Effect n) where
  startPolling := startPolling lib
  assertHandler := assertHandler lib
  deassertHandler := deassertHandler lib

/-- The inherited constructor starts to poll, while the object is not yet an
`Err2Monitor`: its virtual calls go to the inherited functions. The LED is
registered after that. -/
def initial (n : Nat) (lib : Libpeci) (cfg : PollConfig) (l : ValidPollLine) :
    DerivedMonitor (Err2Monitor n) × List (DerivedEvent (Err2Effect n)) :=
  let (m, events) := ErrPinTimeoutMonitor.initial n lib errPin cfg l
  (⟨m.base, ⟨m.own, noAssociations⟩⟩, events.map (DerivedEvent.map .errPin))

end Err2Monitor
end HostErrorMonitor.Source
