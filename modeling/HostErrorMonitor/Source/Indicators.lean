import Mathlib.Data.List.Basic

/-!
What the monitors publish on D-Bus: the `Asserted` property of an object under
processor/ and the associations that light an LED. The members `setLED` and
`unsetLED` are the same in every monitor that has them, but for its object path.
-/
namespace HostErrorMonitor.Source

/-- `Association` (host_error_monitor.hpp:31). -/
abbrev Association := String × String × String

def callbackMgrPath : String := "/xyz/openbmc_project/CallbackManager"

/-- The associations that `setLED` sets. -/
def criticalAssociations (objectPath : String) : List Association :=
  [("", "critical", objectPath), ("", "critical", callbackMgrPath)]

/-- The associations that `unsetLED` and the constructors set. -/
def noAssociations : List Association := [("", "", "")]

/-- An object with the property `Asserted`. -/
structure AssertInterface where
  path : String
  interface : String
  asserted : Bool
  deriving DecidableEq, Repr

/-- The constructors register `Asserted` as false, under a custom name if there is one. -/
def addAssertInterface (signalName customName interface : String) : AssertInterface where
  path := "/xyz/openbmc_project/host_error_monitor/processor/" ++
    if customName.isEmpty then signalName else customName
  interface := interface
  asserted := false

/-- An LED is lit by its critical pair and by nothing else. -/
theorem criticalAssociations_ne (objectPath : String) :
    criticalAssociations objectPath ≠ noAssociations := by
  intro same
  have lengths := congrArg List.length same
  cases lengths

end HostErrorMonitor.Source
