import HostErrorMonitor.Source.IerrMonitor
import HostErrorMonitor.Source.Indicators
import HostErrorMonitor.Source.PollOverrides

/-!
The overrides of `IERRMonitor` and its property IERRTimeoutMs
(ierr_monitor.hpp:27-46 and 353-475). The handler of the ResetOnIERR reply is
with the crashdump. A write of the property is an input of its own; nothing else
calls `setTimeoutMs`.
-/
namespace HostErrorMonitor.Source
open Reactive

/-- The members of the class: what it publishes. `ierrTimeoutMs` is the value that
the object server keeps for the property. -/
structure IERRMonitor where
  assertIERR : AssertInterface
  associationIERR : List Association
  ierrTimeoutMs : Nat
  deriving DecidableEq, Repr

/-- What the overrides and the property do besides: the effects of a `logEvent`,
a beep, the Get call for a setting, and a write with its outcome. -/
inductive IERREffect where
  | logEvent (effects : List IerrEffect)
  | beep (beepPriority : Nat)
  | getErrConfig (property : String)
  | ierrTimeoutMs (requested : Nat) (accepted : Bool)
  deriving DecidableEq, Repr

namespace IERRMonitor

def ierrPollingTimeMs : Nat := 100
def ierrTimeoutMsDefault : Nat := 2000
def ierrTimeoutMsMax : Nat := 600000
def beepCPUIERR : Nat := 4

def objectPath : String := "/xyz/openbmc_project/host_error_monitor/ierr"

def setLED (m : IERRMonitor) : IERRMonitor :=
  { m with associationIERR := criticalAssociations objectPath }

def unsetLED (m : IERRMonitor) : IERRMonitor := { m with associationIERR := noAssociations }

def setAsserted (asserted : Bool) (m : IERRMonitor) : IERRMonitor :=
  { m with assertIERR := { m.assertIERR with asserted := asserted } }

/-- The inherited `assertHandler` calls `logEvent` first. -/
def assertHandler (lib : Libpeci) (peci : Peci) (m : IERRMonitor) :
    IERRMonitor × List IERREffect :=
  (setAsserted true (setLED m),
    [.logEvent (ierrLogEvent lib peci), .beep beepCPUIERR, .getErrConfig "ResetOnIERR"])

def deassertHandler (m : IERRMonitor) : IERRMonitor × List IERREffect :=
  (setAsserted false (unsetLED m), [])

def overrides (lib : Libpeci) : PollOverrides IERRMonitor IERREffect where
  startPolling _ m := (m, [])
  assertHandler peci m := assertHandler lib peci m
  deassertHandler m := deassertHandler m

/-- The setter of the property; it returns 1 when it takes the request. -/
def setIERRTimeoutMs (requested : Nat) (m : DerivedMonitor IERRMonitor) :
    DerivedMonitor IERRMonitor × Nat :=
  if requested > ierrTimeoutMsMax then (m, 0)
  else
    ({ base := BaseGPIOPollMonitor.setTimeoutMs requested m.base
       own := { m.own with ierrTimeoutMs := requested } }, 1)

/-- The getter of the property. -/
def getIERRTimeoutMs (m : DerivedMonitor IERRMonitor) : Nat :=
  BaseGPIOPollMonitor.getTimeoutMs m.base

/-- The polling period, with the width of `int`. -/
def config (intBits : Nat) (intBits_ge : 32 ≤ intBits) : PollConfig :=
  ⟨ierrPollingTimeMs, intBits, intBits_ge⟩

/-- The constructor registers the interfaces before it starts to poll. -/
def initial (lib : Libpeci) (cfg : PollConfig) (l : ValidPollLine) (signalName customName : String) :
    DerivedMonitor IERRMonitor × List (DerivedEvent IERREffect) :=
  l.initial (overrides lib) cfg ierrTimeoutMsDefault
    { assertIERR := addAssertInterface signalName customName
        "xyz.openbmc_project.HostErrorMonitor.Processor.IERR"
      associationIERR := noAssociations
      ierrTimeoutMs := ierrTimeoutMsDefault }

end IERRMonitor

open IERRMonitor

inductive IERRInput where
  | monitor (i : DerivedInput)
  | ierrTimeoutMs (requested : Nat)

/-- The input of the base that is the property's to give. -/
def fromProperty : DerivedInput → Bool
  | .inherited (.setTimeoutMs _) => true
  | _ => false

def ierrMachine (lib : Libpeci) (cfg : PollConfig) :
    Machine (DerivedMonitor IERRMonitor) IERRInput (DerivedEvent IERREffect) where
  step m
    | .monitor i =>
      if fromProperty i then none else (derivedMachine (overrides lib) cfg).step m i
    | .ierrTimeoutMs requested =>
      let (m, accepted) := setIERRTimeoutMs requested m
      some (m, [.own (.ierrTimeoutMs requested (accepted == 1))])

/-- What one step can do, guards included. -/
theorem ierr_step_cases {lib : Libpeci} {cfg : PollConfig} {m m' : DerivedMonitor IERRMonitor}
    {i : IERRInput} {out : List (DerivedEvent IERREffect)}
    (step : (ierrMachine lib cfg).step m i = some (m', out)) :
    (∃ j, i = .monitor j ∧ fromProperty j = false ∧
      (derivedMachine (overrides lib) cfg).step m j = some (m', out)) ∨
    (∃ requested, i = .ierrTimeoutMs requested ∧ requested ≤ ierrTimeoutMsMax ∧
      m' = ⟨{ m.base with timeoutMs := requested }, { m.own with ierrTimeoutMs := requested }⟩ ∧
      out = [.own (.ierrTimeoutMs requested true)]) ∨
    (∃ requested, i = .ierrTimeoutMs requested ∧ ierrTimeoutMsMax < requested ∧ m' = m ∧
      out = [.own (.ierrTimeoutMs requested false)]) := by
  cases i with
  | monitor j =>
    simp only [ierrMachine] at step
    split at step
    · cases step
    next own => exact Or.inl ⟨j, rfl, by simpa using own, step⟩
  | ierrTimeoutMs requested =>
    simp only [ierrMachine, setIERRTimeoutMs] at step
    split at step
    next above =>
      cases step
      exact Or.inr (Or.inr ⟨requested, rfl, above, rfl, rfl⟩)
    next within =>
      cases step
      exact Or.inr (Or.inl ⟨requested, rfl, by omega, rfl, rfl⟩)

end HostErrorMonitor.Source
