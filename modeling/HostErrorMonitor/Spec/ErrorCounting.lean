import HostErrorMonitor.Source.IerrOverrides
import HostErrorMonitor.Spec.SettingsService

/-!
The monitor of IERR and the Settings service that keeps its error counts. A report
sends a Get call for each CPU that its scan counts, in the order of the scan; the
calls and the replies then go on by themselves, whatever happens to the signal.
-/
namespace HostErrorMonitor.Spec
open HostErrorMonitor.Source Reactive

structure ErrorCounting where
  ierr : DerivedMonitor IERRMonitor
  settings : SettingsSystem

inductive CountingInput where
  | ierr (i : IERRInput)
  | handle (ec : ErrorCode)
  | deliver (position : Nat)

def charge : IerrEffect → Option Nat
  | .incrementCPUErrorCount cpuNum => some cpuNum
  | .logMessage _ => none

/-- The CPUs that a report counts. -/
def charges : DerivedEvent IERREffect → List Nat
  | .own (.logEvent effects) => effects.filterMap charge
  | _ => []

/-- The Get calls of increments join the calls to the service. -/
def sendIncrements (s : SettingsSystem) (cpus : List Nat) : SettingsSystem :=
  { s with requests := s.requests ++ cpus.map incrementCPUErrorCount }

def errorCounting (lib : Libpeci) (cfg : PollConfig) :
    Machine ErrorCounting CountingInput (DerivedEvent IERREffect) where
  step s
    | .ierr i =>
      match (ierrMachine lib cfg).step s.ierr i with
      | none => none
      | some (ierr, events) =>
        some ({ ierr := ierr
                settings := sendIncrements s.settings (events.flatMap charges) }, events)
    | .handle ec =>
      match settingsSystem.step s.settings (.handle ec) with
      | none => none
      | some (settings, _) => some ({ s with settings := settings }, [])
    | .deliver position =>
      match settingsSystem.step s.settings (.deliver position) with
      | none => none
      | some (settings, _) => some ({ s with settings := settings }, [])

namespace ErrorCounting

/-- The poll of the constructor may report already. -/
def initial (lib : Libpeci) (cfg : PollConfig) (l : ValidPollLine) (signalName customName : String)
    (counts : String → BitVec 8) : ErrorCounting × List (DerivedEvent IERREffect) :=
  let (ierr, events) := IERRMonitor.initial lib cfg l signalName customName
  ({ ierr := ierr
     settings := sendIncrements (.initial counts) (events.flatMap charges) }, events)

end ErrorCounting

/-- What one step can do, guards included. -/
theorem counting_step_cases {lib : Libpeci} {cfg : PollConfig} {s s' : ErrorCounting}
    {i : CountingInput} {out : List (DerivedEvent IERREffect)}
    (step : (errorCounting lib cfg).step s i = some (s', out)) :
    (∃ j, i = .ierr j ∧ (ierrMachine lib cfg).step s.ierr j = some (s'.ierr, out) ∧
      s'.settings = sendIncrements s.settings (out.flatMap charges)) ∨
    (∃ j settings calls, ((∃ ec, i = .handle ec ∧ j = .handle ec) ∨
        ∃ position, i = .deliver position ∧ j = .deliver position) ∧
      settingsSystem.step s.settings j = some (settings, calls) ∧
      s' = { s with settings := settings } ∧ out = []) := by
  cases i with
  | ierr j =>
    simp only [errorCounting] at step
    split at step
    · cases step
    next ierr events answered =>
      cases step
      exact Or.inl ⟨j, rfl, answered, rfl⟩
  | handle ec =>
    simp only [errorCounting] at step
    split at step
    · cases step
    next settings calls answered =>
      cases step
      exact Or.inr ⟨_, settings, calls, Or.inl ⟨ec, rfl, rfl⟩, answered, rfl, rfl⟩
  | deliver position =>
    simp only [errorCounting] at step
    split at step
    · cases step
    next settings calls answered =>
      cases step
      exact Or.inr ⟨_, settings, calls, Or.inr ⟨position, rfl, rfl⟩, answered, rfl, rfl⟩

end HostErrorMonitor.Spec
