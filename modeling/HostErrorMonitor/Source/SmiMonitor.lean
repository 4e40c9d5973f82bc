import HostErrorMonitor.Source.BaseMonitor
import HostErrorMonitor.Source.Crashdump
import HostErrorMonitor.Source.PollOverrides

/-!
The monitor of SMI timeouts (smi_monitor.hpp), in the build that takes no
crashdump on one: the handler of the ResetOnSMI reply resets the host itself.
-/
namespace HostErrorMonitor.Source

inductive SMIEffect where
  | logMessage (entry : LogEntry)
  | getResetOnSMI
  deriving DecidableEq, Repr

namespace SMIMonitor

def smiPollingTimeMs : Nat := 1000
def smiTimeoutMs : Nat := 90000

def logEvent : LogEntry where
  priority := .logInfo
  msg := "SMI Timeout"
  redfishId := "OpenBMC.0.1.CPUError"
  redfishMsg := "SMI Timeout"

/-- The class has no members of its own. The inherited `assertHandler` calls
`logEvent` first; the inherited `deassertHandler` does nothing. -/
def overrides : PollOverrides Unit SMIEffect where
  startPolling _ m := (m, [])
  assertHandler _ m := (m, [.logMessage logEvent, .getResetOnSMI])
  deassertHandler m := (m, [])

/-- The polling period, with the width of `int`. -/
def config (intBits : Nat) (intBits_ge : 32 ≤ intBits) : PollConfig :=
  ⟨smiPollingTimeMs, intBits, intBits_ge⟩

def initial (cfg : PollConfig) (l : ValidPollLine) :
    DerivedMonitor Unit × List (DerivedEvent SMIEffect) :=
  l.initial overrides cfg smiTimeoutMs ()

/-- The handler of the ResetOnSMI reply; `property` is what `std::get_if<bool>` finds. -/
def resetOnSMIReply (ec : ErrorCode) (property : Option Bool) : Option SetProperty :=
  let reset :=
    if ec.failed then false
    else
      match property with
      | none => false
      | some resetPtr => resetPtr
  if reset then some startWarmReset else none

theorem resetOnSMIReply_some {ec : ErrorCode} {property : Option Bool} {write : SetProperty}
    (reset : resetOnSMIReply ec property = some write) :
    ec.failed = false ∧ property = some true ∧ write = startWarmReset := by
  unfold resetOnSMIReply at reset
  cases failed : ec.failed with
  | true => simp [failed] at reset
  | false =>
    cases property with
    | none => simp [failed] at reset
    | some resetPtr =>
      cases resetPtr with
      | false => simp [failed] at reset
      | true =>
        simp only [failed, Bool.false_eq_true, if_false, if_true] at reset
        exact ⟨rfl, rfl, (Option.some.inj reset).symm⟩

end SMIMonitor
end HostErrorMonitor.Source
