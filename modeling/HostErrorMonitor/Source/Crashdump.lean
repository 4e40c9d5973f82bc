import HostErrorMonitor.Reactive.Machine

/-!
Crashdump and recovery of the CRASHDUMP build (host_error_monitor.hpp:30-139).
The two function-local statics are one state shared by every caller. A call of
`startCrashdumpAndRecovery`, the handler of a GenerateStoredLog reply and the
handler of a CrashdumpComplete signal are one input each; a reply follows its
call, and nothing else orders them. The match handler is dispatched only while
its match is installed.
-/
namespace HostErrorMonitor.Source
open Reactive

/-- `boost::system::error_code`; it tests true when its value is not zero. -/
structure ErrorCode where
  value : Int
  deriving DecidableEq, Repr

def ErrorCode.failed (ec : ErrorCode) : Bool := ec.value != 0

/-- `boost::system::errc::device_or_resource_busy`. -/
def deviceOrResourceBusy : Int := 16

inductive RecoveryType where
  | noRecovery
  | powerCycle
  | warmReset
  deriving DecidableEq, Repr

/-- A `Set` call on org.freedesktop.DBus.Properties with a string value. -/
structure SetProperty where
  service : String
  path : String
  interface : String
  property : String
  value : String
  deriving DecidableEq, Repr

def startPowerCycle : SetProperty where
  service := "xyz.openbmc_project.State.Chassis"
  path := "/xyz/openbmc_project/state/chassis0"
  interface := "xyz.openbmc_project.State.Chassis"
  property := "RequestedPowerTransition"
  value := "xyz.openbmc_project.State.Chassis.Transition.PowerCycle"

def startWarmReset : SetProperty where
  service := "xyz.openbmc_project.State.Host"
  path := "/xyz/openbmc_project/state/host0"
  interface := "xyz.openbmc_project.State.Host"
  property := "RequestedHostTransition"
  value := "xyz.openbmc_project.State.Host.Transition.ForceWarmReboot"

/-- The write that `handleRecovery` sends, if any. -/
def handleRecovery : RecoveryType → Option SetProperty
  | .noRecovery => none
  | .powerCycle => some startPowerCycle
  | .warmReset => some startWarmReset

inductive CrashdumpEffect where
  | generateStoredLog (requested : RecoveryType) (triggerType : String)
  | answered (ec : ErrorCode)
  | crashdumpCompleted
  | recovered (recovery : RecoveryType) (write : Option SetProperty)
  deriving DecidableEq, Repr

/-- The statics of `startCrashdumpAndRecovery`, and the calls not answered yet. -/
structure CrashdumpMonitor where
  recovery : RecoveryType
  crashdumpCompleteMatch : Bool
  unanswered : Nat
  deriving DecidableEq, Repr

/-- A static enumeration starts at its first value, a static pointer at null. -/
def CrashdumpMonitor.initial : CrashdumpMonitor := ⟨.noRecovery, false, 0⟩

def startCrashdumpAndRecovery (s : CrashdumpMonitor) (requestedRecovery : RecoveryType)
    (triggerType : String) : CrashdumpMonitor × List CrashdumpEffect :=
  let s := { s with recovery := requestedRecovery }
  let s := if !s.crashdumpCompleteMatch then { s with crashdumpCompleteMatch := true } else s
  ({ s with unanswered := s.unanswered + 1 }, [.generateStoredLog requestedRecovery triggerType])

/-- The handler of the match: it recovers and drops the match that dispatched it. -/
def crashdumpComplete (s : CrashdumpMonitor) : CrashdumpMonitor × List CrashdumpEffect :=
  if s.crashdumpCompleteMatch then
    ({ s with crashdumpCompleteMatch := false },
      [.crashdumpCompleted, .recovered s.recovery (handleRecovery s.recovery)])
  else (s, [])

/-- The handler of a GenerateStoredLog reply. -/
def generateStoredLogReply (s : CrashdumpMonitor) (ec : ErrorCode) :
    CrashdumpMonitor × List CrashdumpEffect :=
  let s := { s with unanswered := s.unanswered - 1 }
  if ec.failed then
    if ec.value == deviceOrResourceBusy then (s, [.answered ec])
    else
      ({ s with crashdumpCompleteMatch := false },
        [.answered ec, .recovered s.recovery (handleRecovery s.recovery)])
  else (s, [.answered ec])

inductive CrashdumpInput where
  | call (requestedRecovery : RecoveryType) (triggerType : String)
  | reply (ec : ErrorCode)
  | crashdumpComplete
  deriving DecidableEq, Repr

def crashdumpMachine : Machine CrashdumpMonitor CrashdumpInput CrashdumpEffect where
  step s
    | .call requestedRecovery triggerType =>
      some (startCrashdumpAndRecovery s requestedRecovery triggerType)
    | .reply ec => if 0 < s.unanswered then some (generateStoredLogReply s ec) else none
    | .crashdumpComplete => some (crashdumpComplete s)

/-- What the settings handlers of the `assertHandler`s ask for, by default no
reset after the crashdump; `property` is what `std::get_if<bool>` finds. -/
def resetRecovery (ec : ErrorCode) (property : Option Bool) : RecoveryType :=
  if ec.failed then .noRecovery
  else
    match property with
    | none => .noRecovery
    | some reset => if reset then .warmReset else .noRecovery

/-- The handler of the ResetOnIERR reply (ierr_monitor.hpp:363-385). -/
def resetOnIERRReply (ec : ErrorCode) (property : Option Bool) : CrashdumpInput :=
  .call (resetRecovery ec property) "IERR"

/-- The handler of the ResetOnERR2 reply (err2_monitor.hpp:46-68). -/
def resetOnERR2Reply (ec : ErrorCode) (property : Option Bool) : CrashdumpInput :=
  .call (resetRecovery ec property) "ERR2_Timeout"

/-- The reply is success or busy: the service runs a crashdump to wait for. -/
def ErrorCode.accepted (ec : ErrorCode) : Bool := !ec.failed || ec.value == deviceOrResourceBusy

theorem reply_accepted (s : CrashdumpMonitor) (ec : ErrorCode) (accepted : ec.accepted = true) :
    generateStoredLogReply s ec = ({ s with unanswered := s.unanswered - 1 }, [.answered ec]) := by
  unfold ErrorCode.accepted at accepted
  unfold generateStoredLogReply
  cases failed : ec.failed
  · simp
  · have busy : (ec.value == deviceOrResourceBusy) = true := by simpa [failed] using accepted
    simp [busy]

theorem reply_rejected (s : CrashdumpMonitor) (ec : ErrorCode) (rejected : ec.accepted = false) :
    generateStoredLogReply s ec =
      ({ s with crashdumpCompleteMatch := false, unanswered := s.unanswered - 1 },
        [.answered ec, .recovered s.recovery (handleRecovery s.recovery)]) := by
  unfold ErrorCode.accepted at rejected
  rw [Bool.or_eq_false_iff, Bool.not_eq_false'] at rejected
  simp [generateStoredLogReply, rejected.1, rejected.2]

/-- What one step can do, guards included. -/
theorem crashdump_step_cases {s s' : CrashdumpMonitor} {i : CrashdumpInput}
    {out : List CrashdumpEffect} (step : crashdumpMachine.step s i = some (s', out)) :
    (∃ r t, i = .call r t ∧ out = [.generateStoredLog r t] ∧
      s' = { recovery := r, crashdumpCompleteMatch := true, unanswered := s.unanswered + 1 }) ∨
    (∃ ec, i = .reply ec ∧ 0 < s.unanswered ∧ ec.accepted = true ∧ out = [.answered ec] ∧
      s' = { s with unanswered := s.unanswered - 1 }) ∨
    (∃ ec, i = .reply ec ∧ 0 < s.unanswered ∧ ec.accepted = false ∧
      out = [.answered ec, .recovered s.recovery (handleRecovery s.recovery)] ∧
      s' = { s with crashdumpCompleteMatch := false, unanswered := s.unanswered - 1 }) ∨
    (i = .crashdumpComplete ∧ s.crashdumpCompleteMatch = true ∧
      out = [.crashdumpCompleted, .recovered s.recovery (handleRecovery s.recovery)] ∧
      s' = { s with crashdumpCompleteMatch := false }) ∨
    (i = .crashdumpComplete ∧ s.crashdumpCompleteMatch = false ∧ out = [] ∧ s' = s) := by
  cases i with
  | call r t =>
    refine Or.inl ⟨r, t, rfl, ?_⟩
    simp only [crashdumpMachine, startCrashdumpAndRecovery, Option.some.injEq,
      Prod.mk.injEq] at step
    obtain ⟨rfl, rfl⟩ := step
    cases s.crashdumpCompleteMatch <;> simp
  | reply ec =>
    simp only [crashdumpMachine] at step
    split at step
    case isFalse => cases step
    case isTrue waiting =>
      cases accepted : ec.accepted with
      | true =>
        rw [reply_accepted s ec accepted] at step
        cases step
        exact Or.inr (Or.inl ⟨ec, rfl, waiting, accepted, rfl, rfl⟩)
      | false =>
        rw [reply_rejected s ec accepted] at step
        cases step
        exact Or.inr (Or.inr (Or.inl ⟨ec, rfl, waiting, accepted, rfl, rfl⟩))
  | crashdumpComplete =>
    simp only [crashdumpMachine, crashdumpComplete] at step
    split at step
    case isTrue installed =>
      cases step
      exact Or.inr (Or.inr (Or.inr (Or.inl ⟨rfl, installed, rfl, rfl⟩)))
    case isFalse absent =>
      cases step
      exact Or.inr (Or.inr (Or.inr (Or.inr ⟨rfl, by simpa using absent, rfl, rfl⟩)))

end HostErrorMonitor.Source
