import HostErrorMonitor.Source.Err2Monitor
import HostErrorMonitor.Source.IerrOverrides
import HostErrorMonitor.Source.SmiMonitor

/-!
What the process does about an error that it reports: the monitors of IERR, ERR2
and SMI, the settings that they read for each report, and the crashdump that the
first two share. Each object publishes a path of its own class, so there is one
monitor of IERR and one of ERR2. A settings reply follows its Get call; nothing
else orders the replies, the crashdump's messages and what happens to the signals.
-/
namespace HostErrorMonitor.Spec
open HostErrorMonitor.Source Reactive

/-- The PECI library, the width of `int`, and the lines as the constructors meet them. -/
structure Platform where
  lib : Libpeci
  intBits : Nat
  intBits_ge : 32 ≤ intBits
  ierr : ValidPollLine
  ierrSignal : String
  ierrCustomName : String
  err2 : ValidPollLine
  smi : ValidPollLine

/-- The monitors, their Get calls that are not answered yet, and the crashdump. -/
structure ErrorResponse (n : Nat) where
  ierr : DerivedMonitor IERRMonitor
  err2 : DerivedMonitor (Err2Monitor n)
  smi : DerivedMonitor Unit
  ierrReads : Nat
  err2Reads : Nat
  smiReads : Nat
  crashdump : CrashdumpMonitor

/-- `resetOn` inputs are replies to Get calls, with what `std::get_if<bool>` finds. -/
inductive ResponseInput where
  | ierr (i : IERRInput)
  | err2 (i : DerivedInput)
  | smi (i : DerivedInput)
  | resetOnIERR (ec : ErrorCode) (property : Option Bool)
  | resetOnERR2 (ec : ErrorCode) (property : Option Bool)
  | resetOnSMI (ec : ErrorCode) (property : Option Bool)
  | generateStoredLogReply (ec : ErrorCode)
  | crashdumpComplete

inductive ResponseEvent (n : Nat) where
  | ierr (event : DerivedEvent IERREffect)
  | err2 (event : DerivedEvent (Err2Effect n))
  | smi (event : DerivedEvent SMIEffect)
  | resetOn (setting : String) (ec : ErrorCode) (property : Option Bool)
  | crashdump (effect : CrashdumpEffect)
  | startWarmReset (write : SetProperty)
  deriving DecidableEq, Repr

/-- An effect of an override that `asks` marks. -/
def isAsked {ε : Type} (asks : ε → Bool) : DerivedEvent ε → Bool
  | .own effect => asks effect
  | _ => false

def readsResetOnIERR : IERREffect → Bool
  | .getErrConfig property => property == "ResetOnIERR"
  | _ => false

def readsResetOnERR2 {n : Nat} : Err2Effect n → Bool
  | .getErrConfig property => property == "ResetOnERR2"
  | _ => false

def readsResetOnSMI : SMIEffect → Bool
  | .getResetOnSMI => true
  | _ => false

namespace Platform
variable (p : Platform)

def ierrConfig : PollConfig := IERRMonitor.config p.intBits p.intBits_ge
def err2Config : PollConfig := ErrPinTimeoutMonitor.config p.intBits p.intBits_ge
def smiConfig : PollConfig := SMIMonitor.config p.intBits p.intBits_ge

def ierrMachine : Machine (DerivedMonitor IERRMonitor) IERRInput (DerivedEvent IERREffect) :=
  Source.ierrMachine p.lib p.ierrConfig

def err2Machine : Machine (DerivedMonitor (Err2Monitor p.lib.maxCPUs)) DerivedInput
    (DerivedEvent (Err2Effect p.lib.maxCPUs)) :=
  derivedMachine (Err2Monitor.overrides p.lib.maxCPUs p.lib) p.err2Config

def smiMachine : Machine (DerivedMonitor Unit) DerivedInput (DerivedEvent SMIEffect) :=
  derivedMachine SMIMonitor.overrides p.smiConfig

/-- The monitors as constructed. The polls of the constructors of IERR and SMI may
report and read a setting; that of ERR2 calls the inherited functions. -/
def initial : ErrorResponse p.lib.maxCPUs × List (ResponseEvent p.lib.maxCPUs) :=
  let (ierr, ierrEvents) := IERRMonitor.initial p.lib p.ierrConfig p.ierr p.ierrSignal p.ierrCustomName
  let (err2, _) := Err2Monitor.initial p.lib.maxCPUs p.lib p.err2Config p.err2
  let (smi, smiEvents) := SMIMonitor.initial p.smiConfig p.smi
  ({ ierr := ierr
     err2 := err2
     smi := smi
     ierrReads := ierrEvents.countP (isAsked readsResetOnIERR)
     err2Reads := 0
     smiReads := smiEvents.countP (isAsked readsResetOnSMI)
     crashdump := .initial },
    ierrEvents.map .ierr ++ smiEvents.map .smi)

def errorResponse : Machine (ErrorResponse p.lib.maxCPUs) ResponseInput
    (ResponseEvent p.lib.maxCPUs) where
  step s
    | .ierr i =>
      match p.ierrMachine.step s.ierr i with
      | none => none
      | some (ierr, events) =>
        some ({ s with
          ierr := ierr
          ierrReads := s.ierrReads + events.countP (isAsked readsResetOnIERR) }, events.map .ierr)
    | .err2 i =>
      match p.err2Machine.step s.err2 i with
      | none => none
      | some (err2, events) =>
        some ({ s with
          err2 := err2
          err2Reads := s.err2Reads + events.countP (isAsked readsResetOnERR2) }, events.map .err2)
    | .smi i =>
      match p.smiMachine.step s.smi i with
      | none => none
      | some (smi, events) =>
        some ({ s with
          smi := smi
          smiReads := s.smiReads + events.countP (isAsked readsResetOnSMI) }, events.map .smi)
    | .resetOnIERR ec property =>
      if 0 < s.ierrReads then
        match crashdumpMachine.step s.crashdump (resetOnIERRReply ec property) with
        | none => none
        | some (crashdump, effects) =>
          some ({ s with ierrReads := s.ierrReads - 1, crashdump := crashdump },
            .resetOn "ResetOnIERR" ec property :: effects.map .crashdump)
      else none
    | .resetOnERR2 ec property =>
      if 0 < s.err2Reads then
        match crashdumpMachine.step s.crashdump (resetOnERR2Reply ec property) with
        | none => none
        | some (crashdump, effects) =>
          some ({ s with err2Reads := s.err2Reads - 1, crashdump := crashdump },
            .resetOn "ResetOnERR2" ec property :: effects.map .crashdump)
      else none
    | .resetOnSMI ec property =>
      if 0 < s.smiReads then
        some ({ s with smiReads := s.smiReads - 1 }, .resetOn "ResetOnSMI" ec property ::
          (SMIMonitor.resetOnSMIReply ec property).toList.map .startWarmReset)
      else none
    | .generateStoredLogReply ec =>
      match crashdumpMachine.step s.crashdump (.reply ec) with
      | none => none
      | some (crashdump, effects) => some ({ s with crashdump := crashdump }, effects.map .crashdump)
    | .crashdumpComplete =>
      match crashdumpMachine.step s.crashdump .crashdumpComplete with
      | none => none
      | some (crashdump, effects) => some ({ s with crashdump := crashdump }, effects.map .crashdump)

end Platform

/-- What one step can do, guards included. -/
theorem response_step_cases {p : Platform} {s s' : ErrorResponse p.lib.maxCPUs} {i : ResponseInput}
    {out : List (ResponseEvent p.lib.maxCPUs)} (step : p.errorResponse.step s i = some (s', out)) :
    (∃ j m events, i = .ierr j ∧ p.ierrMachine.step s.ierr j = some (m, events) ∧
      s' = { s with
        ierr := m
        ierrReads := s.ierrReads + events.countP (isAsked readsResetOnIERR) } ∧
      out = events.map .ierr) ∨
    (∃ j m events, i = .err2 j ∧ p.err2Machine.step s.err2 j = some (m, events) ∧
      s' = { s with
        err2 := m
        err2Reads := s.err2Reads + events.countP (isAsked readsResetOnERR2) } ∧
      out = events.map .err2) ∨
    (∃ j m events, i = .smi j ∧ p.smiMachine.step s.smi j = some (m, events) ∧
      s' = { s with
        smi := m
        smiReads := s.smiReads + events.countP (isAsked readsResetOnSMI) } ∧
      out = events.map .smi) ∨
    (∃ ec property, i = .resetOnIERR ec property ∧ 0 < s.ierrReads ∧
      s' = { s with
        ierrReads := s.ierrReads - 1
        crashdump := ⟨resetRecovery ec property, true, s.crashdump.unanswered + 1⟩ } ∧
      out = [.resetOn "ResetOnIERR" ec property,
        .crashdump (.generateStoredLog (resetRecovery ec property) "IERR")]) ∨
    (∃ ec property, i = .resetOnERR2 ec property ∧ 0 < s.err2Reads ∧
      s' = { s with
        err2Reads := s.err2Reads - 1
        crashdump := ⟨resetRecovery ec property, true, s.crashdump.unanswered + 1⟩ } ∧
      out = [.resetOn "ResetOnERR2" ec property,
        .crashdump (.generateStoredLog (resetRecovery ec property) "ERR2_Timeout")]) ∨
    (∃ ec property, i = .resetOnSMI ec property ∧ 0 < s.smiReads ∧
      s' = { s with smiReads := s.smiReads - 1 } ∧
      out = .resetOn "ResetOnSMI" ec property ::
        (SMIMonitor.resetOnSMIReply ec property).toList.map .startWarmReset) ∨
    (∃ j crashdump effects,
      (i = .crashdumpComplete ∧ j = .crashdumpComplete ∨
        ∃ ec, i = .generateStoredLogReply ec ∧ j = .reply ec) ∧
      crashdumpMachine.step s.crashdump j = some (crashdump, effects) ∧
      s' = { s with crashdump := crashdump } ∧ out = effects.map .crashdump) := by
  cases i with
  | ierr j =>
    simp only [Platform.errorResponse] at step
    split at step
    · cases step
    next m events answered =>
      cases step
      exact Or.inl ⟨j, m, events, rfl, answered, rfl, rfl⟩
  | err2 j =>
    simp only [Platform.errorResponse] at step
    split at step
    · cases step
    next m events answered =>
      cases step
      exact Or.inr (Or.inl ⟨j, m, events, rfl, answered, rfl, rfl⟩)
  | smi j =>
    simp only [Platform.errorResponse] at step
    split at step
    · cases step
    next m events answered =>
      cases step
      exact Or.inr (Or.inr (Or.inl ⟨j, m, events, rfl, answered, rfl, rfl⟩))
  | resetOnIERR ec property =>
    simp only [Platform.errorResponse] at step
    split at step
    next waiting =>
      split at step
      · cases step
      next crashdump effects called =>
        cases step
        rcases crashdump_step_cases called with ⟨r, t, same, rfl, rfl⟩ | ⟨_, other, _⟩ | ⟨_, other, _⟩ |
          ⟨other, _⟩ | ⟨other, _⟩
        · cases same
          exact Or.inr (Or.inr (Or.inr (Or.inl ⟨ec, property, rfl, waiting, rfl, rfl⟩)))
        all_goals cases other
    · cases step
  | resetOnERR2 ec property =>
    simp only [Platform.errorResponse] at step
    split at step
    next waiting =>
      split at step
      · cases step
      next crashdump effects called =>
        cases step
        rcases crashdump_step_cases called with ⟨r, t, same, rfl, rfl⟩ | ⟨_, other, _⟩ | ⟨_, other, _⟩ |
          ⟨other, _⟩ | ⟨other, _⟩
        · cases same
          exact Or.inr (Or.inr (Or.inr (Or.inr (Or.inl ⟨ec, property, rfl, waiting, rfl, rfl⟩))))
        all_goals cases other
    · cases step
  | resetOnSMI ec property =>
    simp only [Platform.errorResponse] at step
    split at step
    next waiting =>
      cases step
      exact Or.inr (Or.inr (Or.inr (Or.inr (Or.inr (Or.inl
        ⟨ec, property, rfl, waiting, rfl, rfl⟩)))))
    · cases step
  | generateStoredLogReply ec =>
    simp only [Platform.errorResponse] at step
    split at step
    · cases step
    next crashdump effects answered =>
      cases step
      exact Or.inr (Or.inr (Or.inr (Or.inr (Or.inr (Or.inr
        ⟨.reply ec, crashdump, effects, Or.inr ⟨ec, rfl, rfl⟩, answered, rfl, rfl⟩)))))
  | crashdumpComplete =>
    simp only [Platform.errorResponse] at step
    split at step
    · cases step
    next crashdump effects answered =>
      cases step
      exact Or.inr (Or.inr (Or.inr (Or.inr (Or.inr (Or.inr
        ⟨.crashdumpComplete, crashdump, effects, Or.inl ⟨rfl, rfl⟩, answered, rfl, rfl⟩)))))

end HostErrorMonitor.Spec
