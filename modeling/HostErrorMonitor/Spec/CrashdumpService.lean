import HostErrorMonitor.Source.Crashdump

/-!
The crashdump service as the monitor relies on it, and the two together. The
service runs one crashdump at a time, for this monitor or for another client;
it answers a call with success when idle, with busy when a crashdump runs, or
with another error, and sends one CrashdumpComplete when a crashdump ends. Its
messages reach the monitor in the order they were sent. The monitor's side is
the source's machine, unchanged.
-/
namespace HostErrorMonitor.Spec
open HostErrorMonitor.Source Reactive

inductive CrashdumpClient where
  | monitor
  | other
  deriving DecidableEq, Repr

inductive ServiceMessage where
  | reply (ec : ErrorCode)
  | crashdumpComplete
  deriving DecidableEq, Repr

/-- `requests` counts the calls that the service has not handled; `messages` are
on their way to the monitor, oldest first. -/
structure CrashdumpSystem where
  monitor : CrashdumpMonitor
  requests : Nat
  running : Option CrashdumpClient
  messages : List ServiceMessage
  deriving DecidableEq, Repr

def CrashdumpSystem.initial : CrashdumpSystem := ⟨.initial, 0, none, []⟩

inductive SystemInput where
  | call (requestedRecovery : RecoveryType) (triggerType : String)
  | answer (ec : ErrorCode)
  | otherStarts
  | crashdumpEnds
  | deliver
  deriving DecidableEq, Repr

/-- The answers open to the service: success when idle, busy when not, an error always. -/
def mayAnswer (running : Option CrashdumpClient) (ec : ErrorCode) : Bool :=
  if ec.failed then ec.value != deviceOrResourceBusy || running.isSome else running.isNone

def ServiceMessage.input : ServiceMessage → CrashdumpInput
  | .reply ec => .reply ec
  | .crashdumpComplete => .crashdumpComplete

def crashdumpSystem : Machine CrashdumpSystem SystemInput CrashdumpEffect where
  step s
    | .call requestedRecovery triggerType =>
      match crashdumpMachine.step s.monitor (.call requestedRecovery triggerType) with
      | none => none
      | some (monitor, out) =>
        some ({ s with monitor := monitor, requests := s.requests + 1 }, out)
    | .answer ec =>
      if 0 < s.requests ∧ mayAnswer s.running ec = true then
        some ({ s with
          requests := s.requests - 1
          running := if ec.failed then s.running else some .monitor
          messages := s.messages ++ [.reply ec] }, [])
      else none
    | .otherStarts =>
      if s.running = none then some ({ s with running := some .other }, []) else none
    | .crashdumpEnds =>
      if s.running = none then none
      else some ({ s with
        running := none
        messages := s.messages ++ [.crashdumpComplete] }, [])
    | .deliver =>
      match s.messages with
      | [] => none
      | message :: rest =>
        match crashdumpMachine.step s.monitor message.input with
        | none => none
        | some (monitor, out) => some ({ s with monitor := monitor, messages := rest }, out)

def ServiceMessage.isReply : ServiceMessage → Bool
  | .reply _ => true
  | .crashdumpComplete => false

/-- What one step of the two parties can do, guards included. -/
theorem crashdumpSystem_step_cases {s s' : CrashdumpSystem} {i : SystemInput}
    {out : List CrashdumpEffect} (step : crashdumpSystem.step s i = some (s', out)) :
    (∃ r t m, i = .call r t ∧ crashdumpMachine.step s.monitor (.call r t) = some (m, out) ∧
      s' = { s with monitor := m, requests := s.requests + 1 }) ∨
    (∃ ec, i = .answer ec ∧ 0 < s.requests ∧ out = [] ∧
      s' = { s with
        requests := s.requests - 1
        running := if ec.failed then s.running else some .monitor
        messages := s.messages ++ [.reply ec] }) ∨
    (i = .otherStarts ∧ s.running = none ∧ out = [] ∧ s' = { s with running := some .other }) ∨
    (i = .crashdumpEnds ∧ out = [] ∧
      s' = { s with running := none, messages := s.messages ++ [.crashdumpComplete] }) ∨
    (∃ message rest m, i = .deliver ∧ s.messages = message :: rest ∧
      crashdumpMachine.step s.monitor message.input = some (m, out) ∧
      s' = { s with monitor := m, messages := rest }) := by
  cases i with
  | call r t =>
    simp only [crashdumpSystem] at step
    split at step
    · cases step
    next m o called =>
      cases step
      exact Or.inl ⟨r, t, m, rfl, called, rfl⟩
  | answer ec =>
    simp only [crashdumpSystem] at step
    split at step
    next enabled =>
      cases step
      exact Or.inr (Or.inl ⟨ec, rfl, enabled.1, rfl, rfl⟩)
    · cases step
  | otherStarts =>
    simp only [crashdumpSystem] at step
    split at step
    next idle =>
      cases step
      exact Or.inr (Or.inr (Or.inl ⟨rfl, idle, rfl, rfl⟩))
    · cases step
  | crashdumpEnds =>
    simp only [crashdumpSystem] at step
    split at step
    · cases step
    · cases step
      exact Or.inr (Or.inr (Or.inr (Or.inl ⟨rfl, rfl, rfl⟩)))
  | deliver =>
    simp only [crashdumpSystem] at step
    split at step
    · cases step
    next message rest queue =>
      split at step
      · cases step
      next m o delivered =>
        cases step
        exact Or.inr (Or.inr (Or.inr (Or.inr ⟨message, rest, m, rfl, queue, delivered, rfl⟩)))

end HostErrorMonitor.Spec
