import HostErrorMonitor.Spec.MonitorProcess

/-!
The process and the service that owns the host state, from the first line of `main`
(host_error_monitor.cpp:124-146). `main` adds the match for PropertiesChanged, asks
for `CurrentHostState`, and then runs the event loop, which alone dispatches what has
arrived. The service has one host; the match names no path, so another one's signals
would be taken for its own. It signals each change to those who match, with that
property alone, and answers the Get once, with the state it has then or with an
error. Its messages arrive in the order in which it sent them.
-/
namespace HostErrorMonitor.Spec
open HostErrorMonitor.Source Reactive

/-- How far `main` has come; the event loop runs in the last stage. -/
inductive MainStage where
  | connected
  | tracking
  | running
  deriving DecidableEq, Repr

section tracking
variable {κ : Type} (ms : Monitors κ)

/-- `asked` until the service has answered the Get; `inTransit` are its messages on
their way to the process, oldest first. -/
structure HostTracking where
  process : MonitorProcess ms := {}
  stage : MainStage := .connected
  asked : Bool := false
  currentHostState : String
  inTransit : List HostInput := []

def HostTracking.initial (state : String) : HostTracking ms :=
  { currentHostState := state }

inductive TrackingInput where
  | startHostStateMonitor
  | initializeHostState
  | change (state : String)
  | answer (ec : ErrorCode)
  | deliver (meets : ∀ k, (ms.cls k).Meets)
  | monitor (k : κ) (i : (ms.cls k).Input)

inductive TrackingEvent where
  | sent (message : HostInput)
  | process (event : ProcessEvent ms)

variable {ms}

def processEvent : TrackingEvent ms → Option (ProcessEvent ms)
  | .sent _ => none
  | .process event => some event

/-- What the process does in a trace of the two. -/
def processEvents (tr : List (TrackingEvent ms)) : List (ProcessEvent ms) :=
  tr.filterMap processEvent

theorem processEvents_append (tr out : List (TrackingEvent ms)) :
    processEvents (tr ++ out) = processEvents tr ++ processEvents out := List.filterMap_append

@[simp] theorem processEvents_process (events : List (ProcessEvent ms)) :
    processEvents (events.map TrackingEvent.process) = events := by
  unfold processEvents
  rw [List.filterMap_map]
  exact List.filterMap_some

variable (ms) [DecidableEq κ]

def hostTracking : Machine (HostTracking ms) (TrackingInput ms) (TrackingEvent ms) where
  step s
    | .startHostStateMonitor =>
      if s.stage = .connected then some ({ s with stage := .tracking }, []) else none
    | .initializeHostState =>
      if s.stage = .tracking then some ({ s with stage := .running, asked := true }, []) else none
    | .change state =>
      if s.stage = .connected then some ({ s with currentHostState := state }, [])
      else
        some ({ s with
          currentHostState := state
          inTransit := s.inTransit ++ [.signal state] }, [.sent (.signal state)])
    | .answer ec =>
      if s.asked then
        some ({ s with
          asked := false
          inTransit := s.inTransit ++ [.reply ec s.currentHostState] },
          [.sent (.reply ec s.currentHostState)])
      else none
    | .deliver meets =>
      if s.stage = .running then
        match s.inTransit with
        | [] => none
        | message :: rest =>
          match ms.process.step s.process (.deliver message meets) with
          | none => none
          | some (process, out) =>
            some ({ s with process := process, inTransit := rest }, out.map .process)
      else none
    | .monitor k i =>
      match ms.process.step s.process (.monitor k i) with
      | none => none
      | some (process, out) => some ({ s with process := process }, out.map .process)

variable {ms}

/-- What one step of the two can do, guards included. -/
theorem tracking_step_cases {s s' : HostTracking ms} {i : TrackingInput ms}
    {out : List (TrackingEvent ms)} (step : (hostTracking ms).step s i = some (s', out)) :
    (i = .startHostStateMonitor ∧ s.stage = .connected ∧ s' = { s with stage := .tracking } ∧
      out = []) ∨
    (i = .initializeHostState ∧ s.stage = .tracking ∧
      s' = { s with stage := .running, asked := true } ∧ out = []) ∨
    (∃ state, i = .change state ∧ s.stage = .connected ∧
      s' = { s with currentHostState := state } ∧ out = []) ∨
    (∃ state, i = .change state ∧ s.stage ≠ .connected ∧
      s' = { s with currentHostState := state, inTransit := s.inTransit ++ [.signal state] } ∧
      out = [.sent (.signal state)]) ∨
    (∃ ec, i = .answer ec ∧ s.asked = true ∧
      s' = { s with
        asked := false
        inTransit := s.inTransit ++ [.reply ec s.currentHostState] } ∧
      out = [.sent (.reply ec s.currentHostState)]) ∨
    (∃ meets message rest process events, i = .deliver meets ∧ s.stage = .running ∧
      s.inTransit = message :: rest ∧
      ms.process.step s.process (.deliver message meets) = some (process, events) ∧
      s' = { s with process := process, inTransit := rest } ∧ out = events.map .process) ∨
    (∃ k j process events, i = .monitor k j ∧
      ms.process.step s.process (.monitor k j) = some (process, events) ∧
      s' = { s with process := process } ∧ out = events.map .process) := by
  cases i with
  | startHostStateMonitor =>
    simp only [hostTracking] at step
    split at step
    next stage =>
      cases step
      exact Or.inl ⟨rfl, stage, rfl, rfl⟩
    · cases step
  | initializeHostState =>
    simp only [hostTracking] at step
    split at step
    next stage =>
      cases step
      exact Or.inr (Or.inl ⟨rfl, stage, rfl, rfl⟩)
    · cases step
  | change state =>
    simp only [hostTracking] at step
    split at step
    next stage =>
      cases step
      exact Or.inr (Or.inr (Or.inl ⟨state, rfl, stage, rfl, rfl⟩))
    next stage =>
      cases step
      exact Or.inr (Or.inr (Or.inr (Or.inl ⟨state, rfl, stage, rfl, rfl⟩)))
  | answer ec =>
    simp only [hostTracking] at step
    split at step
    next asked =>
      cases step
      exact Or.inr (Or.inr (Or.inr (Or.inr (Or.inl ⟨ec, rfl, asked, rfl, rfl⟩))))
    · cases step
  | deliver meets =>
    simp only [hostTracking] at step
    split at step
    next stage =>
      split at step
      · cases step
      next message rest oldest =>
        split at step
        · cases step
        next process events stepped =>
          cases step
          exact Or.inr (Or.inr (Or.inr (Or.inr (Or.inr (Or.inl
            ⟨meets, message, rest, process, events, rfl, stage, oldest, stepped, rfl, rfl⟩)))))
    · cases step
  | monitor k j =>
    simp only [hostTracking] at step
    split at step
    · cases step
    next process events stepped =>
      cases step
      exact Or.inr (Or.inr (Or.inr (Or.inr (Or.inr (Or.inr
        ⟨k, j, process, events, rfl, stepped, rfl, rfl⟩)))))

end tracking
end HostErrorMonitor.Spec
