import Mathlib.Data.String.Basic
import HostErrorMonitor.Container.FlatMap
import HostErrorMonitor.Reactive.Machine
import HostErrorMonitor.Source.Crashdump

/-!
The recorded host state and its two writers (host_error_monitor.cpp:30-120,
error_monitors.hpp). A `std::variant<std::string>` that was decoded always holds
its string, so `std::get_if` is never null here. `std::string` and `String`
compare alike on the bytes of UTF-8, so the map iterates in the same order.
-/
namespace HostErrorMonitor.Source
open Container Reactive

/-- What ends the process: `begin()->first` on an empty map, or a throw of `init`. -/
inductive HostFault where
  | dereferencesEnd
  | failedToStart
  deriving DecidableEq, Repr

inductive HostEffect where
  | init
  | startMonitors
  | sendHostOn
  deriving DecidableEq, Repr

/-- The statics `hostOff` and `initialized`. -/
structure HostState where
  hostOff : Bool := true
  initialized : Bool := false
  deriving DecidableEq, Repr

def hostIsOff (s : HostState) : Bool := s.hostOff

def hostStateOff : String := "xyz.openbmc_project.State.Host.HostState.Off"

/-- No monitor is listed in the template, so none can be invalid. -/
def checkMonitors : Bool := true

def startMonitors : Bool := checkMonitors

def init (s : HostState) : Except HostFault (HostState × List HostEffect) :=
  if !s.initialized then
    let s := { s with initialized := true }
    if !startMonitors then .error .failedToStart else .ok (s, [.init, .startMonitors])
  else .ok (s, [.init])

/-- The handler of the `CurrentHostState` Get reply. -/
def initializeHostState (s : HostState) (ec : ErrorCode) (property : String) :
    Except HostFault (HostState × List HostEffect) :=
  if ec.failed then .ok (s, [])
  else init { s with hostOff := property == hostStateOff }

/-- The handler of a PropertiesChanged signal; a body that `read` rejects is `none`. -/
def startHostStateMonitor (s : HostState) (msg : Option (String × FlatMap String String)) :
    Except HostFault (HostState × List HostEffect) :=
  match msg with
  | none => .ok (s, [])
  | some (_, propertiesChanged) =>
    match propertiesChanged.first with
    | none => .error .dereferencesEnd
    | some (property, state) =>
      if property != "CurrentHostState" then .ok (s, [])
      else
        match init { s with hostOff := state == hostStateOff } with
        | .error fault => .error fault
        | .ok (s, out) => if !s.hostOff then .ok (s, out ++ [.sendHostOn]) else .ok (s, out)

/-- A Get reply, or a signal that carries only `CurrentHostState`. -/
inductive HostInput where
  | reply (ec : ErrorCode) (property : String)
  | signal (state : String)
  deriving DecidableEq, Repr

def hostMachine : Machine HostState HostInput HostEffect where
  step s
    | .reply ec property => (initializeHostState s ec property).toOption
    | .signal state =>
      (startHostStateMonitor s
        (some ("xyz.openbmc_project.State.Host", .singleton "CurrentHostState" state))).toOption

/-- `init` always succeeds, and starts the monitors once. -/
theorem init_eq (s : HostState) :
    init s = .ok ({ s with initialized := true },
      if s.initialized then [.init] else [.init, .startMonitors]) := by
  unfold init
  obtain ⟨hostOff, initialized⟩ := s
  cases initialized <;> rfl

theorem initializeHostState_eq (s : HostState) (ec : ErrorCode) (property : String) :
    initializeHostState s ec property =
      if ec.failed then .ok (s, [])
      else .ok (⟨property == hostStateOff, true⟩,
        if s.initialized then [.init] else [.init, .startMonitors]) := by
  simp only [initializeHostState, init_eq]

/-- The handler when the map begins with `CurrentHostState`. -/
theorem startHostStateMonitor_first (s : HostState) (interfaceName : String)
    (propertiesChanged : FlatMap String String) (state : String)
    (begins : propertiesChanged.first = some ("CurrentHostState", state)) :
    startHostStateMonitor s (some (interfaceName, propertiesChanged)) =
      .ok (⟨state == hostStateOff, true⟩,
        (if s.initialized then [.init] else [.init, .startMonitors]) ++
          if state == hostStateOff then [] else [.sendHostOn]) := by
  simp only [startHostStateMonitor, begins, init_eq]
  cases state == hostStateOff <;> simp

/-- What one step of the host state can do. -/
theorem host_step_cases {s s' : HostState} {i : HostInput} {out : List HostEffect}
    (step : hostMachine.step s i = some (s', out)) :
    (∃ ec property, i = .reply ec property ∧ ec.failed = true ∧ s' = s ∧ out = []) ∨
    (∃ ec property, i = .reply ec property ∧ ec.failed = false ∧
      s' = ⟨property == hostStateOff, true⟩ ∧
      out = if s.initialized then [.init] else [.init, .startMonitors]) ∨
    (∃ state, i = .signal state ∧ s' = ⟨state == hostStateOff, true⟩ ∧
      out = (if s.initialized then [.init] else [.init, .startMonitors]) ++
        if state == hostStateOff then [] else [.sendHostOn]) := by
  cases i with
  | reply ec property =>
    simp only [hostMachine, initializeHostState_eq] at step
    cases failed : ec.failed with
    | true =>
      rw [failed] at step
      cases step
      exact Or.inl ⟨ec, property, rfl, failed, rfl, rfl⟩
    | false =>
      rw [failed] at step
      cases step
      exact Or.inr (Or.inl ⟨ec, property, rfl, failed, rfl, rfl⟩)
  | signal state =>
    simp only [hostMachine] at step
    rw [startHostStateMonitor_first s _ _ state rfl] at step
    cases step
    exact Or.inr (Or.inr ⟨state, rfl, rfl, rfl⟩)

/-- Every delivery is handled: no step of the host state ends the process. -/
theorem host_step_total (s : HostState) (i : HostInput) : ∃ s' out,
    hostMachine.step s i = some (s', out) := by
  cases i with
  | reply ec property =>
    simp only [hostMachine, initializeHostState_eq]
    cases ec.failed <;> exact ⟨_, _, rfl⟩
  | signal state =>
    simp only [hostMachine]
    rw [startHostStateMonitor_first s _ _ state rfl]
    exact ⟨_, _, rfl⟩

end HostErrorMonitor.Source
