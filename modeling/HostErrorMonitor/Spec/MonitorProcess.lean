import HostErrorMonitor.Reactive.Composition
import HostErrorMonitor.Source.HostState

/-!
The process with any monitors in its template (error_monitors.hpp). The template
lists none; its commented lines show how one is listed: `startMonitors` constructs
each monitor in turn and then asks each whether it is valid, and `sendHostOn` calls
each one's `hostOn`. The host state is the source's machine; here `checkMonitors`
is that of the monitors which are listed.
-/
namespace HostErrorMonitor.Spec
open HostErrorMonitor.Source Reactive

/-- A class of monitors. `hostState` is what its functions read of the static
`hostOff`, `Meets` what a `hostOn` meets in its surroundings, and `own` what happens
to a monitor apart from these. Only a constructor decides whether it is valid. -/
structure MonitorClass where
  State : Type
  Input : Type
  Event : Type
  Meets : Type
  construct : Bool → State × List Event
  isValid : State → Bool
  hostState : Bool → State → State
  hostOn : Meets → State → Option (State × List Event)
  own : Machine State Input Event
  hostState_valid : ∀ off s, isValid (hostState off s) = isValid s
  hostOn_valid : ∀ w s s' out, hostOn w s = some (s', out) → isValid s' = isValid s
  hostOn_total : ∀ w s, isValid s = true → ∃ s' out, hostOn w s = some (s', out)
  own_valid : ∀ s i s' out, own.step s i = some (s', out) → isValid s' = isValid s

inductive MemberInput (cls : MonitorClass) where
  | construct (off : Bool)
  | hostState (off : Bool)
  | hostOn (meets : cls.Meets)
  | own (i : cls.Input)

inductive MemberEvent (ε : Type) where
  | constructed
  | hostOn
  | event (event : ε)
  deriving DecidableEq, Repr

/-- The static `std::unique_ptr` to a monitor. To call `hostOn` through it before it
is set dereferences null, and has no next state here. -/
def MonitorClass.pointer (cls : MonitorClass) :
    Machine (Option cls.State) (MemberInput cls) (MemberEvent cls.Event) where
  step s
    | .construct off => some (some (cls.construct off).1, .constructed :: (cls.construct off).2.map .event)
    | .hostState off => some (s.map (cls.hostState off), [])
    | .hostOn meets =>
      match s with
      | none => none
      | some t =>
        match cls.hostOn meets t with
        | none => none
        | some (t, out) => some (some t, .hostOn :: out.map .event)
    | .own i =>
      match s with
      | none => none
      | some t =>
        match cls.own.step t i with
        | none => none
        | some (t, out) => some (some t, out.map .event)

/-- Names for the monitors that the template lists, in their order. -/
structure Listing (κ : Type) where
  order : List κ
  once : order.Nodup
  all : ∀ k, k ∈ order

structure Monitors (κ : Type) extends Listing κ where
  cls : κ → MonitorClass

/-- A monitor of the given class, named `none`, among others. -/
def Listing.among {κ : Type} (listing : Listing (Option κ)) (cls : MonitorClass)
    (others : κ → MonitorClass) : Monitors (Option κ) where
  toListing := listing
  cls
    | none => cls
    | some k => others k

def ownEvent {ε : Type} : MemberEvent ε → Option ε
  | .event event => some event
  | _ => none

/-- The events of the class in those of a monitor. -/
def ownEvents {ε : Type} (tr : List (MemberEvent ε)) : List ε := tr.filterMap ownEvent

theorem ownEvents_append {ε : Type} (tr out : List (MemberEvent ε)) :
    ownEvents (tr ++ out) = ownEvents tr ++ ownEvents out := List.filterMap_append

@[simp] theorem ownEvents_event {ε : Type} (events : List ε) :
    ownEvents (events.map MemberEvent.event) = events := by
  unfold ownEvents
  rw [List.filterMap_map]
  exact List.filterMap_some

namespace MonitorClass
variable {cls : MonitorClass}

/-- What one step of a monitor's pointer can do, guards included. -/
theorem pointer_step_cases {s s' : Option cls.State} {i : MemberInput cls}
    {out : List (MemberEvent cls.Event)} (step : cls.pointer.step s i = some (s', out)) :
    (∃ off, i = .construct off ∧ s' = some (cls.construct off).1 ∧
      out = .constructed :: (cls.construct off).2.map .event) ∨
    (∃ off, i = .hostState off ∧ s' = s.map (cls.hostState off) ∧ out = []) ∨
    (∃ meets t t' events, i = .hostOn meets ∧ s = some t ∧
      cls.hostOn meets t = some (t', events) ∧ s' = some t' ∧
      out = .hostOn :: events.map .event) ∨
    (∃ j t t' events, i = .own j ∧ s = some t ∧ cls.own.step t j = some (t', events) ∧
      s' = some t' ∧ out = events.map .event) := by
  cases i with
  | construct off =>
    cases step
    exact Or.inl ⟨off, rfl, rfl, rfl⟩
  | hostState off =>
    cases step
    exact Or.inr (Or.inl ⟨off, rfl, rfl, rfl⟩)
  | hostOn meets =>
    cases s with
    | none => cases step
    | some t =>
      simp only [pointer] at step
      split at step
      · cases step
      next t' events notified =>
        cases step
        exact Or.inr (Or.inr (Or.inl ⟨meets, t, t', events, rfl, rfl, notified, rfl, rfl⟩))
  | own j =>
    cases s with
    | none => cases step
    | some t =>
      simp only [pointer] at step
      split at step
      · cases step
      next t' events stepped =>
        cases step
        exact Or.inr (Or.inr (Or.inr ⟨j, t, t', events, rfl, rfl, stepped, rfl, rfl⟩))

end MonitorClass

section process
variable {κ : Type} (ms : Monitors κ)

structure MonitorProcess where
  host : HostState := {}
  monitors : ∀ k, Option (ms.cls k).State := fun _ => none

/-- A delivery to the host state, with what each `hostOn` meets if the delivery calls it. -/
inductive ProcessInput where
  | deliver (i : HostInput) (meets : ∀ k, (ms.cls k).Meets)
  | monitor (k : κ) (i : (ms.cls k).Input)

inductive ProcessEvent where
  | host (effect : HostEffect)
  | monitor (event : Sigma fun k => MemberEvent (ms.cls k).Event)

namespace Monitors
variable [DecidableEq κ]

abbrev pointers (k : κ) : Machine (Option (ms.cls k).State) (MemberInput (ms.cls k))
    (MemberEvent (ms.cls k).Event) := (ms.cls k).pointer

/-- The host state is written first; a monitor that `init` constructs then reads it. -/
def recording (cls : MonitorClass) (host : HostState) (effects : List HostEffect) :
    List (MemberInput cls) :=
  if .startMonitors ∈ effects then [.construct (hostIsOff host)] else [.hostState (hostIsOff host)]

def sendHostOn (cls : MonitorClass) (effects : List HostEffect) (meets : cls.Meets) :
    List (MemberInput cls) :=
  if .sendHostOn ∈ effects then [.hostOn meets] else []

def checkMonitors (monitors : ∀ k, Option (ms.cls k).State) : Bool :=
  ms.order.all fun k => (monitors k).any (ms.cls k).isValid

/-- A delivery has no next state where `init` throws, or where a pointer is null. -/
def process : Machine (MonitorProcess ms) (ProcessInput ms) (ProcessEvent ms) where
  step s
    | .deliver i meets =>
      match hostMachine.step s.host i with
      | none => none
      | some (host, effects) =>
        match execAll ms.pointers (fun k => recording (ms.cls k) host effects) ms.order s.monitors with
        | none => none
        | some (monitors, started) =>
          if .startMonitors ∈ effects ∧ checkMonitors ms monitors = false then none
          else
            match execAll ms.pointers (fun k => sendHostOn (ms.cls k) effects (meets k)) ms.order
              monitors with
            | none => none
            | some (monitors, notified) =>
              some (⟨host, monitors⟩,
                effects.map .host ++ (started ++ notified).map .monitor)
    | .monitor k i =>
      match stepMember ms.pointers s.monitors k (.own i) with
      | none => none
      | some (monitors, out) => some (⟨s.host, monitors⟩, out.map .monitor)

end Monitors

variable {ms}

def hostEffect : ProcessEvent ms → Option HostEffect
  | .host effect => some effect
  | .monitor _ => none

def monitorEvent : ProcessEvent ms → Option (Sigma fun k => MemberEvent (ms.cls k).Event)
  | .host _ => none
  | .monitor event => some event

/-- The effects of the host state in a trace. -/
def hostEffects (tr : List (ProcessEvent ms)) : List HostEffect := tr.filterMap hostEffect

theorem hostEffects_append (tr out : List (ProcessEvent ms)) :
    hostEffects (tr ++ out) = hostEffects tr ++ hostEffects out := List.filterMap_append

@[simp] theorem hostEffects_host (effects : List HostEffect) :
    hostEffects (effects.map (@ProcessEvent.host κ ms)) = effects := by
  unfold hostEffects
  rw [List.filterMap_map]
  exact List.filterMap_some

@[simp] theorem hostEffects_monitor (events : List (Sigma fun k => MemberEvent (ms.cls k).Event)) :
    hostEffects (events.map ProcessEvent.monitor) = [] := by
  unfold hostEffects
  rw [List.filterMap_map, List.filterMap_eq_nil_iff]
  intro event _
  rfl

variable [DecidableEq κ]

/-- The events of one monitor in a trace. -/
def eventsOf (k : κ) (tr : List (ProcessEvent ms)) : List (MemberEvent (ms.cls k).Event) :=
  part k (tr.filterMap monitorEvent)

theorem eventsOf_append (k : κ) (tr out : List (ProcessEvent ms)) :
    eventsOf k (tr ++ out) = eventsOf k tr ++ eventsOf k out := by
  unfold eventsOf
  rw [List.filterMap_append, part_append]

@[simp] theorem eventsOf_host (k : κ) (effects : List HostEffect) :
    eventsOf k (effects.map (@ProcessEvent.host κ ms)) = [] := by
  have none : (effects.map (@ProcessEvent.host κ ms)).filterMap monitorEvent = [] := by
    rw [List.filterMap_map, List.filterMap_eq_nil_iff]
    intro effect _
    rfl
  unfold eventsOf
  rw [none, part_nil]

@[simp] theorem eventsOf_monitor (k : κ)
    (events : List (Sigma fun k => MemberEvent (ms.cls k).Event)) :
    eventsOf k (events.map ProcessEvent.monitor) = part k events := by
  have all : (events.map (@ProcessEvent.monitor κ ms)).filterMap monitorEvent = events := by
    rw [List.filterMap_map]
    exact List.filterMap_some
  unfold eventsOf
  rw [all]

open Monitors hiding sendHostOn checkMonitors

/-- What a step of the process is to one of its monitors. -/
inductive MemberStep (k : κ) (s s' : MonitorProcess ms) (out : List (ProcessEvent ms)) :
    ProcessInput ms → Prop where
  | delivered (i : HostInput) (meets : ∀ k, (ms.cls k).Meets) (effects : List HostEffect)
      (handled : hostMachine.step s.host i = some (s'.host, effects))
      (announced : hostEffects out = effects)
      (told : (ms.cls k).pointer.exec (s.monitors k, [])
        (recording (ms.cls k) s'.host effects ++
          Monitors.sendHostOn (ms.cls k) effects (meets k)) = some (s'.monitors k, eventsOf k out))
      (checked : .startMonitors ∈ effects → (s'.monitors k).any (ms.cls k).isValid = true) :
      MemberStep k s s' out (.deliver i meets)
  | own (i : (ms.cls k).Input) (same : s'.host = s.host) (silent : hostEffects out = [])
      (stepped : (ms.cls k).pointer.step (s.monitors k) (.own i) =
        some (s'.monitors k, eventsOf k out)) : MemberStep k s s' out (.monitor k i)
  | other (j : κ) (i : (ms.cls j).Input) (apart : j ≠ k) (same : s'.host = s.host)
      (silent : hostEffects out = []) (kept : s'.monitors k = s.monitors k)
      (none : eventsOf k out = []) : MemberStep k s s' out (.monitor j i)

/-- A pointer, and the events, when a delivery has recorded the host state. -/
def recordedIn (cls : MonitorClass) (host : HostState) (effects : List HostEffect)
    (s : Option cls.State) : Option cls.State × List (MemberEvent cls.Event) :=
  if .startMonitors ∈ effects then
    (some (cls.construct (hostIsOff host)).1,
      .constructed :: (cls.construct (hostIsOff host)).2.map .event)
  else (s.map (cls.hostState (hostIsOff host)), [])

theorem recording_exec (cls : MonitorClass) (host : HostState) (effects : List HostEffect)
    (s : Option cls.State) :
    cls.pointer.exec (s, []) (recording cls host effects) =
      some (recordedIn cls host effects s) := by
  unfold recording recordedIn
  split <;> rfl

/-- What a delivery does to a pointer: `hostOn` is called at most once, last. -/
theorem told_cases {cls : MonitorClass} {host : HostState} {effects : List HostEffect}
    {meets : cls.Meets} {s s' : Option cls.State} {out : List (MemberEvent cls.Event)}
    (told : cls.pointer.exec (s, [])
      (recording cls host effects ++ Monitors.sendHostOn cls effects meets) = some (s', out)) :
    (.sendHostOn ∉ effects ∧ recordedIn cls host effects s = (s', out)) ∨
    (.sendHostOn ∈ effects ∧ ∃ t t' events, (recordedIn cls host effects s).1 = some t ∧
      cls.hostOn meets t = some (t', events) ∧ s' = some t' ∧
      out = (recordedIn cls host effects s).2 ++ .hostOn :: events.map .event) := by
  obtain ⟨d, recorded, notified⟩ := cls.pointer.exec_append.mp told
  rw [recording_exec] at recorded
  have reached := Option.some.inj recorded
  unfold Monitors.sendHostOn at notified
  split at notified
  next sent =>
    obtain ⟨e, next, last⟩ := cls.pointer.exec_cons.mp notified
    obtain ⟨t', events, stepped, rfl⟩ := cls.pointer.next_some.mp next
    cases last
    rcases MonitorClass.pointer_step_cases stepped with ⟨_, h, _⟩ | ⟨_, h, _⟩ |
      ⟨w, t, t', events, h, present, called, rfl, rfl⟩ | ⟨_, _, _, _, h, _⟩
    · cases h
    · cases h
    · cases h
      exact Or.inr ⟨sent, t, t', events, by rw [reached]; exact present, called, rfl,
        by rw [reached]⟩
    · cases h
  next silent =>
    have same : d = (s', out) := by simpa using notified
    exact Or.inl ⟨silent, reached.trans same⟩

theorem sendHostOn_valid {cls : MonitorClass} {effects : List HostEffect} {meets : cls.Meets}
    {s s' : Option cls.State} {out : List (MemberEvent cls.Event)}
    (called : cls.pointer.exec (s, []) (Monitors.sendHostOn cls effects meets) = some (s', out)) :
    s'.any cls.isValid = s.any cls.isValid := by
  unfold Monitors.sendHostOn at called
  split at called
  · obtain ⟨e, next, last⟩ := cls.pointer.exec_cons.mp called
    obtain ⟨t', events, stepped, rfl⟩ := cls.pointer.next_some.mp next
    cases last
    rcases MonitorClass.pointer_step_cases stepped with ⟨_, h, _⟩ | ⟨_, h, _⟩ |
      ⟨w, t, t', events, _, present, notified, rfl, _⟩ | ⟨_, _, _, _, h, _⟩
    · cases h
    · cases h
    · cases present
      exact cls.hostOn_valid w t t' events notified
    · cases h
  · cases called
    rfl

theorem stepMember_cases {s s' : ∀ k, Option (ms.cls k).State} {j : κ} {i : (ms.cls j).Input}
    {out : List (Sigma fun k => MemberEvent (ms.cls k).Event)}
    (step : stepMember ms.pointers s j (.own i) = some (s', out)) (host : HostState) (k : κ) :
    MemberStep k ⟨host, s⟩ ⟨host, s'⟩ (out.map .monitor) (.monitor j i) := by
  obtain ⟨own, others⟩ := stepMember_part step
  by_cases same : j = k
  · subst same
    refine .own i rfl (hostEffects_monitor out) ?_
    rw [eventsOf_monitor]
    exact own
  · obtain ⟨kept, none⟩ := others k (Ne.symm same)
    exact .other j i same rfl (hostEffects_monitor out) kept (by rw [eventsOf_monitor, none])

/-- A delivery, once the host state is recorded with every monitor. -/
theorem deliver_eq {s : MonitorProcess ms} {i : HostInput} {meets : ∀ k, (ms.cls k).Meets}
    {host : HostState} {effects : List HostEffect} {monitors : ∀ k, Option (ms.cls k).State}
    {started : List (Sigma fun k => MemberEvent (ms.cls k).Event)}
    (handled : hostMachine.step s.host i = some (host, effects))
    (recorded : execAll ms.pointers (fun k => recording (ms.cls k) host effects) ms.order
      s.monitors = some (monitors, started)) :
    ms.process.step s (.deliver i meets) =
      if .startMonitors ∈ effects ∧ ms.checkMonitors monitors = false then none
      else
        match execAll ms.pointers (fun k => Monitors.sendHostOn (ms.cls k) effects (meets k)) ms.order
          monitors with
        | none => none
        | some (monitors, notified) =>
          some (⟨host, monitors⟩, effects.map .host ++ (started ++ notified).map .monitor) := by
  simp only [process, handled, recorded]

/-- Every step of the process is one of these to each monitor. -/
theorem member_step {s s' : MonitorProcess ms} {i : ProcessInput ms} {out : List (ProcessEvent ms)}
    (step : ms.process.step s i = some (s', out)) (k : κ) : MemberStep k s s' out i := by
  cases i with
  | deliver j meets =>
    simp only [process] at step
    split at step
    · cases step
    next host effects handled =>
      split at step
      · cases step
      next monitors started recorded =>
        split at step
        · cases step
        next passed =>
          split at step
          · cases step
          next monitors' notified called =>
            cases step
            have first := execAll_part recorded ms.once (ms.all k)
            have last := execAll_part called ms.once (ms.all k)
            have told := (ms.cls k).pointer.exec_join first last
            refine .delivered j meets effects handled ?_ ?_ fun starts => ?_
            · rw [hostEffects_append, hostEffects_host, hostEffects_monitor, List.append_nil]
            · rw [eventsOf_append, eventsOf_host, eventsOf_monitor, part_append, List.nil_append]
              exact told
            · rw [sendHostOn_valid last]
              have valid : ms.checkMonitors monitors = true := by simpa [starts] using passed
              exact List.all_eq_true.mp valid k (ms.all k)
  | monitor j i =>
    simp only [process] at step
    split at step
    · cases step
    next monitors out' stepped =>
      cases step
      exact stepMember_cases stepped s.host k

/-- What a step of the process is to the host state. -/
theorem process_step_host {s s' : MonitorProcess ms} {i : ProcessInput ms}
    {out : List (ProcessEvent ms)} (step : ms.process.step s i = some (s', out)) :
    (∃ j meets, i = .deliver j meets ∧
      hostMachine.step s.host j = some (s'.host, hostEffects out)) ∨
    (∃ k j, i = .monitor k j ∧ s'.host = s.host ∧ hostEffects out = []) := by
  cases i with
  | deliver j meets =>
    refine Or.inl ⟨j, meets, rfl, ?_⟩
    simp only [process] at step
    split at step
    · cases step
    next host effects handled =>
      split at step
      · cases step
      next monitors started recorded =>
        split at step
        · cases step
        next passed =>
          split at step
          · cases step
          next monitors' notified called =>
            cases step
            rw [hostEffects_append, hostEffects_host, hostEffects_monitor, List.append_nil]
            exact handled
  | monitor k j =>
    refine Or.inr ⟨k, j, rfl, ?_⟩
    simp only [process] at step
    split at step
    · cases step
    · cases step
      exact ⟨rfl, hostEffects_monitor _⟩

end process
end HostErrorMonitor.Spec
