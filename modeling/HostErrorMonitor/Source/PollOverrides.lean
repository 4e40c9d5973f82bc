import HostErrorMonitor.Source.GpioPollMonitor
import HostErrorMonitor.Source.Peci

/-!
A monitor that derives from the polling monitor. It overrides the virtual
`startPolling`, `assertHandler` and `deassertHandler` and inherits the rest, so
its runs are those of the base with its own functions at the points where the
base calls them. Those points are the events of the base.
-/
namespace HostErrorMonitor.Source
open Reactive

/-- The overrides, on the members of the derived class: what its `startPolling`
does before it calls the base's, and its two handlers as a whole. -/
structure PollOverrides (σ ε : Type) where
  startPolling : Peci → σ → σ × List ε
  assertHandler : Peci → σ → σ × List ε
  deassertHandler : σ → σ × List ε

structure DerivedMonitor (σ : Type) where
  base : BaseGPIOPollMonitor
  own : σ
  deriving DecidableEq, Repr

/-- `startPolling` marks the call of the virtual function, with the state of the
signal at that moment. -/
inductive DerivedEvent (ε : Type) where
  | startPolling (asserted : Bool)
  | base (event : PollEvent)
  | own (effect : ε)
  deriving DecidableEq, Repr

/-- What a handler meets: the PECI behaviour, the edges and the time while an
override of `startPolling` runs, and then what happens in the poll. -/
structure Surroundings where
  peci : Peci
  edges : Nat
  delay : Nat
  poll : Interference

section dispatch
variable {σ ε : Type} (o : PollOverrides σ ε) (peci : Peci)

/-- A call of the base goes to the override. -/
def dispatch (own : σ) : PollEvent → σ × List (DerivedEvent ε)
  | .assertHandler now timeoutMs =>
    let (own, effects) := o.assertHandler peci own
    (own, .base (.assertHandler now timeoutMs) :: effects.map .own)
  | .deassertHandler =>
    let (own, effects) := o.deassertHandler own
    (own, .base .deassertHandler :: effects.map .own)
  | event => (own, [.base event])

def dispatchAll : σ → List PollEvent → σ × List (DerivedEvent ε)
  | own, [] => (own, [])
  | own, event :: events =>
    let (own, out) := dispatch o peci own event
    let (own, rest) := dispatchAll own events
    (own, out ++ rest)

end dispatch

namespace DerivedMonitor
variable {σ ε : Type} (o : PollOverrides σ ε) (cfg : PollConfig) (w : Surroundings)
  (m : DerivedMonitor σ)

def poll : DerivedMonitor σ × List (DerivedEvent ε) :=
  let (base, events) := BaseGPIOPollMonitor.poll cfg w.poll m.base
  let (own, out) := dispatchAll o w.peci m.own events
  (⟨base, own⟩, out)

/-- The base after what happens while the override of `startPolling` runs. -/
def meanwhile (base : BaseGPIOPollMonitor) : BaseGPIOPollMonitor :=
  BaseGPIOPollMonitor.elapse w.delay (BaseGPIOPollMonitor.edges w.edges base)

def startPolling : DerivedMonitor σ × List (DerivedEvent ε) :=
  let (own, effects) := o.startPolling w.peci m.own
  let (base, events) := BaseGPIOPollMonitor.startPolling cfg w.poll (meanwhile w m.base)
  let (own, out) := dispatchAll o w.peci own events
  (⟨base, own⟩, .startPolling (BaseGPIOPollMonitor.asserted m.base) :: effects.map .own ++
    List.replicate w.edges (.base .edge) ++ out)

/-- The base's `hostOn` calls the virtual `startPolling`. -/
def hostOn : DerivedMonitor σ × List (DerivedEvent ε) :=
  let (m, out) := startPolling o cfg w { m with base := { m.base with eventWaits := 0 } }
  (m, .base .hostOn :: out)

end DerivedMonitor

open DerivedMonitor

/-- The inputs on which the base calls virtual functions. -/
def callsOverrides : PollInput → Bool
  | .hostOn _ => true
  | .hostTurnsOn _ => true
  | .eventHandler _ => true
  | .timerHandler _ => true
  | _ => false

inductive DerivedInput where
  | inherited (i : PollInput)
  | hostOn (w : Surroundings)
  | hostTurnsOn (w : Surroundings)
  | eventHandler (w : Surroundings)
  | timerHandler (w : Surroundings)

def derivedMachine {σ ε : Type} (o : PollOverrides σ ε) (cfg : PollConfig) :
    Machine (DerivedMonitor σ) DerivedInput (DerivedEvent ε) where
  step m
    | .inherited i =>
      if callsOverrides i then none
      else
        match (pollMachine cfg).step m.base i with
        | none => none
        | some (base, events) => some ({ m with base := base }, events.map .base)
    | .hostOn w => some (hostOn o cfg w m)
    | .hostTurnsOn w => some (hostOn o cfg w { m with base := { m.base with hostOff := false } })
    | .eventHandler w =>
      if 0 < m.base.eventReady then
        some (startPolling o cfg w
          { m with base := { m.base with eventReady := m.base.eventReady - 1 } })
      else none
    | .timerHandler w =>
      if 0 < m.base.timerReady then
        some (poll o cfg w { m with base := { m.base with timerReady := m.base.timerReady - 1 } })
      else none

/-- A line that was set up, and the surroundings in which a derived constructor
starts to poll. -/
structure ValidPollLine where
  setup : LineSetup
  valid : BaseGPIOPollMonitor.requestEvents setup = true
  clock : Int
  line : Bool
  unread : Nat
  hostOff : Bool
  start : Surroundings

/-- A derived constructor calls `startPolling` if the monitor is valid. -/
def ValidPollLine.initial {σ ε : Type} (l : ValidPollLine) (o : PollOverrides σ ε)
    (cfg : PollConfig) (timeoutMs : Nat) (own : σ) : DerivedMonitor σ × List (DerivedEvent ε) :=
  let base := BaseGPIOPollMonitor.construct l.setup timeoutMs l.clock l.line l.unread l.hostOff
  if base.valid then startPolling o cfg l.start ⟨base, own⟩ else (⟨base, own⟩, [])

theorem ValidPollLine.initial_eq {σ ε : Type} (l : ValidPollLine) (o : PollOverrides σ ε)
    (cfg : PollConfig) (timeoutMs : Nat) (own : σ) :
    l.initial o cfg timeoutMs own = startPolling o cfg l.start
      ⟨BaseGPIOPollMonitor.construct l.setup timeoutMs l.clock l.line l.unread l.hostOff, own⟩ := by
  have valid : (BaseGPIOPollMonitor.construct l.setup timeoutMs l.clock l.line l.unread
      l.hostOff).valid = true := l.valid
  unfold ValidPollLine.initial
  rw [if_pos valid]

namespace DerivedMonitor
open BaseGPIOPollMonitor (asserted edges elapse waitForEvent armTimer sees seen polled nextPoll)
variable {σ ε : Type} {o : PollOverrides σ ε}

theorem dispatchAll_append (peci : Peci) (own : σ) (first last : List PollEvent) :
    dispatchAll o peci own (first ++ last) =
      ((dispatchAll o peci (dispatchAll o peci own first).1 last).1,
        (dispatchAll o peci own first).2 ++
          (dispatchAll o peci (dispatchAll o peci own first).1 last).2) := by
  induction first generalizing own with
  | nil => simp [dispatchAll]
  | cons event first ih => simp [dispatchAll, ih]

/-- The events before the decision of a poll call nothing. -/
theorem dispatchAll_seen (peci : Peci) (own : σ) (env : Interference) (s : BaseGPIOPollMonitor) :
    dispatchAll o peci own (seen env s) = (own, (seen env s).map .base) := by
  have quiet : ∀ events : List PollEvent, (∀ x ∈ events, dispatch o peci own x = (own, [.base x])) →
      dispatchAll o peci own events = (own, events.map .base) := by
    intro events
    induction events with
    | nil => simp [dispatchAll]
    | cons event events ih =>
      intro each
      have rest := ih fun x member => each x (by simp [member])
      simp [dispatchAll, each event (by simp), rest]
  apply quiet
  intro x member
  rcases BaseGPIOPollMonitor.mem_seen member with rfl | rfl | rfl <;> rfl

/-- The three ways in which a poll ends, with the handlers of the derived class. -/
theorem poll_cases (o : PollOverrides σ ε) (cfg : PollConfig) (w : Surroundings)
    (m : DerivedMonitor σ) :
    (sees w.poll m.base = false ∧
      poll o cfg w m =
        (⟨waitForEvent (polled w.poll m.base), (o.deassertHandler m.own).1⟩,
          (seen w.poll m.base).map .base ++ .base .deassertHandler ::
            ((o.deassertHandler m.own).2.map .own ++ [.base .waitForEvent]))) ∨
    (sees w.poll m.base = true ∧ m.base.timeoutTime < m.base.clock + w.poll.delay ∧
      poll o cfg w m =
        (⟨waitForEvent (polled w.poll m.base), (o.assertHandler w.peci m.own).1⟩,
          (seen w.poll m.base).map .base ++
            .base (.assertHandler (m.base.clock + w.poll.delay) m.base.timeoutMs) ::
            ((o.assertHandler w.peci m.own).2.map .own ++ [.base .waitForEvent]))) ∨
    (sees w.poll m.base = true ∧ m.base.clock + w.poll.delay ≤ m.base.timeoutTime ∧
      poll o cfg w m =
        (⟨armTimer (nextPoll cfg w.poll m.base) (elapse w.poll.delayToArm (polled w.poll m.base)),
            m.own⟩,
          (seen w.poll m.base).map .base ++ [.base (.armTimer (nextPoll cfg w.poll m.base))])) := by
  unfold poll
  rcases BaseGPIOPollMonitor.poll_cases cfg w.poll m.base with ⟨saw, result⟩ |
    ⟨saw, late, result⟩ | ⟨saw, early, result⟩
  · refine Or.inl ⟨saw, ?_⟩
    simp only [result, dispatchAll_append, dispatchAll_seen]
    simp [dispatchAll, dispatch]
  · refine Or.inr (Or.inl ⟨saw, late, ?_⟩)
    simp only [result, dispatchAll_append, dispatchAll_seen]
    simp [dispatchAll, dispatch]
  · refine Or.inr (Or.inr ⟨saw, early, ?_⟩)
    simp only [result, dispatchAll_append, dispatchAll_seen]
    simp [dispatchAll, dispatch]

/-- The monitor in which the poll of a `startPolling` runs. -/
def restarted (o : PollOverrides σ ε) (cfg : PollConfig) (w : Surroundings)
    (m : DerivedMonitor σ) : DerivedMonitor σ :=
  ⟨BaseGPIOPollMonitor.restarted cfg (meanwhile w m.base), (o.startPolling w.peci m.own).1⟩

/-- What happens in a `startPolling` before its poll. -/
def starting (o : PollOverrides σ ε) (w : Surroundings) (m : DerivedMonitor σ) :
    List (DerivedEvent ε) :=
  .startPolling (asserted m.base) :: (o.startPolling w.peci m.own).2.map .own ++
    List.replicate w.edges (.base .edge) ++
    [.base (.startPolling (meanwhile w m.base).clock m.base.timeoutMs)]

theorem startPolling_eq (o : PollOverrides σ ε) (cfg : PollConfig) (w : Surroundings)
    (m : DerivedMonitor σ) :
    startPolling o cfg w m = ((poll o cfg w (restarted o cfg w m)).1,
      starting o w m ++ (poll o cfg w (restarted o cfg w m)).2) := by
  unfold startPolling starting poll
  simp only [BaseGPIOPollMonitor.startPolling_eq]
  simp [dispatchAll, dispatch, restarted, meanwhile, elapse, edges]

theorem mem_seen_base {env : Interference} {s : BaseGPIOPollMonitor} {x : DerivedEvent ε}
    (member : x ∈ (seen env s).map .base) :
    x = .base .flushEvents ∨ x = .base .edge ∨ x = .base (.asserted (sees env s)) := by
  obtain ⟨event, sample, rfl⟩ := List.mem_map.mp member
  rcases BaseGPIOPollMonitor.mem_seen sample with rfl | rfl | rfl
  · exact Or.inl rfl
  · exact Or.inr (Or.inl rfl)
  · exact Or.inr (Or.inr rfl)

/-- What a poll that runs a handler leaves after its sample. -/
theorem mem_handled {event : PollEvent} {effects : List ε} {x : DerivedEvent ε}
    (member : x ∈ .base event :: (effects.map .own ++ [.base .waitForEvent])) :
    x = .base event ∨ (∃ effect ∈ effects, x = .own effect) ∨ x = .base .waitForEvent := by
  rcases List.mem_cons.mp member with handler | later
  · exact Or.inl handler
  · rcases List.mem_append.mp later with handled | wait
    · obtain ⟨effect, among, same⟩ := List.mem_map.mp handled
      exact Or.inr (Or.inl ⟨effect, among, same.symm⟩)
    · exact Or.inr (Or.inr (List.mem_singleton.mp wait))

theorem mem_starting {w : Surroundings} {m : DerivedMonitor σ} {x : DerivedEvent ε}
    (member : x ∈ starting o w m) :
    x = .startPolling (asserted m.base) ∨
      (∃ effect ∈ (o.startPolling w.peci m.own).2, x = .own effect) ∨ x = .base .edge ∨
      x = .base (.startPolling (meanwhile w m.base).clock m.base.timeoutMs) := by
  rcases List.mem_append.mp member with before | start
  · rcases List.mem_append.mp before with called | edges
    · rcases List.mem_cons.mp called with call | own
      · exact Or.inl call
      · obtain ⟨effect, among, same⟩ := List.mem_map.mp own
        exact Or.inr (Or.inl ⟨effect, among, same.symm⟩)
    · exact Or.inr (Or.inr (Or.inl (List.eq_of_mem_replicate edges)))
  · exact Or.inr (Or.inr (Or.inr (List.mem_singleton.mp start)))

/-- A poll leaves effects of its handlers, and events of the base that start nothing. -/
theorem mem_poll {cfg : PollConfig} {w : Surroundings} {m : DerivedMonitor σ} {x : DerivedEvent ε}
    (member : x ∈ (poll o cfg w m).2) :
    (∃ event, x = .base event ∧ ∀ now timeoutMs, event ≠ .startPolling now timeoutMs) ∨
      ∃ effect, x = .own effect ∧
        (effect ∈ (o.assertHandler w.peci m.own).2 ∨ effect ∈ (o.deassertHandler m.own).2) := by
  have sample : ∀ x ∈ (seen w.poll m.base).map (DerivedEvent.base (ε := ε)),
      ∃ event, x = .base event ∧ ∀ now timeoutMs, event ≠ .startPolling now timeoutMs := by
    intro x member
    rcases mem_seen_base member with rfl | rfl | rfl <;> exact ⟨_, rfl, nofun⟩
  rcases poll_cases o cfg w m with ⟨_, result⟩ | ⟨_, _, result⟩ | ⟨_, _, result⟩
  · rw [result] at member
    rcases List.mem_append.mp member with seen | handled
    · exact Or.inl (sample x seen)
    · rcases mem_handled handled with rfl | ⟨effect, among, rfl⟩ | rfl
      · exact Or.inl ⟨_, rfl, nofun⟩
      · exact Or.inr ⟨effect, rfl, Or.inr among⟩
      · exact Or.inl ⟨_, rfl, nofun⟩
  · rw [result] at member
    rcases List.mem_append.mp member with seen | handled
    · exact Or.inl (sample x seen)
    · rcases mem_handled handled with rfl | ⟨effect, among, rfl⟩ | rfl
      · exact Or.inl ⟨_, rfl, nofun⟩
      · exact Or.inr ⟨effect, rfl, Or.inl among⟩
      · exact Or.inl ⟨_, rfl, nofun⟩
  · rw [result] at member
    rcases List.mem_append.mp member with seen | armed
    · exact Or.inl (sample x seen)
    · exact Or.inl ⟨_, List.mem_singleton.mp armed, nofun⟩

/-- A poll writes neither the timeout nor the deadline. -/
theorem poll_timeout (o : PollOverrides σ ε) (cfg : PollConfig) (w : Surroundings)
    (m : DerivedMonitor σ) : (poll o cfg w m).1.base.timeoutMs = m.base.timeoutMs ∧
      (poll o cfg w m).1.base.timeoutTime = m.base.timeoutTime := by
  rcases poll_cases o cfg w m with ⟨_, result⟩ | ⟨_, _, result⟩ | ⟨_, _, result⟩
  · rw [result]
    simp [waitForEvent]
  · rw [result]
    simp [waitForEvent]
  · rw [result]
    simp [armTimer, elapse]

end DerivedMonitor

/-- The input of the base that a step answers. -/
def DerivedInput.toBase : DerivedInput → PollInput
  | .inherited i => i
  | .hostOn w => .hostOn w.poll
  | .hostTurnsOn w => .hostTurnsOn w.poll
  | .eventHandler w => .eventHandler w.poll
  | .timerHandler w => .timerHandler w.poll

/-- The base when the override of `startPolling`, if the step calls it, is through. -/
def DerivedInput.entered (base : BaseGPIOPollMonitor) : DerivedInput → BaseGPIOPollMonitor
  | .inherited _ => base
  | .hostOn w => meanwhile w base
  | .hostTurnsOn w => meanwhile w base
  | .eventHandler w => meanwhile w base
  | .timerHandler _ => base

/-- The call of `startPolling` in a step: its surroundings and the monitor then. -/
def DerivedInput.starts {σ : Type} (m : DerivedMonitor σ) :
    DerivedInput → Option (Surroundings × DerivedMonitor σ)
  | .hostOn w => some (w, { m with base := { m.base with eventWaits := 0 } })
  | .hostTurnsOn w =>
    some (w, { m with base := { m.base with hostOff := false, eventWaits := 0 } })
  | .eventHandler w =>
    some (w, { m with base := { m.base with eventReady := m.base.eventReady - 1 } })
  | .inherited _ => none
  | .timerHandler _ => none

section steps
variable {σ ε : Type} {o : PollOverrides σ ε} {cfg : PollConfig} {m m' : DerivedMonitor σ}
  {i : DerivedInput} {out : List (DerivedEvent ε)}

/-- What one step can do, guards included. -/
theorem derived_step_cases (step : (derivedMachine o cfg).step m i = some (m', out)) :
    (∃ j base events, i = .inherited j ∧ callsOverrides j = false ∧
      (pollMachine cfg).step m.base j = some (base, events) ∧
      m' = { m with base := base } ∧ out = events.map .base) ∨
    (∃ w m₁ announced, i.starts m = some (w, m₁) ∧ (∀ x ∈ announced, x = .base .hostOn) ∧
      ((∃ v, i = .eventHandler v) → 0 < m.base.eventReady) ∧
      m' = (startPolling o cfg w m₁).1 ∧ out = announced ++ (startPolling o cfg w m₁).2) ∨
    (∃ w, i = .timerHandler w ∧ 0 < m.base.timerReady ∧
      poll o cfg w { m with base := { m.base with timerReady := m.base.timerReady - 1 } } =
        (m', out)) := by
  cases i with
  | inherited j =>
    simp only [derivedMachine] at step
    split at step
    · cases step
    next inherited =>
      split at step
      · cases step
      next base events answered =>
        cases step
        exact Or.inl ⟨j, base, events, rfl, by simpa using inherited, answered, rfl, rfl⟩
  | hostOn w =>
    cases step
    exact Or.inr (Or.inl ⟨w, _, [.base .hostOn], rfl, by simp, by simp, rfl, rfl⟩)
  | hostTurnsOn w =>
    cases step
    exact Or.inr (Or.inl ⟨w, _, [.base .hostOn], rfl, by simp, by simp, rfl, rfl⟩)
  | eventHandler w =>
    simp only [derivedMachine] at step
    split at step
    next queued =>
      cases step
      exact Or.inr (Or.inl ⟨w, _, [], rfl, by simp, fun _ => queued, rfl, rfl⟩)
    · cases step
  | timerHandler w =>
    simp only [derivedMachine] at step
    split at step
    next queued => exact Or.inr (Or.inr ⟨w, rfl, queued, Option.some.inj step⟩)
    · cases step

/-- A step that calls no override leaves the deadline as it is, writes the timeout
only if that is its input, and neither makes a timer pending nor drops one. -/
theorem inherited_step {base base' : BaseGPIOPollMonitor} {j : PollInput} {events : List PollEvent}
    (inherited : callsOverrides j = false)
    (step : (pollMachine cfg).step base j = some (base', events)) :
    (events = [] ∨ events = [.edge]) ∧ base'.timeoutTime = base.timeoutTime ∧
      (base'.timeoutMs = base.timeoutMs ∨ j = .setTimeoutMs base'.timeoutMs) ∧
      (base'.timerWait ≠ none ∨ 0 < base'.timerReady ↔
        base.timerWait ≠ none ∨ 0 < base.timerReady) := by
  rcases poll_step_cases step with ⟨rfl, rfl, rfl⟩ | ⟨ns, rfl, rfl, rfl⟩ | ⟨ms, rfl, rfl, rfl⟩ |
    ⟨off, rfl, rfl, rfl⟩ | ⟨rfl, _, _, rfl, rfl⟩ | ⟨expiry, rfl, waiting, _, rfl, rfl⟩ |
    ⟨env, off, ⟨rfl, _⟩ | ⟨rfl, _⟩, _⟩ | ⟨env, rfl, _⟩ | ⟨env, rfl, _⟩
  · exact ⟨Or.inr rfl, rfl, Or.inl rfl, Iff.rfl⟩
  · exact ⟨Or.inl rfl, rfl, Or.inl rfl, Iff.rfl⟩
  · exact ⟨Or.inl rfl, rfl, Or.inr rfl, Iff.rfl⟩
  · exact ⟨Or.inl rfl, rfl, Or.inl rfl, Iff.rfl⟩
  · exact ⟨Or.inl rfl, rfl, Or.inl rfl, Iff.rfl⟩
  · -- the wait is gone and its success handler queued
    refine ⟨Or.inl rfl, rfl, Or.inl rfl, ?_⟩
    simp only [waiting]
    exact ⟨fun _ => Or.inl (Option.some_ne_none expiry), fun _ => Or.inr (Nat.succ_pos _)⟩
  all_goals cases inherited

/-- To its base, a derived monitor is one that makes the base's own step. -/
theorem derived_step_base (step : (derivedMachine o cfg).step m i = some (m', out)) :
    ∃ events, (pollMachine cfg).step (i.entered m.base) i.toBase = some (m'.base, events) := by
  rcases derived_step_cases step with ⟨j, base, events, rfl, _, answered, rfl, _⟩ |
    ⟨w, m₁, announced, started, _, queued, rfl, _⟩ | ⟨w, rfl, queued, run⟩
  · exact ⟨events, answered⟩
  · cases i with
    | hostOn v =>
      cases started
      exact ⟨_, rfl⟩
    | hostTurnsOn v =>
      cases started
      exact ⟨_, rfl⟩
    | eventHandler v =>
      cases started
      exact ⟨_, if_pos (queued ⟨w, rfl⟩)⟩
    | inherited j => cases started
    | timerHandler v => cases started
  · cases run
    exact ⟨_, if_pos queued⟩

end steps
end HostErrorMonitor.Source
