import HostErrorMonitor.Source.BaseMonitor
import HostErrorMonitor.Source.GpioPollMonitor

/-!
The edge-driven monitor (base_gpio_monitor.hpp): the line with its event queue,
the asio wait on it, and the virtual handlers of a derived monitor, which write
what that monitor publishes. The queue starts to fill when the line is requested
and is read one event at a time, by the success handler of a wait. A handler
looks at the oldest event only, so an edge that comes while it runs acts as one
right after it.
-/
namespace HostErrorMonitor.Source
open Reactive

inductive AssertValue where
  | lowAssert
  | highAssert
  deriving DecidableEq, Repr

inductive LineEvent where
  | risingEdge
  | fallingEdge
  deriving DecidableEq, Repr

/-- A requested line: its level, and whether it was requested with FLAG_ACTIVE_LOW. -/
structure GpioLine where
  high : Bool
  activeLow : Bool
  deriving DecidableEq, Repr

def GpioLine.getValue (line : GpioLine) : Bool := line.high ^^ line.activeLow

/-- With FLAG_ACTIVE_LOW the kernel inverts the edges as it does the value. -/
def GpioLine.toggle (line : GpioLine) : GpioLine × LineEvent :=
  let line := { line with high := !line.high }
  (line, if line.getValue then .risingEdge else .fallingEdge)

/-- The virtual handlers as a derived monitor overrides them, on what it
publishes, with the entries they log. -/
structure GPIOHandlers (π : Type) where
  assertHandler : π → π × List LogEntry
  deassertHandler : π → π × List LogEntry

structure BaseGPIOMonitor (π : Type) where
  valid : Bool
  line : GpioLine
  unread : List LineEvent
  monitoring : Bool
  eventWaits : Nat
  eventReady : Nat
  published : π
  deriving DecidableEq, Repr

inductive GPIOEvent where
  | edge (asserted : Bool)
  | assertHandler
  | deassertHandler
  | logMessage (entry : LogEntry)
  | waitForEvent
  deriving DecidableEq, Repr

namespace BaseGPIOMonitor

/-- `requestEvents` is that of the polling monitor, but for `non_blocking`. -/
def requestEvents (setup : LineSetup) : Bool := BaseGPIOPollMonitor.requestEvents setup

/-- The constructor, on a line at the given level. -/
def construct {π : Type} (setup : LineSetup) (assertValue : AssertValue) (high : Bool)
    (published : π) : BaseGPIOMonitor π where
  valid := requestEvents setup
  line := { high := high, activeLow := assertValue != .highAssert }
  unread := []
  monitoring := false
  eventWaits := 0
  eventReady := 0
  published := published

variable {π : Type} (h : GPIOHandlers π)

def asserted (s : BaseGPIOMonitor π) : Bool := s.line.getValue

/-- The handlers of a monitor that overrides `logEvent` and `deassertHandler`:
the inherited `assertHandler` calls `logEvent` and does nothing else. -/
def inherited (logEvent deassertHandler : π → π × List LogEntry) : GPIOHandlers π where
  assertHandler := logEvent
  deassertHandler := deassertHandler

def edge (s : BaseGPIOMonitor π) : BaseGPIOMonitor π × List GPIOEvent :=
  let (line, event) := s.line.toggle
  ({ s with line := line, unread := s.unread ++ [event] }, [.edge line.getValue])

def checkEvent (assertEvent : Bool) (s : BaseGPIOMonitor π) : BaseGPIOMonitor π × List GPIOEvent :=
  if assertEvent then
    let (published, entries) := h.assertHandler s.published
    ({ s with published := published }, .assertHandler :: entries.map .logMessage)
  else
    let (published, entries) := h.deassertHandler s.published
    ({ s with published := published }, .deassertHandler :: entries.map .logMessage)

def waitForEvent (s : BaseGPIOMonitor π) : BaseGPIOMonitor π × List GPIOEvent :=
  ({ s with eventWaits := s.eventWaits + 1 }, [.waitForEvent])

/-- `line.event_read()`; on an empty queue it would block. -/
def eventRead (s : BaseGPIOMonitor π) : Option (LineEvent × BaseGPIOMonitor π) :=
  match s.unread with
  | [] => none
  | event :: rest => some (event, { s with unread := rest })

/-- The success handler of a wait. -/
def eventHandler (s : BaseGPIOMonitor π) : Option (BaseGPIOMonitor π × List GPIOEvent) :=
  match eventRead s with
  | none => none
  | some (gpioLineEvent, s) =>
    let (s, handled) := checkEvent h (gpioLineEvent == .risingEdge) s
    let (s, waits) := waitForEvent s
    some (s, handled ++ waits)

def startMonitoring (s : BaseGPIOMonitor π) : BaseGPIOMonitor π × List GPIOEvent :=
  let (s, handled) := checkEvent h (asserted s) s
  let (s, waits) := waitForEvent s
  (s, handled ++ waits)

end BaseGPIOMonitor

open BaseGPIOMonitor

inductive GPIOInput where
  | edge
  | startMonitoring
  | eventCompletes
  | eventFails
  | eventHandler
  deriving DecidableEq, Repr

/-- The derived constructors call `startMonitoring` on a valid monitor, once. The
handler of a wait that fails prints and returns. -/
def gpioMachine {π : Type} (h : GPIOHandlers π) :
    Machine (BaseGPIOMonitor π) GPIOInput GPIOEvent where
  step s
    | .edge => some (edge s)
    | .startMonitoring =>
      if s.valid ∧ s.monitoring = false then some (startMonitoring h { s with monitoring := true })
      else none
    | .eventCompletes =>
      if 0 < s.eventWaits ∧ s.unread ≠ [] then
        some ({ s with eventWaits := s.eventWaits - 1, eventReady := s.eventReady + 1 }, [])
      else none
    | .eventFails =>
      if 0 < s.eventWaits then some ({ s with eventWaits := s.eventWaits - 1 }, []) else none
    | .eventHandler =>
      if 0 < s.eventReady then eventHandler h { s with eventReady := s.eventReady - 1 } else none

/-- A line that was set up, and the level the monitor met. -/
structure ValidLine where
  setup : LineSetup
  valid : BaseGPIOMonitor.requestEvents setup = true
  high : Bool

/-- The monitor as its line has been requested. -/
def ValidLine.initial {π : Type} (l : ValidLine) (assertValue : AssertValue) (published : π) :
    BaseGPIOMonitor π × List GPIOEvent :=
  (construct l.setup assertValue l.high published, [])

/-- The line was asserted when it was requested. -/
def ValidLine.assertedAtRequest (l : ValidLine) (assertValue : AssertValue) : Bool :=
  asserted (construct l.setup assertValue l.high ())

namespace BaseGPIOMonitor
variable {π : Type}

/-- What a derived handler writes and logs. -/
def handled (h : GPIOHandlers π) (assertEvent : Bool) (published : π) : π × List LogEntry :=
  if assertEvent then h.assertHandler published else h.deassertHandler published

def handlerEvent (assertEvent : Bool) : GPIOEvent :=
  if assertEvent then .assertHandler else .deassertHandler

/-- A handler that runs, up to the next wait. -/
def handling (h : GPIOHandlers π) (assertEvent : Bool) (published : π) : List GPIOEvent :=
  handlerEvent assertEvent :: (handled h assertEvent published).2.map .logMessage ++ [.waitForEvent]

theorem handlerEvent_injective : Function.Injective handlerEvent := by
  intro a b same
  cases a <;> cases b <;> first | rfl | cases same

theorem checkEvent_eq (h : GPIOHandlers π) (assertEvent : Bool) (s : BaseGPIOMonitor π) :
    checkEvent h assertEvent s = ({ s with published := (handled h assertEvent s.published).1 },
      handlerEvent assertEvent :: (handled h assertEvent s.published).2.map .logMessage) := by
  cases assertEvent <;> rfl

theorem edge_eq (s : BaseGPIOMonitor π) :
    edge s = ({ s with
        line := { s.line with high := !s.line.high }
        unread := s.unread ++ [if asserted s then .fallingEdge else .risingEdge] },
      [.edge (!asserted s)]) := by
  obtain ⟨valid, ⟨high, activeLow⟩, unread, monitoring, eventWaits, eventReady, published⟩ := s
  cases high <;> cases activeLow <;> rfl

@[simp] theorem edge_asserted (s : BaseGPIOMonitor π) : asserted (edge s).1 = !asserted s := by
  obtain ⟨valid, ⟨high, activeLow⟩, unread, monitoring, eventWaits, eventReady, published⟩ := s
  cases high <;> cases activeLow <;> rfl

@[simp] theorem edge_monitoring (s : BaseGPIOMonitor π) :
    (edge s).1.monitoring = s.monitoring := rfl

@[simp] theorem edge_eventWaits (s : BaseGPIOMonitor π) :
    (edge s).1.eventWaits = s.eventWaits := rfl

@[simp] theorem edge_eventReady (s : BaseGPIOMonitor π) :
    (edge s).1.eventReady = s.eventReady := rfl

@[simp] theorem edge_published (s : BaseGPIOMonitor π) :
    (edge s).1.published = s.published := rfl

end BaseGPIOMonitor

/-- What one step can do, guards included. -/
theorem gpio_step_cases {π : Type} {h : GPIOHandlers π} {s s' : BaseGPIOMonitor π} {i : GPIOInput}
    {out : List GPIOEvent} (step : (gpioMachine h).step s i = some (s', out)) :
    (i = .edge ∧ out = [.edge (!asserted s)] ∧ s' = (edge s).1) ∨
    (i = .startMonitoring ∧ s.valid = true ∧ s.monitoring = false ∧
      out = handling h (asserted s) s.published ∧
      s' = { s with
        monitoring := true
        eventWaits := s.eventWaits + 1
        published := (handled h (asserted s) s.published).1 }) ∨
    (i = .eventCompletes ∧ 0 < s.eventWaits ∧ s.unread ≠ [] ∧ out = [] ∧
      s' = { s with eventWaits := s.eventWaits - 1, eventReady := s.eventReady + 1 }) ∨
    (i = .eventFails ∧ 0 < s.eventWaits ∧ out = [] ∧
      s' = { s with eventWaits := s.eventWaits - 1 }) ∨
    (∃ event rest, i = .eventHandler ∧ 0 < s.eventReady ∧ s.unread = event :: rest ∧
      out = handling h (event == .risingEdge) s.published ∧
      s' = { s with
        unread := rest
        eventWaits := s.eventWaits + 1
        eventReady := s.eventReady - 1
        published := (handled h (event == .risingEdge) s.published).1 }) := by
  cases i with
  | edge =>
    have moved : edge s = (s', out) := Option.some.inj step
    have traced : (edge s).2 = [.edge (!asserted s)] := by rw [edge_eq]
    rw [moved] at traced
    exact Or.inl ⟨rfl, traced, by rw [moved]⟩
  | startMonitoring =>
    simp only [gpioMachine, startMonitoring, checkEvent_eq, waitForEvent] at step
    split at step
    next idle =>
      cases step
      exact Or.inr (Or.inl ⟨rfl, idle.1, idle.2, rfl, rfl⟩)
    · cases step
  | eventCompletes =>
    simp only [gpioMachine] at step
    split at step
    next enabled =>
      cases step
      exact Or.inr (Or.inr (Or.inl ⟨rfl, enabled.1, enabled.2, rfl, rfl⟩))
    · cases step
  | eventFails =>
    simp only [gpioMachine] at step
    split at step
    next waiting =>
      cases step
      exact Or.inr (Or.inr (Or.inr (Or.inl ⟨rfl, waiting, rfl, rfl⟩)))
    · cases step
  | eventHandler =>
    simp only [gpioMachine] at step
    split at step
    next queued =>
      simp only [eventHandler, eventRead, checkEvent_eq, waitForEvent] at step
      cases queue : s.unread with
      | nil => simp [queue] at step
      | cons event rest =>
        simp only [queue, Option.some.injEq, Prod.mk.injEq] at step
        exact Or.inr (Or.inr (Or.inr (Or.inr
          ⟨event, rest, rfl, queued, rfl, step.2.symm, step.1.symm⟩)))
    · cases step

end HostErrorMonitor.Source
