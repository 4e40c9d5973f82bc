import Mathlib.Algebra.Group.Nat.Defs
import HostErrorMonitor.Reactive.Machine

/-!
The polling monitor (base_gpio_poll_monitor.hpp) with the asio operations it
uses and its surroundings: the line, the kernel's event queue, the clock and the
recorded host state. `line` is what `get_value` returns, so it is true while the
signal is asserted, whichever level that is. Times are in nanoseconds. A wait is
outstanding until it completes, and its success handler is then queued; a
cancelled wait only runs a handler that returns, so it is simply gone.
-/
namespace HostErrorMonitor.Source
open Reactive

/-- What the GPIO chip answers to `find_line`, `request` and `event_get_fd`. -/
structure LineSetup where
  found : Bool
  requested : Bool
  lineFd : Int
  deriving DecidableEq, Repr

/-- The constants of a monitor, and the width of `int`. -/
structure PollConfig where
  pollingTimeMs : Nat
  intBits : Nat
  intBits_ge : 32 ≤ intBits

structure BaseGPIOPollMonitor where
  timeoutMs : Nat
  timeoutTime : Int
  valid : Bool
  eventWaits : Nat
  eventReady : Nat
  timerWait : Option Int
  timerReady : Nat
  clock : Int
  line : Bool
  unread : Nat
  hostOff : Bool
  deriving DecidableEq, Repr

inductive PollEvent where
  | edge
  | hostOn
  | startPolling (now : Int) (timeoutMs : Nat)
  | flushEvents
  | asserted (value : Bool)
  | deassertHandler
  | assertHandler (now : Int) (timeoutMs : Nat)
  | waitForEvent
  | armTimer (expiry : Int)
  deriving DecidableEq, Repr

/-- What happens while one `poll()` runs: edges between the flush and the level
read, edges after the read, and the time until the clock is read and until the
timer is armed. -/
structure Interference where
  edgesBeforeRead : Nat
  edgesAfterRead : Nat
  delay : Nat
  delayToArm : Nat
  deriving DecidableEq, Repr

def nanoseconds (ms : Int) : Int := ms * 1000000

/-- `std::chrono::duration<int, std::milli>(timeoutMs)`: the count is narrowed to `int`. -/
def intMilliseconds (cfg : PollConfig) (timeoutMs : Nat) : Int :=
  (timeoutMs : Int).bmod (2 ^ cfg.intBits)

namespace BaseGPIOPollMonitor

def requestEvents (setup : LineSetup) : Bool :=
  if !setup.found then false
  else if !setup.requested then false
  else if setup.lineFd < 0 then false
  else true

/-- The constructor, with the surroundings it meets. -/
def construct (setup : LineSetup) (timeoutMs : Nat) (clock : Int) (line : Bool)
    (unread : Nat) (hostOff : Bool) : BaseGPIOPollMonitor where
  timeoutMs := timeoutMs
  timeoutTime := 0
  valid := requestEvents setup
  eventWaits := 0
  eventReady := 0
  timerWait := none
  timerReady := 0
  clock := clock
  line := line
  unread := unread
  hostOff := hostOff

/-- Edges of the line; each leaves an event in the queue. -/
def edges (n : Nat) (s : BaseGPIOPollMonitor) : BaseGPIOPollMonitor :=
  { s with line := s.line ^^ (n % 2 == 1), unread := s.unread + n }

def elapse (ns : Nat) (s : BaseGPIOPollMonitor) : BaseGPIOPollMonitor :=
  { s with clock := s.clock + ns }

/-- `line.event_read()`; it throws when the queue is empty. -/
def eventRead (s : BaseGPIOPollMonitor) : Option BaseGPIOPollMonitor :=
  if s.unread = 0 then none else some { s with unread := s.unread - 1 }

/-- The endless loop of `flushEvents`, for at most `fuel` reads. -/
def flushLoop : Nat → BaseGPIOPollMonitor → BaseGPIOPollMonitor
  | 0, s => s
  | fuel + 1, s =>
    match eventRead s with
    | none => s
    | some s => flushLoop fuel s

def flushEvents (s : BaseGPIOPollMonitor) : BaseGPIOPollMonitor := flushLoop (s.unread + 1) s

def asserted (s : BaseGPIOPollMonitor) : Bool := if s.hostOff then false else s.line

def waitForEvent (s : BaseGPIOPollMonitor) : BaseGPIOPollMonitor :=
  { s with eventWaits := s.eventWaits + 1 }

/-- `expires_after` drops the wait that is outstanding, `async_wait` starts one. -/
def armTimer (expiry : Int) (s : BaseGPIOPollMonitor) : BaseGPIOPollMonitor :=
  { s with timerWait := some expiry }

def poll (cfg : PollConfig) (env : Interference) (s : BaseGPIOPollMonitor) :
    BaseGPIOPollMonitor × List PollEvent :=
  let s := flushEvents s
  let s := edges env.edgesBeforeRead s
  let value := asserted s
  let s := elapse env.delay (edges env.edgesAfterRead s)
  let seen := .flushEvents :: List.replicate env.edgesBeforeRead .edge ++
    .asserted value :: List.replicate env.edgesAfterRead .edge
  if !value then
    (waitForEvent s, seen ++ [.deassertHandler, .waitForEvent])
  else if s.clock > s.timeoutTime then
    (waitForEvent s, seen ++ [.assertHandler s.clock s.timeoutMs, .waitForEvent])
  else
    let s := elapse env.delayToArm s
    let expiry := s.clock + nanoseconds cfg.pollingTimeMs
    (armTimer expiry s, seen ++ [.armTimer expiry])

def startPolling (cfg : PollConfig) (env : Interference) (s : BaseGPIOPollMonitor) :
    BaseGPIOPollMonitor × List PollEvent :=
  let s := { s with timeoutTime := s.clock + nanoseconds (intMilliseconds cfg s.timeoutMs) }
  let (s', out) := poll cfg env s
  (s', .startPolling s.clock s.timeoutMs :: out)

def hostOn (cfg : PollConfig) (env : Interference) (s : BaseGPIOPollMonitor) :
    BaseGPIOPollMonitor × List PollEvent :=
  -- event.cancel() aborts the waits; a success handler that is queued still runs
  let s := { s with eventWaits := 0 }
  let (s, out) := startPolling cfg env s
  (s, .hostOn :: out)

def getTimeoutMs (s : BaseGPIOPollMonitor) : Nat := s.timeoutMs

def setTimeoutMs (newTimeoutMs : Nat) (s : BaseGPIOPollMonitor) : BaseGPIOPollMonitor :=
  { s with timeoutMs := newTimeoutMs }

theorem flushLoop_eq (fuel : Nat) (s : BaseGPIOPollMonitor) (enough : s.unread < fuel) :
    flushLoop fuel s = { s with unread := 0 } := by
  induction fuel generalizing s with
  | zero => omega
  | succ fuel ih =>
    unfold flushLoop eventRead
    split
    · next h =>
      split at h
      · next empty => rw [← empty]
      · cases h
    · next s' h =>
      split at h
      · cases h
      · cases h
        rw [ih _ (by simp only; omega)]

/-- The loop ends, with the queue read empty. -/
theorem flushEvents_eq (s : BaseGPIOPollMonitor) : flushEvents s = { s with unread := 0 } :=
  flushLoop_eq _ s (Nat.lt_succ_self _)

/-- The state in which the poll of a `startPolling` runs. -/
def restarted (cfg : PollConfig) (s : BaseGPIOPollMonitor) : BaseGPIOPollMonitor :=
  { s with timeoutTime := s.clock + nanoseconds (intMilliseconds cfg s.timeoutMs) }

theorem startPolling_eq (cfg : PollConfig) (env : Interference) (s : BaseGPIOPollMonitor) :
    startPolling cfg env s = ((poll cfg env (restarted cfg s)).1,
      .startPolling s.clock s.timeoutMs :: (poll cfg env (restarted cfg s)).2) := rfl

theorem hostOn_eq (cfg : PollConfig) (env : Interference) (s : BaseGPIOPollMonitor) :
    hostOn cfg env s = ((poll cfg env (restarted cfg { s with eventWaits := 0 })).1,
      .hostOn :: .startPolling s.clock s.timeoutMs ::
        (poll cfg env (restarted cfg { s with eventWaits := 0 })).2) := rfl

/-- What `asserted()` returns in a poll. -/
def sees (env : Interference) (s : BaseGPIOPollMonitor) : Bool :=
  asserted (edges env.edgesBeforeRead (flushEvents s))

/-- The state in which a poll reads the clock. -/
def polled (env : Interference) (s : BaseGPIOPollMonitor) : BaseGPIOPollMonitor :=
  elapse env.delay (edges env.edgesAfterRead (edges env.edgesBeforeRead (flushEvents s)))

/-- What happens in a poll between its flush and its decision. -/
def sampled (env : Interference) (s : BaseGPIOPollMonitor) : List PollEvent :=
  List.replicate env.edgesBeforeRead .edge ++
    .asserted (sees env s) :: List.replicate env.edgesAfterRead .edge

/-- What happens in a poll up to its decision. -/
def seen (env : Interference) (s : BaseGPIOPollMonitor) : List PollEvent :=
  .flushEvents :: sampled env s

theorem mem_sampled {env : Interference} {s : BaseGPIOPollMonitor} {x : PollEvent}
    (member : x ∈ sampled env s) :
    x = .edge ∧ 0 < env.edgesBeforeRead + env.edgesAfterRead ∨ x = .asserted (sees env s) := by
  simp only [sampled, List.mem_append, List.mem_cons, List.mem_replicate] at member
  rcases member with ⟨some, rfl⟩ | rfl | ⟨some, rfl⟩
  · exact Or.inl ⟨rfl, by omega⟩
  · exact Or.inr rfl
  · exact Or.inl ⟨rfl, by omega⟩

theorem edge_mem_sampled {env : Interference} {s : BaseGPIOPollMonitor}
    (some : 0 < env.edgesBeforeRead + env.edgesAfterRead) : .edge ∈ sampled env s := by
  rcases Nat.eq_zero_or_pos env.edgesBeforeRead with none_before | before
  · have after : env.edgesAfterRead ≠ 0 := by omega
    simp [sampled, after]
  · have before : env.edgesBeforeRead ≠ 0 := by omega
    simp [sampled, before]

theorem mem_seen {env : Interference} {s : BaseGPIOPollMonitor} {x : PollEvent}
    (member : x ∈ seen env s) : x = .flushEvents ∨ x = .edge ∨ x = .asserted (sees env s) := by
  rcases List.mem_cons.mp member with flush | sample
  · exact Or.inl flush
  · exact Or.inr ((mem_sampled sample).imp_left And.left)

/-- The time for which a poll that goes on arms the timer. -/
def nextPoll (cfg : PollConfig) (env : Interference) (s : BaseGPIOPollMonitor) : Int :=
  s.clock + env.delay + env.delayToArm + nanoseconds cfg.pollingTimeMs

@[simp] theorem polled_timeoutMs (env : Interference) (s : BaseGPIOPollMonitor) :
    (polled env s).timeoutMs = s.timeoutMs := by simp [polled, elapse, edges, flushEvents_eq]

@[simp] theorem polled_timeoutTime (env : Interference) (s : BaseGPIOPollMonitor) :
    (polled env s).timeoutTime = s.timeoutTime := by simp [polled, elapse, edges, flushEvents_eq]

@[simp] theorem polled_eventWaits (env : Interference) (s : BaseGPIOPollMonitor) :
    (polled env s).eventWaits = s.eventWaits := by simp [polled, elapse, edges, flushEvents_eq]

@[simp] theorem polled_eventReady (env : Interference) (s : BaseGPIOPollMonitor) :
    (polled env s).eventReady = s.eventReady := by simp [polled, elapse, edges, flushEvents_eq]

@[simp] theorem polled_timerWait (env : Interference) (s : BaseGPIOPollMonitor) :
    (polled env s).timerWait = s.timerWait := by simp [polled, elapse, edges, flushEvents_eq]

@[simp] theorem polled_timerReady (env : Interference) (s : BaseGPIOPollMonitor) :
    (polled env s).timerReady = s.timerReady := by simp [polled, elapse, edges, flushEvents_eq]

@[simp] theorem polled_clock (env : Interference) (s : BaseGPIOPollMonitor) :
    (polled env s).clock = s.clock + env.delay := by simp [polled, elapse, edges, flushEvents_eq]

@[simp] theorem polled_unread (env : Interference) (s : BaseGPIOPollMonitor) :
    (polled env s).unread = env.edgesBeforeRead + env.edgesAfterRead := by
  simp [polled, elapse, edges, flushEvents_eq]

@[simp] theorem polled_hostOff (env : Interference) (s : BaseGPIOPollMonitor) :
    (polled env s).hostOff = s.hostOff := by simp [polled, elapse, edges, flushEvents_eq]

/-- Without edges after the read, the line is still as the poll saw it. -/
theorem asserted_polled (env : Interference) (s : BaseGPIOPollMonitor)
    (still : env.edgesAfterRead = 0) : asserted (polled env s) = sees env s := by
  simp [asserted, sees, polled, elapse, edges, flushEvents_eq, still]

theorem sees_eq (env : Interference) (s : BaseGPIOPollMonitor) :
    sees env s = (!s.hostOff && (s.line ^^ (env.edgesBeforeRead % 2 == 1))) := by
  cases h : s.hostOff <;> simp [sees, asserted, edges, flushEvents_eq, h]

/-- The three ways in which a poll ends. -/
theorem poll_cases (cfg : PollConfig) (env : Interference) (s : BaseGPIOPollMonitor) :
    (sees env s = false ∧
      poll cfg env s =
        (waitForEvent (polled env s), seen env s ++ [.deassertHandler, .waitForEvent])) ∨
    (sees env s = true ∧ s.timeoutTime < s.clock + env.delay ∧
      poll cfg env s = (waitForEvent (polled env s),
        seen env s ++ [.assertHandler (s.clock + env.delay) s.timeoutMs, .waitForEvent])) ∨
    (sees env s = true ∧ s.clock + env.delay ≤ s.timeoutTime ∧
      poll cfg env s =
        (armTimer (nextPoll cfg env s) (elapse env.delayToArm (polled env s)),
          seen env s ++ [.armTimer (nextPoll cfg env s)])) := by
  have unfolded : poll cfg env s =
      if !sees env s then
        (waitForEvent (polled env s), seen env s ++ [.deassertHandler, .waitForEvent])
      else if (polled env s).clock > (polled env s).timeoutTime then
        (waitForEvent (polled env s),
          seen env s ++
            [.assertHandler (polled env s).clock (polled env s).timeoutMs, .waitForEvent])
      else
        (armTimer ((polled env s).clock + env.delayToArm + nanoseconds cfg.pollingTimeMs)
            (elapse env.delayToArm (polled env s)),
          seen env s ++ [.armTimer ((polled env s).clock + env.delayToArm +
            nanoseconds cfg.pollingTimeMs)]) := rfl
  rw [unfolded, polled_clock, polled_timeoutTime, polled_timeoutMs]
  cases saw : sees env s with
  | false => exact Or.inl ⟨rfl, by simp⟩
  | true =>
    by_cases late : s.timeoutTime < s.clock + env.delay
    · exact Or.inr (Or.inl ⟨rfl, late, by simp [late]⟩)
    · exact Or.inr (Or.inr ⟨rfl, by omega, by simp [late, nextPoll]⟩)

end BaseGPIOPollMonitor

open BaseGPIOPollMonitor

/-- `hostState` writes the recorded host state alone; `hostTurnsOn` records the
host as on and calls `hostOn` in the same step. -/
inductive PollInput where
  | edge
  | tick (ns : Nat)
  | setTimeoutMs (newTimeoutMs : Nat)
  | hostState (off : Bool)
  | hostOn (env : Interference)
  | hostTurnsOn (env : Interference)
  | eventCompletes
  | timerExpires
  | eventHandler (env : Interference)
  | timerHandler (env : Interference)
  deriving DecidableEq, Repr

def pollMachine (cfg : PollConfig) : Machine BaseGPIOPollMonitor PollInput PollEvent where
  step s
    | .edge => some (edges 1 s, [.edge])
    | .tick ns => some (elapse ns s, [])
    | .setTimeoutMs newTimeoutMs => some (setTimeoutMs newTimeoutMs s, [])
    | .hostState off => some ({ s with hostOff := off }, [])
    | .hostOn env => some (hostOn cfg env s)
    | .hostTurnsOn env => some (hostOn cfg env { s with hostOff := false })
    | .eventCompletes =>
      if 0 < s.eventWaits ∧ 0 < s.unread then
        some ({ s with eventWaits := s.eventWaits - 1, eventReady := s.eventReady + 1 }, [])
      else none
    | .timerExpires =>
      match s.timerWait with
      | none => none
      | some expiry =>
        if expiry ≤ s.clock then
          some ({ s with timerWait := none, timerReady := s.timerReady + 1 }, [])
        else none
    | .eventHandler env =>
      if 0 < s.eventReady then
        some (startPolling cfg env { s with eventReady := s.eventReady - 1 })
      else none
    | .timerHandler env =>
      if 0 < s.timerReady then some (poll cfg env { s with timerReady := s.timerReady - 1 })
      else none

/-- A monitor whose line was set up, and the surroundings in which it starts. -/
structure ValidMonitor where
  setup : LineSetup
  valid : requestEvents setup = true
  timeoutMs : Nat
  clock : Int
  line : Bool
  unread : Nat
  hostOff : Bool
  env : Interference

/-- The derived constructors call `startPolling` on a valid monitor. -/
def ValidMonitor.initial (cfg : PollConfig) (m : ValidMonitor) :
    BaseGPIOPollMonitor × List PollEvent :=
  let s := construct m.setup m.timeoutMs m.clock m.line m.unread m.hostOff
  if s.valid then startPolling cfg m.env s else (s, [])

theorem ValidMonitor.initial_eq (cfg : PollConfig) (m : ValidMonitor) :
    m.initial cfg = startPolling cfg m.env
      (construct m.setup m.timeoutMs m.clock m.line m.unread m.hostOff) := by
  simp [ValidMonitor.initial, construct, m.valid]

/-- What one step can do, guards included. -/
theorem poll_step_cases {cfg : PollConfig} {s s' : BaseGPIOPollMonitor} {i : PollInput}
    {out : List PollEvent} (step : (pollMachine cfg).step s i = some (s', out)) :
    (i = .edge ∧ s' = edges 1 s ∧ out = [.edge]) ∨
    (∃ ns, i = .tick ns ∧ s' = elapse ns s ∧ out = []) ∨
    (∃ ms, i = .setTimeoutMs ms ∧ s' = setTimeoutMs ms s ∧ out = []) ∨
    (∃ off, i = .hostState off ∧ s' = { s with hostOff := off } ∧ out = []) ∨
    (i = .eventCompletes ∧ 0 < s.eventWaits ∧ 0 < s.unread ∧ out = [] ∧
      s' = { s with eventWaits := s.eventWaits - 1, eventReady := s.eventReady + 1 }) ∨
    (∃ expiry, i = .timerExpires ∧ s.timerWait = some expiry ∧ expiry ≤ s.clock ∧ out = [] ∧
      s' = { s with timerWait := none, timerReady := s.timerReady + 1 }) ∨
    (∃ env off, (i = .hostOn env ∧ off = s.hostOff ∨ i = .hostTurnsOn env ∧ off = false) ∧
      hostOn cfg env { s with hostOff := off } = (s', out)) ∨
    (∃ env, i = .eventHandler env ∧ 0 < s.eventReady ∧
      startPolling cfg env { s with eventReady := s.eventReady - 1 } = (s', out)) ∨
    (∃ env, i = .timerHandler env ∧ 0 < s.timerReady ∧
      poll cfg env { s with timerReady := s.timerReady - 1 } = (s', out)) := by
  cases i with
  | edge =>
    cases step
    exact Or.inl ⟨rfl, rfl, rfl⟩
  | tick ns =>
    cases step
    exact Or.inr (Or.inl ⟨ns, rfl, rfl, rfl⟩)
  | setTimeoutMs ms =>
    cases step
    exact Or.inr (Or.inr (Or.inl ⟨ms, rfl, rfl, rfl⟩))
  | hostState off =>
    cases step
    exact Or.inr (Or.inr (Or.inr (Or.inl ⟨off, rfl, rfl, rfl⟩)))
  | hostOn env =>
    refine Or.inr (Or.inr (Or.inr (Or.inr (Or.inr (Or.inr (Or.inl ⟨env, _, Or.inl ⟨rfl, rfl⟩, ?_⟩))))))
    exact Option.some.inj step
  | hostTurnsOn env =>
    refine Or.inr (Or.inr (Or.inr (Or.inr (Or.inr (Or.inr (Or.inl ⟨env, _, Or.inr ⟨rfl, rfl⟩, ?_⟩))))))
    exact Option.some.inj step
  | eventCompletes =>
    simp only [pollMachine] at step
    split at step
    next enabled =>
      cases step
      exact Or.inr (Or.inr (Or.inr (Or.inr (Or.inl ⟨rfl, enabled.1, enabled.2, rfl, rfl⟩))))
    · cases step
  | timerExpires =>
    simp only [pollMachine] at step
    split at step
    · cases step
    next expiry outstanding =>
      split at step
      next due =>
        cases step
        exact Or.inr (Or.inr (Or.inr (Or.inr (Or.inr (Or.inl
          ⟨expiry, rfl, outstanding, due, rfl, rfl⟩)))))
      · cases step
  | eventHandler env =>
    simp only [pollMachine] at step
    split at step
    next queued =>
      exact Or.inr (Or.inr (Or.inr (Or.inr (Or.inr (Or.inr (Or.inr (Or.inl
        ⟨env, rfl, queued, Option.some.inj step⟩)))))))
    · cases step
  | timerHandler env =>
    simp only [pollMachine] at step
    split at step
    next queued =>
      exact Or.inr (Or.inr (Or.inr (Or.inr (Or.inr (Or.inr (Or.inr (Or.inr
        ⟨env, rfl, queued, Option.some.inj step⟩)))))))
    · cases step

end HostErrorMonitor.Source
