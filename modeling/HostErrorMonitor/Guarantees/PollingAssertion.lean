import HostErrorMonitor.Reactive.Trace
import HostErrorMonitor.Guarantees.PollingChain

/-!
# No missed assertion

`poll` drains the event queue, then reads the level, then waits. Whatever came
before it, the poll therefore leaves the line watched: by the timer, by an edge
that is still to be read, or because the assertion has just been reported. This
holds with any number of chains.
-/
namespace HostErrorMonitor.Guarantees
open HostErrorMonitor.Source HostErrorMonitor.Source.BaseGPIOPollMonitor Reactive

def isFlush : PollEvent → Bool
  | .flushEvents => true
  | _ => false

/-- The last poll reported: it ran `assertHandler`. -/
def LastPollReported (tr : List PollEvent) : Prop :=
  ∃ now timeoutMs, .assertHandler now timeoutMs ∈ since isFlush tr

/-- While the host is on and the line asserted, the timer, an edge or the report
accounts for it. -/
def AssertionWatched (c : BaseGPIOPollMonitor × List PollEvent) : Prop :=
  c.1.hostOff = false → c.1.line = true →
    (c.1.timerWait ≠ none ∨ 0 < c.1.timerReady) ∨
    (0 < c.1.eventWaits ∧ 0 < c.1.unread ∨ 0 < c.1.eventReady) ∨
    (LastPollReported c.2 ∧ .edge ∉ since isFlush c.2 ∧ 0 < c.1.eventWaits)

/-- The condition on a step: the host is recorded as on only together with `hostOn`. -/
def TurnsOnWithHostOn (c : BaseGPIOPollMonitor × List PollEvent) : PollInput → Prop
  | .hostState off => c.1.hostOff = false ∨ off = true
  | _ => True

instance (c : BaseGPIOPollMonitor × List PollEvent) (i : PollInput) :
    Decidable (TurnsOnWithHostOn c i) :=
  match i with
  | .hostState _ => inferInstanceAs (Decidable (_ ∨ _))
  | .edge | .tick _ | .setTimeoutMs _ | .hostOn _ | .hostTurnsOn _ | .eventCompletes
  | .timerExpires | .eventHandler _ | .timerHandler _ => .isTrue trivial

/-- What the polls and the edges keep up. The last clause is about a monitor that
nothing but an edge can wake. -/
structure Watching (c : BaseGPIOPollMonitor × List PollEvent) : Prop where
  alive : 0 < continuations c.1
  unread : .edge ∈ since isFlush c.2 → 0 < c.1.unread
  parked : c.1.eventReady = 0 → c.1.timerReady = 0 → c.1.timerWait = none →
    asserted c.1 = false ∨ 0 < c.1.unread ∨ LastPollReported c.2

theorem watched_of_watching {c : BaseGPIOPollMonitor × List PollEvent} (watching : Watching c) :
    AssertionWatched c := by
  intro on line
  by_cases timer : c.1.timerWait ≠ none ∨ 0 < c.1.timerReady
  · exact Or.inl timer
  · simp only [not_or, not_not, Nat.not_lt, Nat.le_zero] at timer
    rcases Nat.eq_zero_or_pos c.1.eventReady with none_queued | queued
    · have waiting : 0 < c.1.eventWaits := by
        have alive := watching.alive
        simp only [continuations, outstandingWaits, timer.1, timer.2, none_queued,
          Option.isSome_none, Bool.toNat_false] at alive
        omega
      rcases Nat.eq_zero_or_pos c.1.unread with drained | unread
      · rcases watching.parked none_queued timer.2 timer.1 with low | unread | reported
        · simp [asserted, on, line] at low
        · omega
        · refine Or.inr (Or.inr ⟨reported, fun edge => ?_, waiting⟩)
          have := watching.unread edge
          omega
      · exact Or.inr (Or.inl (Or.inl ⟨waiting, unread⟩))
    · exact Or.inr (Or.inl (Or.inr queued))

theorem sampled_unflushed (env : Interference) (s : BaseGPIOPollMonitor) (x : PollEvent)
    (member : x ∈ sampled env s) : isFlush x = false := by
  rcases mem_sampled member with ⟨rfl, _⟩ | rfl <;> rfl

/-- The part of the trace after the flush of a poll. -/
theorem since_flush_poll (tr tail : List PollEvent) (env : Interference) (s : BaseGPIOPollMonitor)
    (unflushed : ∀ x ∈ tail, isFlush x = false) :
    since isFlush (tr ++ (seen env s ++ tail)) = sampled env s ++ tail := by
  apply since_append_marked isFlush tr (sampled env s ++ tail) .flushEvents rfl
  intro x member
  rcases List.mem_append.mp member with sample | late
  · exact sampled_unflushed env s x sample
  · exact unflushed x late

/-- An edge after the flush of a poll is one that came while the poll ran. -/
theorem edge_since_poll (tr tail : List PollEvent) (env : Interference) (s : BaseGPIOPollMonitor)
    (unflushed : ∀ x ∈ tail, isFlush x = false) (absent : .edge ∉ tail) :
    .edge ∈ since isFlush (tr ++ (seen env s ++ tail)) ↔
      0 < env.edgesBeforeRead + env.edgesAfterRead := by
  rw [since_flush_poll tr tail env s unflushed, List.mem_append]
  constructor
  · rintro (sample | late)
    · rcases mem_sampled sample with ⟨_, some⟩ | h
      · exact some
      · cases h
    · exact absurd late absent
  · intro some
    exact Or.inl (edge_mem_sampled some)

/-- A poll leaves the line watched, whatever state and trace it starts from. -/
theorem poll_watching (cfg : PollConfig) (env : Interference) (s : BaseGPIOPollMonitor)
    (tr : List PollEvent) : Watching ((poll cfg env s).1, tr ++ (poll cfg env s).2) := by
  rcases poll_cases cfg env s with ⟨saw, result⟩ | ⟨saw, late, result⟩ | ⟨saw, early, result⟩
  · rw [result]
    refine ⟨?_, fun edge => ?_, fun _ _ _ => ?_⟩
    · simp only [continuations, outstandingWaits, waitForEvent]
      omega
    · rw [edge_since_poll tr _ env s (by simp [isFlush]) (by simp)] at edge
      simpa [waitForEvent] using edge
    · rcases Nat.eq_zero_or_pos env.edgesAfterRead with still | moved
      · exact Or.inl ((asserted_polled env s still).trans saw)
      · exact Or.inr (Or.inl (by simp only [waitForEvent, polled_unread]; omega))
  · rw [result]
    refine ⟨?_, fun edge => ?_, fun _ _ _ => ?_⟩
    · simp only [continuations, outstandingWaits, waitForEvent]
      omega
    · rw [edge_since_poll tr _ env s (by simp [isFlush]) (by simp)] at edge
      simpa [waitForEvent] using edge
    · refine Or.inr (Or.inr ⟨s.clock + env.delay, s.timeoutMs, ?_⟩)
      rw [since_flush_poll tr _ env s (by simp [isFlush])]
      simp
  · rw [result]
    refine ⟨?_, fun edge => ?_, fun _ _ idle => by cases idle⟩
    · simp only [continuations, outstandingWaits, armTimer, Option.isSome_some, Bool.toNat_true]
      omega
    · rw [edge_since_poll tr _ env s (by simp [isFlush]) (by simp)] at edge
      simpa [armTimer, elapse] using edge

theorem startPolling_watching (cfg : PollConfig) (env : Interference) (s : BaseGPIOPollMonitor)
    (tr : List PollEvent) :
    Watching ((startPolling cfg env s).1, tr ++ (startPolling cfg env s).2) := by
  rw [startPolling_eq]
  have watching := poll_watching cfg env (restarted cfg s) (tr ++ [.startPolling s.clock s.timeoutMs])
  simpa using watching

theorem hostOn_watching (cfg : PollConfig) (env : Interference) (s : BaseGPIOPollMonitor)
    (tr : List PollEvent) : Watching ((hostOn cfg env s).1, tr ++ (hostOn cfg env s).2) := by
  have watching := startPolling_watching cfg env { s with eventWaits := 0 } (tr ++ [.hostOn])
  simpa [hostOn] using watching

theorem watching_step {cfg : PollConfig} {c c' : BaseGPIOPollMonitor × List PollEvent}
    {i : PollInput} (watching : Watching c) (turnsOn : TurnsOnWithHostOn c i)
    (next : (pollMachine cfg).next c i = some c') : Watching c' := by
  obtain ⟨s, out, step, rfl⟩ := (pollMachine cfg).next_some.mp next
  rcases poll_step_cases step with ⟨rfl, rfl, rfl⟩ | ⟨ns, rfl, rfl, rfl⟩ | ⟨ms, rfl, rfl, rfl⟩ |
    ⟨off, rfl, rfl, rfl⟩ | ⟨rfl, waiting, unread, rfl, rfl⟩ |
    ⟨expiry, rfl, waiting, _, rfl, rfl⟩ |
    ⟨env, off, entered, run⟩ | ⟨env, rfl, queued, run⟩ | ⟨env, rfl, queued, run⟩
  · exact ⟨watching.alive, fun _ => Nat.succ_pos _, fun _ _ _ => Or.inr (Or.inl (Nat.succ_pos _))⟩
  · rw [List.append_nil]
    exact ⟨watching.alive, watching.unread, watching.parked⟩
  · rw [List.append_nil]
    exact ⟨watching.alive, watching.unread, watching.parked⟩
  · rw [List.append_nil]
    refine ⟨watching.alive, watching.unread, fun noEvent noTimer idle => ?_⟩
    rcases watching.parked noEvent noTimer idle with low | rest
    · apply Or.inl
      cases off with
      | true => rfl
      | false =>
        have on : c.1.hostOff = false := turnsOn.resolve_right Bool.false_ne_true
        simpa [asserted, on] using low
    · exact Or.inr rest
  · rw [List.append_nil]
    refine ⟨?_, watching.unread, fun noEvent => absurd noEvent (Nat.succ_ne_zero _)⟩
    simp only [continuations, outstandingWaits]
    omega
  · rw [List.append_nil]
    refine ⟨?_, watching.unread, fun _ noTimer => absurd noTimer (Nat.succ_ne_zero _)⟩
    simp only [continuations, outstandingWaits]
    omega
  · have after := hostOn_watching cfg env { c.1 with hostOff := off } c.2
    rwa [run] at after
  · have after := startPolling_watching cfg env { c.1 with eventReady := c.1.eventReady - 1 } c.2
    rwa [run] at after
  · have after := poll_watching cfg env { c.1 with timerReady := c.1.timerReady - 1 } c.2
    rwa [run] at after

theorem watching_initial (cfg : PollConfig) (m : ValidMonitor) : Watching (m.initial cfg) := by
  rw [ValidMonitor.initial_eq]
  have watching := startPolling_watching cfg m.env
    (construct m.setup m.timeoutMs m.clock m.line m.unread m.hostOff) []
  simpa using watching

/-- No assertion is missed: in every state of every run in which the host is
recorded as on only together with `hostOn`, an asserted line is watched. -/
theorem assertion_watched (cfg : PollConfig) (m : ValidMonitor) (is : List PollInput)
    (turnsOn : (pollMachine cfg).Along TurnsOnWithHostOn (m.initial cfg) is) :
    (pollMachine cfg).Always AssertionWatched (m.initial cfg) is :=
  (pollMachine cfg).always_of_invariant
    (fun _ _ _ watching ok next => watching_step watching ok next)
    (fun _ watching => watched_of_watching watching) (watching_initial cfg m) turnsOn

/-- The host goes off and on again, and the signal is asserted while the poll of
`hostOn` runs, after its level read. -/
def offAndOn : List PollInput :=
  [.hostState true, .tick 5000000000, .timerExpires, .timerHandler ⟨0, 1, 0, 0⟩,
    .hostTurnsOn ⟨0, 1, 0, 0⟩, .eventCompletes, .eventHandler ⟨0, 0, 0, 0⟩]

theorem assertion_watched_after_off_and_on :
    ((pollMachine everySecond).exec (assertedAtStart.initial everySecond) offAndOn).isSome = true ∧
    (pollMachine everySecond).Always AssertionWatched (assertedAtStart.initial everySecond)
      offAndOn :=
  ⟨by decide, assertion_watched everySecond assertedAtStart offAndOn (by decide)⟩

end HostErrorMonitor.Guarantees
