import HostErrorMonitor.Reactive.Trace
import HostErrorMonitor.Guarantees.PollingChain

/-!
# No false timeout

The deadline is one field that every `startPolling` rewrites, while the samples
of a window come from a chain of timer handlers. With a single chain, a poll that
sees the signal deasserted leaves no timer to go on under that deadline, so a
report sums up a window without a gap. With the narrowing to `int` losing
nothing, the deadline is the start of the window plus the timeout.
-/
namespace HostErrorMonitor.Guarantees
open HostErrorMonitor.Source HostErrorMonitor.Source.BaseGPIOPollMonitor Reactive

def isStart : PollEvent → Bool
  | .startPolling _ _ => true
  | _ => false

/-- A report comes strictly later than the timeout after the latest `startPolling`,
and every poll since then saw the signal asserted. -/
def TimedOut (before : List PollEvent) : PollEvent → Prop
  | .assertHandler now _ => ∃ earlier start timeoutMs,
      before = earlier ++ .startPolling start timeoutMs :: since isStart before ∧
      start + nanoseconds timeoutMs < now ∧
      ∀ value, .asserted value ∈ since isStart before → value = true
  | _ => True

/-- The timeout that a step sets is one that `int` milliseconds can count. -/
def TimeoutFits (cfg : PollConfig) : PollInput → Prop
  | .setTimeoutMs ms => ms < 2 ^ (cfg.intBits - 1)
  | _ => True

instance (cfg : PollConfig) (i : PollInput) : Decidable (TimeoutFits cfg i) :=
  match i with
  | .setTimeoutMs _ => inferInstanceAs (Decidable (_ < _))
  | .edge | .tick _ | .hostState _ | .hostOn _ | .hostTurnsOn _ | .eventCompletes
  | .timerExpires | .eventHandler _ | .timerHandler _ => .isTrue trivial

/-- The condition on a step: each `hostOn` takes the chain over, and a timeout
that is set fits in an `int`. -/
def TimesSoundly (cfg : PollConfig) (c : BaseGPIOPollMonitor × List PollEvent) (i : PollInput) :
    Prop :=
  HostOnTakesOver cfg c i ∧ TimeoutFits cfg i

instance (cfg : PollConfig) (c : BaseGPIOPollMonitor × List PollEvent) (i : PollInput) :
    Decidable (TimesSoundly cfg c i) := inferInstanceAs (Decidable (_ ∧ _))

/-- `tr` ends with a window in which every sample so far was asserted, and the
deadline is that of the window. -/
structure OpenWindow (s : BaseGPIOPollMonitor) (tr : List PollEvent) : Prop where
  deadline : ∃ earlier start timeoutMs,
    tr = earlier ++ .startPolling start timeoutMs :: since isStart tr ∧
      s.timeoutTime = start + nanoseconds timeoutMs
  sampled : ∀ value, .asserted value ∈ since isStart tr → value = true

/-- With one chain: while the timer can go on, the window is open. -/
structure Timing (cfg : PollConfig) (c : BaseGPIOPollMonitor × List PollEvent) : Prop where
  single : SingleChain c
  fits : c.1.timeoutMs < 2 ^ (cfg.intBits - 1)
  timer : c.1.timerWait ≠ none ∨ 0 < c.1.timerReady → OpenWindow c.1 c.2
  justified : Justified TimedOut c.2

theorem intMilliseconds_of_fits (cfg : PollConfig) (timeoutMs : Nat)
    (fits : timeoutMs < 2 ^ (cfg.intBits - 1)) : intMilliseconds cfg timeoutMs = timeoutMs := by
  have width : 2 ^ cfg.intBits = 2 * 2 ^ (cfg.intBits - 1) := by
    have := cfg.intBits_ge
    rw [← Nat.pow_succ']
    congr 1
    omega
  unfold intMilliseconds
  rw [width]
  exact Int.bmod_eq_of_le (by omega) (by omega)

/-- An `int` has at least 32 bits. -/
theorem fits_of_lt (cfg : PollConfig) {timeoutMs : Nat} (bounded : timeoutMs < 2 ^ 31) :
    timeoutMs < 2 ^ (cfg.intBits - 1) := by
  have width : 2 ^ 31 ≤ 2 ^ (cfg.intBits - 1) := by
    apply Nat.pow_le_pow_right (by decide)
    have := cfg.intBits_ge
    omega
  omega

theorem seen_unstarted (env : Interference) (s : BaseGPIOPollMonitor) (x : PollEvent)
    (member : x ∈ seen env s) : isStart x = false := by
  rcases mem_seen member with rfl | rfl | rfl <;> rfl

theorem seen_free (env : Interference) (s : BaseGPIOPollMonitor) (x : PollEvent)
    (member : x ∈ seen env s) (before : List PollEvent) : TimedOut before x := by
  rcases mem_seen member with rfl | rfl | rfl <;> trivial

/-- A window stays open while no poll sees the signal deasserted. -/
theorem openWindow_append {s s' : BaseGPIOPollMonitor} {tr out : List PollEvent}
    (window : OpenWindow s tr) (unstarted : ∀ x ∈ out, isStart x = false)
    (asserted : ∀ value, .asserted value ∈ out → value = true)
    (same : s'.timeoutTime = s.timeoutTime) : OpenWindow s' (tr ++ out) := by
  have sinceStart := since_append_unmarked isStart tr out unstarted
  obtain ⟨earlier, start, timeoutMs, split, deadline⟩ := window.deadline
  refine ⟨⟨earlier, start, timeoutMs, ?_, same.trans deadline⟩, fun value member => ?_⟩
  · rw [sinceStart]
    conv => lhs; rw [split]
    simp
  · rw [sinceStart] at member
    rcases List.mem_append.mp member with old | new
    · exact window.sampled value old
    · exact asserted value new

theorem seen_asserted {env : Interference} {s : BaseGPIOPollMonitor} (saw : sees env s = true)
    (value : Bool) (member : .asserted value ∈ seen env s) : value = true := by
  rcases mem_seen member with h | h | h
  · cases h
  · cases h
  · cases h
    exact saw

/-- A poll in an open window whose continuation it is alone. -/
theorem poll_timing {cfg : PollConfig} {env : Interference} {s : BaseGPIOPollMonitor}
    {tr : List PollEvent} (alone : s.timerWait = none ∨ Rearms env s)
    (events : s.eventWaits = 0 ∧ s.eventReady = 0 ∧ s.timerReady = 0)
    (fits : s.timeoutMs < 2 ^ (cfg.intBits - 1)) (window : OpenWindow s tr)
    (justified : Justified TimedOut tr) :
    Timing cfg ((poll cfg env s).1, tr ++ (poll cfg env s).2) := by
  have single : SingleChain ((poll cfg env s).1, tr ++ (poll cfg env s).2) := by
    have count := poll_continuations cfg env s alone
    rw [events.1, events.2.1, events.2.2] at count
    exact count
  have before := justified_append_free TimedOut tr (seen env s) justified (seen_free env s)
  rcases poll_cases cfg env s with ⟨saw, result⟩ | ⟨saw, late, result⟩ | ⟨saw, early, result⟩
  · -- the poll ends the window; the chain goes on through the event wait alone
    have idle : s.timerWait = none := by
      rcases alone with idle | rearms
      · exact idle
      · rw [rearms.1] at saw
        cases saw
    rw [result] at single ⊢
    refine ⟨single, by simpa [waitForEvent] using fits, fun timer => ?_, ?_⟩
    · simp [waitForEvent, idle, events.2.2] at timer
    · rw [← List.append_assoc]
      exact justified_append_free TimedOut _ _ before (by simp [TimedOut])
  · have idle : s.timerWait = none := by
      rcases alone with idle | rearms
      · exact idle
      · have := rearms.2
        omega
    rw [result] at single ⊢
    refine ⟨single, by simpa [waitForEvent] using fits, fun timer => ?_, ?_⟩
    · simp [waitForEvent, idle, events.2.2] at timer
    · obtain ⟨⟨earlier, start, timeoutMs, split, deadline⟩, sampled⟩ :=
        @openWindow_append s s tr _ window (seen_unstarted env s) (seen_asserted saw) rfl
      have report : TimedOut (tr ++ seen env s)
          (.assertHandler (s.clock + env.delay) s.timeoutMs) :=
        ⟨earlier, start, timeoutMs, split, by omega, sampled⟩
      have reported := justified_concat TimedOut _ _ before report
      have waited := justified_append_free TimedOut _ [.waitForEvent] reported (by simp [TimedOut])
      simpa using waited
  · rw [result] at single ⊢
    refine ⟨single, by simpa [armTimer, elapse] using fits, fun _ => ?_, ?_⟩
    · have through := @openWindow_append s s tr _ window (seen_unstarted env s)
        (seen_asserted saw) rfl
      rw [← List.append_assoc]
      exact openWindow_append through (by simp [isStart]) (by simp) (by simp [armTimer, elapse])
    · rw [← List.append_assoc]
      exact justified_append_free TimedOut _ _ before (by simp [TimedOut])

/-- Each `startPolling` opens a window. -/
theorem openWindow_restarted (cfg : PollConfig) (s : BaseGPIOPollMonitor) (tr : List PollEvent)
    (fits : s.timeoutMs < 2 ^ (cfg.intBits - 1)) :
    OpenWindow (restarted cfg s) (tr ++ [.startPolling s.clock s.timeoutMs]) := by
  have sinceStart := since_concat_marked isStart tr (.startPolling s.clock s.timeoutMs) rfl
  refine ⟨⟨tr, s.clock, s.timeoutMs, by rw [sinceStart], ?_⟩, fun value member => ?_⟩
  · simp only [restarted]
    rw [intMilliseconds_of_fits cfg s.timeoutMs fits]
  · rw [sinceStart] at member
    cases member

theorem startPolling_timing {cfg : PollConfig} {env : Interference} {s : BaseGPIOPollMonitor}
    {tr : List PollEvent} (alone : s.timerWait = none ∨ Rearms env (restarted cfg s))
    (events : s.eventWaits = 0 ∧ s.eventReady = 0 ∧ s.timerReady = 0)
    (fits : s.timeoutMs < 2 ^ (cfg.intBits - 1)) (justified : Justified TimedOut tr) :
    Timing cfg ((startPolling cfg env s).1, tr ++ (startPolling cfg env s).2) := by
  have opened := justified_append_free TimedOut tr [.startPolling s.clock s.timeoutMs] justified
    (by simp [TimedOut])
  have timing := @poll_timing cfg env (restarted cfg s) _ alone events fits
    (openWindow_restarted cfg s tr fits) opened
  rw [startPolling_eq]
  simpa using timing

theorem hostOn_timing {cfg : PollConfig} {env : Interference} {s : BaseGPIOPollMonitor}
    {tr : List PollEvent} (taken : TakesOver cfg env s) (fits : s.timeoutMs < 2 ^ (cfg.intBits - 1))
    (justified : Justified TimedOut tr) :
    Timing cfg ((hostOn cfg env s).1, tr ++ (hostOn cfg env s).2) := by
  have announced := justified_append_free TimedOut tr [.hostOn] justified (by simp [TimedOut])
  have timing := @startPolling_timing cfg env { s with eventWaits := 0 } (tr ++ [.hostOn])
    (taken.2.2.imp_right (rearms_restarted cfg env s 0).mpr) ⟨rfl, taken.1, taken.2.1⟩ fits announced
  simpa [hostOn] using timing

/-- A step that keeps the deadline, makes no timer pending and reports nothing. -/
theorem timing_unmoved {cfg : PollConfig} {s s' : BaseGPIOPollMonitor} {tr : List PollEvent}
    (timing : Timing cfg (s, tr)) (single : SingleChain (s', tr))
    (fits : s'.timeoutMs < 2 ^ (cfg.intBits - 1)) (time : s'.timeoutTime = s.timeoutTime)
    (pending : s'.timerWait ≠ none ∨ 0 < s'.timerReady → s.timerWait ≠ none ∨ 0 < s.timerReady) :
    Timing cfg (s', tr) := by
  refine ⟨single, fits, fun timer => ?_, timing.justified⟩
  obtain ⟨⟨earlier, start, timeoutMs, split, deadline⟩, sampled⟩ := timing.timer (pending timer)
  exact ⟨⟨earlier, start, timeoutMs, split, time.trans deadline⟩, sampled⟩

theorem timing_step {cfg : PollConfig} {c c' : BaseGPIOPollMonitor × List PollEvent}
    {i : PollInput} (timing : Timing cfg c) (soundly : TimesSoundly cfg c i)
    (next : (pollMachine cfg).next c i = some c') : Timing cfg c' := by
  have single := single_step timing.single soundly.1 next
  obtain ⟨s, out, step, rfl⟩ := (pollMachine cfg).next_some.mp next
  rcases poll_step_cases step with ⟨rfl, rfl, rfl⟩ | ⟨ns, rfl, rfl, rfl⟩ | ⟨ms, rfl, rfl, rfl⟩ |
    ⟨off, rfl, rfl, rfl⟩ | ⟨rfl, waiting, unread, rfl, rfl⟩ |
    ⟨expiry, rfl, waiting, _, rfl, rfl⟩ |
    ⟨env, off, entered, run⟩ | ⟨env, rfl, queued, run⟩ | ⟨env, rfl, queued, run⟩
  · refine ⟨single, timing.fits, fun timer => ?_, ?_⟩
    · exact openWindow_append (timing.timer timer) (by simp [isStart]) (by simp) rfl
    · exact justified_append_free TimedOut _ _ timing.justified (by simp [TimedOut])
  · rw [List.append_nil] at single ⊢
    exact timing_unmoved timing single timing.fits rfl id
  · rw [List.append_nil] at single ⊢
    exact timing_unmoved timing single soundly.2 rfl id
  · rw [List.append_nil] at single ⊢
    exact timing_unmoved timing single timing.fits rfl id
  · rw [List.append_nil] at single ⊢
    exact timing_unmoved timing single timing.fits rfl id
  · rw [List.append_nil] at single ⊢
    exact timing_unmoved timing single timing.fits rfl fun _ => Or.inl (by simp [waiting])
  · have after := @hostOn_timing cfg env { c.1 with hostOff := off } c.2
      (takesOver_entered soundly.1 entered) timing.fits timing.justified
    rwa [run] at after
  · obtain ⟨idle, noWait, one⟩ := single_idle timing.single (by omega)
    have after := @startPolling_timing cfg env { c.1 with eventReady := c.1.eventReady - 1 } c.2
      (Or.inl idle) ⟨noWait, by simp only; omega, by simp only; omega⟩ timing.fits timing.justified
    rwa [run] at after
  · obtain ⟨idle, noWait, one⟩ := single_idle timing.single (by omega)
    obtain ⟨deadline, sampled⟩ := timing.timer (Or.inr queued)
    have after := @poll_timing cfg env { c.1 with timerReady := c.1.timerReady - 1 } c.2
      (Or.inl idle) ⟨noWait, by simp only; omega, by simp only; omega⟩ timing.fits
      ⟨deadline, sampled⟩ timing.justified
    rwa [run] at after

theorem timing_initial (cfg : PollConfig) (m : ValidMonitor)
    (fits : m.timeoutMs < 2 ^ (cfg.intBits - 1)) : Timing cfg (m.initial cfg) := by
  rw [ValidMonitor.initial_eq]
  have timing := @startPolling_timing cfg m.env
    (construct m.setup m.timeoutMs m.clock m.line m.unread m.hostOff) [] (Or.inl rfl)
    ⟨rfl, rfl, rfl⟩ fits (justified_nil TimedOut)
  simpa using timing

/-- No timeout is false in a run in which each `hostOn` takes the chain over and
each timeout fits in an `int`: every report in it closes a window in which all
polls saw the signal asserted, later than the timeout after its start. -/
theorem timeout_not_false (cfg : PollConfig) (m : ValidMonitor) (is : List PollInput)
    (fits : m.timeoutMs < 2 ^ (cfg.intBits - 1))
    (soundly : (pollMachine cfg).Along (TimesSoundly cfg) (m.initial cfg) is) :
    (pollMachine cfg).Always (fun c => Justified TimedOut c.2) (m.initial cfg) is :=
  (pollMachine cfg).always_of_invariant (fun _ _ _ timing ok next => timing_step timing ok next)
    (fun _ timing => timing.justified) (timing_initial cfg m fits) soundly

/-- The signal stays asserted through two polls and a `hostOn`, and is reported by the
poll after that. -/
def assertedThroughout : List PollInput :=
  [.tick 1000000000, .timerExpires, .timerHandler ⟨0, 0, 0, 0⟩, .hostOn ⟨0, 0, 0, 0⟩,
    .tick 2500000000, .timerExpires, .timerHandler ⟨0, 0, 0, 0⟩]

theorem timeout_after_three_polls :
    ((pollMachine everySecond).exec (assertedAtStart.initial everySecond)
      assertedThroughout).isSome = true ∧
    (pollMachine everySecond).Always (fun c => Justified TimedOut c.2)
      (assertedAtStart.initial everySecond) assertedThroughout :=
  ⟨by decide, timeout_not_false everySecond assertedAtStart assertedThroughout (by decide)
    (by decide)⟩

/-- The poll of `hostOn` sees the signal deasserted; the timer that it leaves
pending goes on under the new deadline and reports a timeout. -/
theorem timeout_of_interrupted_assertion :
    ∃ c, (pollMachine everySecond).exec (assertedAtStart.initial everySecond)
        [.edge, .hostOn ⟨0, 0, 0, 0⟩, .edge, .tick 1000000000, .timerExpires,
          .timerHandler ⟨0, 0, 0, 0⟩, .tick 1500000000, .timerExpires,
          .timerHandler ⟨0, 0, 0, 0⟩] = some c ∧ ¬ Justified TimedOut c.2 := by
  refine ⟨_, rfl, fun justified => ?_⟩
  obtain ⟨_, _, _, _, _, sampled⟩ := justified
    [.startPolling 0 2000, .flushEvents, .asserted true, .armTimer 1000000000, .edge, .hostOn,
      .startPolling 0 2000, .flushEvents, .asserted false, .deassertHandler, .waitForEvent, .edge,
      .flushEvents, .asserted true, .armTimer 2000000000, .flushEvents, .asserted true]
    (.assertHandler 2500000000 2000) [.waitForEvent] rfl
  exact absurd (sampled false (by decide)) (by decide)

end HostErrorMonitor.Guarantees
