import HostErrorMonitor.Guarantees.PollingReport
import HostErrorMonitor.Guarantees.PollingTimeout

/-!
# When the polling loop reports

While the line stays asserted and nothing takes time but the timer, the polls of
a window come one period apart. A poll reports when the clock is strictly past
the deadline, so the first to report is the one after the last multiple of the
period within the timeout: one full period after it when the period divides the
timeout, and never the poll at the start.
-/
namespace HostErrorMonitor.Guarantees
open HostErrorMonitor.Source HostErrorMonitor.Source.BaseGPIOPollMonitor Reactive

/-- A poll in which no edge comes and no time passes. -/
def undisturbedPoll : Interference := ⟨0, 0, 0, 0⟩

/-- The condition on a step: the line stays asserted and the host on, no `hostOn`
and no `setTimeoutMs` follows, the code takes no time, and time goes on only up
to the expiry of a wait, whose handler then runs at once. -/
def OnSchedule (c : BaseGPIOPollMonitor × List PollEvent) : PollInput → Prop
  | .tick ns => c.1.eventReady = 0 ∧ c.1.timerReady = 0 ∧
    ∀ expiry ∈ c.1.timerWait, c.1.clock + ns ≤ expiry
  | .hostState off => off = false
  | .eventCompletes => True
  | .timerExpires => True
  | .eventHandler env => env = undisturbedPoll
  | .timerHandler env => env = undisturbedPoll
  | .edge | .setTimeoutMs _ | .hostOn _ | .hostTurnsOn _ => False

/-- The number of the poll that reports; the poll at the start has number 0. -/
def lastPoll (cfg : PollConfig) (timeoutMs : Nat) : Nat := timeoutMs / cfg.pollingTimeMs + 1

/-- The time of a poll in the window that `s` starts. -/
def pollTime (cfg : PollConfig) (s : BaseGPIOPollMonitor) (number : Nat) : Int :=
  s.clock + nanoseconds ((number * cfg.pollingTimeMs : Nat) : Int)

/-- The time at which the window that `s` starts is reported. -/
def detectionTime (cfg : PollConfig) (s : BaseGPIOPollMonitor) : Int :=
  pollTime cfg s (lastPoll cfg s.timeoutMs)

/-- The polls that are over before the deadline. -/
theorem poll_early_iff {cfg : PollConfig} (period : 0 < cfg.pollingTimeMs)
    (s : BaseGPIOPollMonitor) (number : Nat) :
    pollTime cfg s number ≤ s.clock + nanoseconds s.timeoutMs ↔
      number < lastPoll cfg s.timeoutMs := by
  have count : number < lastPoll cfg s.timeoutMs ↔ number * cfg.pollingTimeMs ≤ s.timeoutMs := by
    rw [← Nat.le_div_iff_mul_le period]
    exact Nat.lt_succ_iff
  rw [count]
  unfold pollTime nanoseconds
  omega

/-- The next poll is one period later. -/
theorem pollTime_succ (cfg : PollConfig) (s : BaseGPIOPollMonitor) (number : Nat) :
    pollTime cfg s (number + 1) = pollTime cfg s number + nanoseconds cfg.pollingTimeMs := by
  unfold pollTime nanoseconds
  rw [Nat.succ_mul]
  omega

theorem pollTime_zero (cfg : PollConfig) (s : BaseGPIOPollMonitor) :
    pollTime cfg s 0 = s.clock := by
  simp [pollTime, nanoseconds]

theorem pollTime_mono {cfg : PollConfig} {s : BaseGPIOPollMonitor} {first last : Nat}
    (order : first ≤ last) : pollTime cfg s first ≤ pollTime cfg s last := by
  have := Nat.mul_le_mul_right cfg.pollingTimeMs order
  unfold pollTime nanoseconds
  omega

/-- A report comes strictly later than the timeout after the start, by no more
than one period. -/
theorem detectionTime_bounds {cfg : PollConfig} (period : 0 < cfg.pollingTimeMs)
    (s : BaseGPIOPollMonitor) :
    s.clock + nanoseconds s.timeoutMs < detectionTime cfg s ∧
      detectionTime cfg s ≤ s.clock + nanoseconds s.timeoutMs + nanoseconds cfg.pollingTimeMs := by
  constructor
  · have late : ¬ lastPoll cfg s.timeoutMs < lastPoll cfg s.timeoutMs := Nat.lt_irrefl _
    rw [← poll_early_iff period] at late
    unfold detectionTime
    omega
  · have early := (poll_early_iff period s (s.timeoutMs / cfg.pollingTimeMs)).mpr (Nat.lt_succ_self _)
    have next := pollTime_succ cfg s (s.timeoutMs / cfg.pollingTimeMs)
    unfold detectionTime lastPoll
    omega

/-- The part of the state that no step on schedule moves: the signal is asserted
and the deadline is that of the window. -/
structure Steady (s now : BaseGPIOPollMonitor) : Prop where
  line : now.line = true
  hostOn : now.hostOff = false
  eventReady : now.eventReady = 0
  timeoutMs : now.timeoutMs = s.timeoutMs
  timeoutTime : now.timeoutTime = s.clock + nanoseconds s.timeoutMs

/-- The timer is armed for the poll with the given number, or it has come to its
time and its handler is queued. -/
def Turn (cfg : PollConfig) (s : BaseGPIOPollMonitor) (number : Nat) (now : BaseGPIOPollMonitor) :
    Prop :=
  now.timerWait = some (pollTime cfg s number) ∧ now.timerReady = 0 ∧
      now.clock ≤ pollTime cfg s number ∨
    now.timerWait = none ∧ now.timerReady = 1 ∧ now.clock = pollTime cfg s number

/-- The poll with the given number is to come, through the timer alone, and
nothing has been reported. -/
structure Awaits (cfg : PollConfig) (s : BaseGPIOPollMonitor) (number : Nat)
    (c : BaseGPIOPollMonitor × List PollEvent) : Prop where
  steady : Steady s c.1
  number_le : number ≤ lastPoll cfg s.timeoutMs
  eventWaits : c.1.eventWaits = 0
  turn : Turn cfg s number c.1
  unreported : c.2.filter isReport = []

/-- The window has been reported once, at its time, and the monitor waits for an
edge and for nothing else. -/
structure Detected (cfg : PollConfig) (s : BaseGPIOPollMonitor)
    (c : BaseGPIOPollMonitor × List PollEvent) : Prop where
  reported : c.2.filter isReport = [.assertHandler (detectionTime cfg s) s.timeoutMs]
  time : detectionTime cfg s ≤ c.1.clock
  eventWaits : c.1.eventWaits = 1
  quiet : Quiet c.1

section window
variable {cfg : PollConfig} {s : BaseGPIOPollMonitor}

theorem steady_sees {now : BaseGPIOPollMonitor} (steady : Steady s now) :
    sees undisturbedPoll now = true := by
  rw [sees_eq, steady.line, steady.hostOn]
  rfl

/-- A poll on schedule is followed by the next one, unless it is the last. -/
theorem poll_on_schedule (period : 0 < cfg.pollingTimeMs) {number : Nat}
    {now : BaseGPIOPollMonitor} {tr : List PollEvent} (steady : Steady s now)
    (number_le : number ≤ lastPoll cfg s.timeoutMs) (eventWaits : now.eventWaits = 0)
    (timerWait : now.timerWait = none) (timerReady : now.timerReady = 0)
    (clock : now.clock = pollTime cfg s number) (unreported : tr.filter isReport = []) :
    (number < lastPoll cfg s.timeoutMs ∧ Awaits cfg s (number + 1)
      ((poll cfg undisturbedPoll now).1, tr ++ (poll cfg undisturbedPoll now).2)) ∨
    (number = lastPoll cfg s.timeoutMs ∧ Detected cfg s
      ((poll cfg undisturbedPoll now).1, tr ++ (poll cfg undisturbedPoll now).2)) := by
  have sampled : (seen undisturbedPoll now).filter isReport = [] := by
    rw [List.filter_eq_nil_iff]
    intro x member
    rw [seen_unreported undisturbedPoll now x member]
    exact Bool.false_ne_true
  have undelayed : now.clock + ((undisturbedPoll.delay : Nat) : Int) = pollTime cfg s number := by
    rw [clock]
    exact Int.add_zero _
  have early_iff := poll_early_iff period s number
  rcases poll_cases cfg undisturbedPoll now with ⟨saw, _⟩ | ⟨_, late, result⟩ | ⟨_, early, result⟩
  · rw [steady_sees steady] at saw
    cases saw
  · rw [undelayed, steady.timeoutTime] at late
    have last : number = lastPoll cfg s.timeoutMs := by omega
    refine Or.inr ⟨last, ?_⟩
    rw [result, undelayed, last]
    refine ⟨?_, ?_, ?_, ?_⟩
    · rw [List.filter_append, List.filter_append, unreported, sampled, steady.timeoutMs]
      rfl
    · have reached : (waitForEvent (polled undisturbedPoll now)).clock = pollTime cfg s number := by
        rw [← undelayed]
        exact polled_clock undisturbedPoll now
      rw [reached, last]
      exact Int.le_refl _
    · simp [waitForEvent, eventWaits]
    · exact ⟨by simp [waitForEvent, steady.eventReady], by simp [waitForEvent, timerReady],
        by simp [waitForEvent, timerWait], by simp [waitForEvent, undisturbedPoll]⟩
  · rw [undelayed, steady.timeoutTime] at early
    have before := early_iff.mp early
    have armed : nextPoll cfg undisturbedPoll now = pollTime cfg s (number + 1) := by
      rw [pollTime_succ, ← undelayed]
      exact congrArg (· + _) (Int.add_zero _)
    refine Or.inl ⟨before, ?_⟩
    rw [result, armed]
    refine ⟨⟨?_, ?_, ?_, ?_, ?_⟩, before, ?_, Or.inl ⟨rfl, ?_, ?_⟩, ?_⟩
    · have still := asserted_polled undisturbedPoll now rfl
      rw [steady_sees steady] at still
      simpa [asserted, steady.hostOn, armTimer, elapse] using still
    · simp [armTimer, elapse, steady.hostOn]
    · simp [armTimer, elapse, steady.eventReady]
    · simp [armTimer, elapse, steady.timeoutMs]
    · simp [armTimer, elapse, steady.timeoutTime]
    · simp [armTimer, elapse, eventWaits]
    · simp [armTimer, elapse, timerReady]
    · have reached : (armTimer (pollTime cfg s (number + 1))
          (elapse undisturbedPoll.delayToArm (polled undisturbedPoll now))).clock =
            pollTime cfg s number := by
        rw [← undelayed]
        simp [armTimer, elapse, undisturbedPoll]
      rw [reached]
      exact pollTime_mono (Nat.le_succ number)
    · rw [List.filter_append, List.filter_append, unreported, sampled]
      rfl

/-- The start of the window is its poll number 0, which never reports. -/
theorem awaits_started (period : 0 < cfg.pollingTimeMs) (fits : s.timeoutMs < 2 ^ 31)
    (alone : continuations s = 0) (line : s.line = true) (hostOn : s.hostOff = false) :
    Awaits cfg s 1 (startPolling cfg undisturbedPoll s) := by
  unfold continuations outstandingWaits at alone
  have timerWait : s.timerWait = none := by
    cases h : s.timerWait with
    | none => rfl
    | some expiry =>
      rw [h, Option.isSome_some, Bool.toNat_true] at alone
      omega
  have deadline : (restarted cfg s).timeoutTime = s.clock + nanoseconds s.timeoutMs := by
    simp only [restarted]
    rw [intMilliseconds_of_fits cfg s.timeoutMs (fits_of_lt cfg fits)]
  have first := @poll_on_schedule cfg s period 0 (restarted cfg s)
    [.startPolling s.clock s.timeoutMs]
    ⟨line, hostOn, by simp only [restarted]; omega, rfl, deadline⟩ (Nat.zero_le _)
    (by simp only [restarted]; omega) timerWait (by simp only [restarted]; omega)
    (pollTime_zero cfg s).symm rfl
  rcases first with ⟨_, awaits⟩ | ⟨last, _⟩
  · exact awaits
  · exact absurd last (Nat.succ_ne_zero _).symm

/-- A step in which only the clock, the timer and what is recorded of the host move. -/
theorem awaits_moved {number : Nat} {t t' : BaseGPIOPollMonitor} {tr : List PollEvent}
    (awaits : Awaits cfg s number (t, tr)) (turn : Turn cfg s number t') (hostOn : t'.hostOff = false)
    (moved : t' = { t with
      clock := t'.clock, timerWait := t'.timerWait, timerReady := t'.timerReady
      hostOff := t'.hostOff }) :
    Awaits cfg s number (t', tr ++ []) := by
  obtain ⟨steady, number_le, eventWaits, _, unreported⟩ := awaits
  rw [List.append_nil]
  refine ⟨?_, number_le, ?_, turn, unreported⟩
  · rw [moved]
    exact ⟨steady.line, hostOn, steady.eventReady, steady.timeoutMs, steady.timeoutTime⟩
  · rw [moved]
    exact eventWaits

/-- The handler that is queued makes the poll. -/
theorem awaits_handler (period : 0 < cfg.pollingTimeMs) {number : Nat}
    {c : BaseGPIOPollMonitor × List PollEvent} (awaits : Awaits cfg s number c)
    (queued : 0 < c.1.timerReady) :
    (number < lastPoll cfg s.timeoutMs ∧ Awaits cfg s (number + 1)
      ((poll cfg undisturbedPoll { c.1 with timerReady := c.1.timerReady - 1 }).1,
        c.2 ++ (poll cfg undisturbedPoll { c.1 with timerReady := c.1.timerReady - 1 }).2)) ∨
    (number = lastPoll cfg s.timeoutMs ∧ Detected cfg s
      ((poll cfg undisturbedPoll { c.1 with timerReady := c.1.timerReady - 1 }).1,
        c.2 ++ (poll cfg undisturbedPoll { c.1 with timerReady := c.1.timerReady - 1 }).2)) := by
  obtain ⟨steady, number_le, eventWaits, turn, unreported⟩ := awaits
  rcases turn with ⟨_, idle, _⟩ | ⟨timerWait, timerReady, clock⟩
  · omega
  · have taken : Steady s { c.1 with timerReady := c.1.timerReady - 1 } :=
      ⟨steady.line, steady.hostOn, steady.eventReady, steady.timeoutMs, steady.timeoutTime⟩
    have none_left : c.1.timerReady - 1 = 0 := by omega
    exact poll_on_schedule period taken number_le eventWaits timerWait none_left clock unreported

/-- A step on schedule before the report. -/
theorem awaits_step (period : 0 < cfg.pollingTimeMs) {number : Nat}
    {c c' : BaseGPIOPollMonitor × List PollEvent} {i : PollInput} (awaits : Awaits cfg s number c)
    (onSchedule : OnSchedule c i) (next : (pollMachine cfg).next c i = some c') :
    (∃ later, Awaits cfg s later c') ∨ Detected cfg s c' := by
  obtain ⟨t, out, step, rfl⟩ := (pollMachine cfg).next_some.mp next
  have steady := awaits.steady
  have eventWaits := awaits.eventWaits
  rcases poll_step_cases step with ⟨rfl, _, _⟩ | ⟨ns, rfl, rfl, rfl⟩ | ⟨ms, rfl, _, _⟩ |
    ⟨off, rfl, rfl, rfl⟩ | ⟨rfl, waiting, _, _, _⟩ | ⟨expiry, rfl, waiting, due, rfl, rfl⟩ |
    ⟨env, off, ⟨rfl, _⟩ | ⟨rfl, _⟩, _⟩ | ⟨env, rfl, queued, _⟩ | ⟨env, rfl, queued, run⟩
  · exact onSchedule.elim
  · obtain ⟨_, idle, bound⟩ := onSchedule
    obtain ⟨timerWait, timerReady, _⟩ := awaits.turn.resolve_right fun ready => by omega
    refine Or.inl ⟨number, awaits_moved awaits (Or.inl ⟨timerWait, timerReady, ?_⟩) steady.hostOn rfl⟩
    exact bound _ (by simp [timerWait])
  · exact onSchedule.elim
  · cases onSchedule
    exact Or.inl ⟨number, awaits_moved awaits awaits.turn rfl rfl⟩
  · omega
  · have armed := awaits.turn.resolve_right fun ready => by
      rw [ready.1] at waiting
      cases waiting
    obtain ⟨timerWait, timerReady, early⟩ := armed
    rw [timerWait] at waiting
    cases waiting
    refine Or.inl ⟨number, awaits_moved awaits (Or.inr ⟨rfl, ?_, ?_⟩) steady.hostOn rfl⟩
    · simp only [timerReady]
    · simp only
      omega
  · exact onSchedule.elim
  · exact onSchedule.elim
  · have := steady.eventReady
    omega
  · cases onSchedule
    have polled := awaits_handler period awaits queued
    rw [run] at polled
    rcases polled with ⟨_, awaits⟩ | ⟨_, detected⟩
    · exact Or.inl ⟨number + 1, awaits⟩
    · exact Or.inr detected

/-- After the report nothing is enabled on schedule but the passing of time. -/
theorem detected_step {c c' : BaseGPIOPollMonitor × List PollEvent} {i : PollInput}
    (detected : Detected cfg s c) (onSchedule : OnSchedule c i)
    (next : (pollMachine cfg).next c i = some c') : Detected cfg s c' := by
  obtain ⟨t, out, step, rfl⟩ := (pollMachine cfg).next_some.mp next
  obtain ⟨reported, time, eventWaits, quiet⟩ := detected
  rcases poll_step_cases step with ⟨rfl, _, _⟩ | ⟨ns, rfl, rfl, rfl⟩ | ⟨ms, rfl, _, _⟩ |
    ⟨off, rfl, rfl, rfl⟩ | ⟨rfl, _, unread, _, _⟩ | ⟨expiry, rfl, waiting, _, _, _⟩ |
    ⟨env, off, ⟨rfl, _⟩ | ⟨rfl, _⟩, _⟩ | ⟨env, rfl, queued, _⟩ | ⟨env, rfl, queued, _⟩
  · exact onSchedule.elim
  · refine ⟨?_, ?_, eventWaits, ⟨quiet.eventReady, quiet.timerReady, quiet.timerWait, quiet.unread⟩⟩
    · rw [List.append_nil]
      exact reported
    · simp only [elapse]
      omega
  · exact onSchedule.elim
  · refine ⟨?_, time, eventWaits, ⟨quiet.eventReady, quiet.timerReady, quiet.timerWait, quiet.unread⟩⟩
    rw [List.append_nil]
    exact reported
  · have := quiet.unread
    omega
  · rw [quiet.timerWait] at waiting
    cases waiting
  · exact onSchedule.elim
  · exact onSchedule.elim
  · have := quiet.eventReady
    omega
  · have := quiet.timerReady
    omega

theorem timerExpires_due {now : BaseGPIOPollMonitor} {expiry : Int}
    (waiting : now.timerWait = some expiry) (due : expiry ≤ now.clock) :
    (pollMachine cfg).step now .timerExpires =
      some ({ now with timerWait := none, timerReady := now.timerReady + 1 }, []) := by
  simp only [pollMachine, waiting, due, if_true]

/-- Either side of the report. -/
def InWindow (cfg : PollConfig) (s : BaseGPIOPollMonitor)
    (c : BaseGPIOPollMonitor × List PollEvent) : Prop :=
  (∃ number, Awaits cfg s number c) ∨ Detected cfg s c

theorem inWindow_step (period : 0 < cfg.pollingTimeMs) {c c' : BaseGPIOPollMonitor × List PollEvent}
    {i : PollInput} (within : InWindow cfg s c) (onSchedule : OnSchedule c i)
    (next : (pollMachine cfg).next c i = some c') : InWindow cfg s c' := by
  rcases within with ⟨number, awaits⟩ | detected
  · exact awaits_step period awaits onSchedule next
  · exact Or.inr (detected_step detected onSchedule next)

/-- The wait completes at its expiry. -/
theorem awaits_queued {number : Nat} {c : BaseGPIOPollMonitor × List PollEvent}
    (awaits : Awaits cfg s number c) :
    ∃ is d, (pollMachine cfg).Along OnSchedule c is ∧ (pollMachine cfg).exec c is = some d ∧
      Awaits cfg s number d ∧ 0 < d.1.timerReady := by
  rcases awaits.turn with ⟨timerWait, timerReady, early⟩ | ⟨_, timerReady, _⟩
  · obtain ⟨ns, until_due⟩ := Int.le.dest early
    have waiting : (elapse ns c.1).timerWait = some (pollTime cfg s number) := timerWait
    have due : pollTime cfg s number ≤ (elapse ns c.1).clock := Int.le_of_eq until_due.symm
    have ticks : (pollMachine cfg).next c (.tick ns) = some (elapse ns c.1, c.2 ++ []) := rfl
    have later : Awaits cfg s number (elapse ns c.1, c.2 ++ []) :=
      awaits_moved awaits (Or.inl ⟨timerWait, timerReady, Int.le_of_eq until_due⟩)
        awaits.steady.hostOn rfl
    have expires : (pollMachine cfg).next (elapse ns c.1, c.2 ++ []) .timerExpires =
        some ({ elapse ns c.1 with timerWait := none, timerReady := c.1.timerReady + 1 },
          c.2 ++ [] ++ []) :=
      (pollMachine cfg).next_some.mpr ⟨_, [], timerExpires_due waiting due, rfl⟩
    refine ⟨[.tick ns, .timerExpires], _, ?_, (pollMachine cfg).exec_cons.mpr ⟨_, ticks,
      (pollMachine cfg).exec_cons.mpr ⟨_, expires, rfl⟩⟩, ?_, Nat.succ_pos _⟩
    · refine (pollMachine cfg).along_cons.mpr ⟨⟨awaits.steady.eventReady, timerReady, ?_⟩, ?_⟩
      · intro expiry armed
        rw [timerWait] at armed
        cases armed
        exact Int.le_of_eq until_due
      · intro _ _
        exact (pollMachine cfg).along_cons.mpr ⟨trivial, fun _ _ => trivial⟩
    · have queued : c.1.timerReady + 1 = 1 := by rw [timerReady]
      exact awaits_moved later (Or.inr ⟨rfl, queued, until_due⟩) awaits.steady.hostOn rfl
  · exact ⟨[], c, trivial, rfl, awaits, by omega⟩

/-- The poll that is to come is reached, and the next one with it unless it reports. -/
theorem awaits_polls (period : 0 < cfg.pollingTimeMs) {number : Nat}
    {c : BaseGPIOPollMonitor × List PollEvent} (awaits : Awaits cfg s number c) :
    ∃ is d, (pollMachine cfg).Along OnSchedule c is ∧ (pollMachine cfg).exec c is = some d ∧
      (number < lastPoll cfg s.timeoutMs ∧ Awaits cfg s (number + 1) d ∨
        number = lastPoll cfg s.timeoutMs ∧ Detected cfg s d) := by
  obtain ⟨is, d, along, run, awaits, queued⟩ := awaits_queued awaits
  refine ⟨is ++ [.timerHandler undisturbedPoll], _, ?_, ?_, awaits_handler period awaits queued⟩
  · exact ((pollMachine cfg).along_concat run).mpr ⟨along, rfl⟩
  · refine (pollMachine cfg).exec_concat.mpr ⟨d, run, (pollMachine cfg).next_some.mpr ?_⟩
    exact ⟨_, _, if_pos queued, rfl⟩

/-- From any poll of the window the last one is reached; the induction is on the
number of polls that are left. -/
theorem awaits_completes (period : 0 < cfg.pollingTimeMs) (left : Nat) {number : Nat}
    {c : BaseGPIOPollMonitor × List PollEvent} (awaits : Awaits cfg s number c)
    (remaining : number + left = lastPoll cfg s.timeoutMs) :
    ∃ is d, (pollMachine cfg).Along OnSchedule c is ∧ (pollMachine cfg).exec c is = some d ∧
      Detected cfg s d := by
  induction left generalizing number c with
  | zero =>
    obtain ⟨is, d, along, run, ⟨early, _⟩ | ⟨_, detected⟩⟩ := awaits_polls period awaits
    · omega
    · exact ⟨is, d, along, run, detected⟩
  | succ left ih =>
    obtain ⟨is, d, along, run, ⟨_, next⟩ | ⟨last, _⟩⟩ := awaits_polls period awaits
    · obtain ⟨js, e, along', run', detected⟩ := ih next (by omega)
      refine ⟨is ++ js, e, ?_, (pollMachine cfg).exec_append.mpr ⟨d, run, run'⟩, detected⟩
      apply (pollMachine cfg).along_append.mpr
      refine ⟨along, fun d' reach => ?_⟩
      rw [run] at reach
      cases reach
      exact along'
    · omega

end window

/-- The window has not been reported yet: it is not yet time, only the timer goes
on, and there is a way on schedule to the report. -/
structure Undetected (cfg : PollConfig) (s : BaseGPIOPollMonitor)
    (c : BaseGPIOPollMonitor × List PollEvent) : Prop where
  unreported : c.2.filter isReport = []
  time : c.1.clock ≤ detectionTime cfg s
  timer : c.1.eventWaits = 0 ∧ c.1.eventReady = 0 ∧ continuations c.1 = 1
  detectable : ∃ is d, (pollMachine cfg).Along OnSchedule c is ∧
    (pollMachine cfg).exec c is = some d ∧ Detected cfg s d

theorem undetected_of_awaits {cfg : PollConfig} {s : BaseGPIOPollMonitor}
    (period : 0 < cfg.pollingTimeMs) {number : Nat} {c : BaseGPIOPollMonitor × List PollEvent}
    (awaits : Awaits cfg s number c) : Undetected cfg s c := by
  have order : pollTime cfg s number ≤ detectionTime cfg s := pollTime_mono awaits.number_le
  refine ⟨awaits.unreported, ?_, ⟨awaits.eventWaits, awaits.steady.eventReady, ?_⟩, ?_⟩
  · rcases awaits.turn with ⟨_, _, early⟩ | ⟨_, _, exactly⟩
    · exact Int.le_trans early order
    · exact Int.le_trans (Int.le_of_eq exactly) order
  · unfold continuations outstandingWaits
    rw [awaits.eventWaits, awaits.steady.eventReady]
    rcases awaits.turn with ⟨timerWait, timerReady, _⟩ | ⟨timerWait, timerReady, _⟩
    · rw [timerWait, timerReady]
      rfl
    · rw [timerWait, timerReady]
      rfl
  · have number_le := awaits.number_le
    exact awaits_completes period (lastPoll cfg s.timeoutMs - number) awaits (by omega)

/-- A window that starts with no other continuation is reported once, on the first
multiple of the period that is strictly past the timeout: there is a run on
schedule to the report, and every run on schedule either is past it or goes on to it. -/
theorem detected_on_time (cfg : PollConfig) (s : BaseGPIOPollMonitor)
    (period : 0 < cfg.pollingTimeMs) (fits : s.timeoutMs < 2 ^ 31) (alone : continuations s = 0)
    (line : s.line = true) (hostOn : s.hostOff = false) :
    s.clock + nanoseconds s.timeoutMs < detectionTime cfg s ∧
    detectionTime cfg s ≤ s.clock + nanoseconds s.timeoutMs + nanoseconds cfg.pollingTimeMs ∧
    (∃ is c, (pollMachine cfg).Along OnSchedule (startPolling cfg undisturbedPoll s) is ∧
      (pollMachine cfg).exec (startPolling cfg undisturbedPoll s) is = some c ∧ Detected cfg s c) ∧
    ∀ is c, (pollMachine cfg).Along OnSchedule (startPolling cfg undisturbedPoll s) is →
      (pollMachine cfg).exec (startPolling cfg undisturbedPoll s) is = some c →
      Undetected cfg s c ∨ Detected cfg s c := by
  obtain ⟨late, early⟩ := detectionTime_bounds period s
  have started := awaits_started period fits alone line hostOn
  refine ⟨late, early, (undetected_of_awaits period started).detectable, ?_⟩
  intro is c onSchedule run
  have first : InWindow cfg s (startPolling cfg undisturbedPoll s) := Or.inl ⟨1, started⟩
  have reached : InWindow cfg s c := (pollMachine cfg).invariant
    (fun _ _ _ within ok next => inWindow_step period within ok next) first onSchedule run
  exact reached.imp_left fun ⟨_, awaits⟩ => undetected_of_awaits period awaits

instance (c : BaseGPIOPollMonitor × List PollEvent) (i : PollInput) : Decidable (OnSchedule c i) :=
  match i with
  | .tick _ => inferInstanceAs (Decidable (_ ∧ _ ∧ ∀ expiry ∈ c.1.timerWait, _))
  | .hostState off => inferInstanceAs (Decidable (off = false))
  | .eventCompletes | .timerExpires => .isTrue trivial
  | .eventHandler env | .timerHandler env => inferInstanceAs (Decidable (env = undisturbedPoll))
  | .edge | .setTimeoutMs _ | .hostOn _ | .hostTurnsOn _ => .isFalse id

def threePolls : List PollInput :=
  [.tick 1000000000, .timerExpires, .timerHandler undisturbedPoll, .tick 1000000000, .timerExpires,
    .timerHandler undisturbedPoll, .tick 1000000000, .timerExpires, .timerHandler undisturbedPoll]

/-- A timeout of two periods is reported one period late. -/
theorem two_periods_detected_on_third : ∃ c,
    (pollMachine everySecond).exec (startPolling everySecond undisturbedPoll twoPeriods)
      threePolls = some c ∧
    (Undetected everySecond twoPeriods c ∨ Detected everySecond twoPeriods c) ∧
    c.2.filter isReport = [.assertHandler 3000000000 2000] :=
  ⟨_, rfl, (detected_on_time everySecond twoPeriods (by decide) (by decide) rfl rfl rfl).2.2.2
    threePolls _ (by decide) rfl, by decide⟩

end HostErrorMonitor.Guarantees
