import HostErrorMonitor.Guarantees.PollingReport

/-!
# How late a loaded process reports

In a process with other work a timer's handler runs some time after the expiry, and
the code takes time. As long as each poll of a window sees the signal asserted, the
window is still reported, once, after its deadline and no later than one period, one
lateness and two delays past it; the line need not stay asserted in between.
-/
namespace HostErrorMonitor.Guarantees
open HostErrorMonitor.Source HostErrorMonitor.Source.BaseGPIOPollMonitor Reactive

/-- The condition on a step: the host stays on and no new window begins, a handler runs
at most `late` after the expiry of its wait, and each poll sees the signal asserted and
takes at most `slow` up to its clock read and then up to arming the timer. -/
def UnderLoad (late slow : Nat) (c : BaseGPIOPollMonitor × List PollEvent) : PollInput → Prop
  | .edge => True
  | .tick ns => c.1.timerReady = 0 ∧ ∀ expiry ∈ c.1.timerWait, c.1.clock + ns ≤ expiry + late
  | .hostState off => off = false
  | .timerExpires => True
  | .timerHandler env => sees env c.1 = true ∧ env.delay ≤ slow ∧ env.delayToArm ≤ slow
  | .eventCompletes | .eventHandler _ | .setTimeoutMs _ | .hostOn _ | .hostTurnsOn _ => False

instance (late slow : Nat) (c : BaseGPIOPollMonitor × List PollEvent) (i : PollInput) :
    Decidable (UnderLoad late slow c i) :=
  match i with
  | .tick _ => inferInstanceAs (Decidable (_ ∧ ∀ expiry ∈ c.1.timerWait, _))
  | .hostState off => inferInstanceAs (Decidable (off = false))
  | .timerHandler _ => inferInstanceAs (Decidable (_ ∧ _ ∧ _))
  | .edge | .timerExpires => .isTrue trivial
  | .eventCompletes | .eventHandler _ | .setTimeoutMs _ | .hostOn _ | .hostTurnsOn _ => .isFalse id

/-- The deadline of a window that starts in `s`. -/
def windowDeadline (cfg : PollConfig) (s : BaseGPIOPollMonitor) : Int :=
  s.clock + nanoseconds (intMilliseconds cfg s.timeoutMs)

/-- The latest expiry that a poll of the window arms the timer for. -/
def latestExpiry (cfg : PollConfig) (slow : Nat) (s : BaseGPIOPollMonitor) : Int :=
  windowDeadline cfg s + slow + nanoseconds cfg.pollingTimeMs

/-- The latest time at which the window is reported; the first poll reports a timeout
that narrows to a negative one. -/
def latestReport (cfg : PollConfig) (late slow : Nat) (s : BaseGPIOPollMonitor) : Int :=
  max s.clock (latestExpiry cfg slow s + late) + slow

/-- The window is not reported yet: its timer is armed, or the handler is queued. -/
structure Pending (cfg : PollConfig) (late slow : Nat) (s : BaseGPIOPollMonitor)
    (c : BaseGPIOPollMonitor × List PollEvent) : Prop where
  unreported : c.2.countP isReport = 0
  deadline : c.1.timeoutTime = windowDeadline cfg s
  turn : (∃ expiry, c.1.timerWait = some expiry ∧ c.1.timerReady = 0 ∧
      expiry ≤ latestExpiry cfg slow s ∧ c.1.clock ≤ expiry + late) ∨
    (c.1.timerWait = none ∧ c.1.timerReady = 1 ∧ c.1.clock ≤ latestExpiry cfg slow s + late)

/-- The window has been reported, in time, and nothing will report it again. -/
structure Reported (cfg : PollConfig) (late slow : Nat) (s : BaseGPIOPollMonitor)
    (c : BaseGPIOPollMonitor × List PollEvent) : Prop where
  once : c.2.countP isReport = 1
  inTime : ∀ now timeoutMs, .assertHandler now timeoutMs ∈ c.2 →
    windowDeadline cfg s < now ∧ now ≤ latestReport cfg late slow s
  idle : c.1.timerWait = none ∧ c.1.timerReady = 0

theorem countP_seen (env : Interference) (s : BaseGPIOPollMonitor) :
    (seen env s).countP isReport = 0 := by
  rw [List.countP_eq_zero]
  intro x member
  rw [seen_unreported env s x member]
  exact Bool.false_ne_true

/-- A poll that sees the signal asserted reports, or arms the timer in time. -/
theorem poll_underLoad {cfg : PollConfig} {late slow : Nat} {s : BaseGPIOPollMonitor}
    {env : Interference} {t : BaseGPIOPollMonitor} {tr : List PollEvent}
    (unreported : tr.countP isReport = 0) (deadline : t.timeoutTime = windowDeadline cfg s)
    (idle : t.timerWait = none ∧ t.timerReady = 0)
    (clock : t.clock ≤ max s.clock (latestExpiry cfg slow s + late))
    (saw : sees env t = true) (delay : env.delay ≤ slow) (delayToArm : env.delayToArm ≤ slow) :
    Pending cfg late slow s ((poll cfg env t).1, tr ++ (poll cfg env t).2) ∨
      Reported cfg late slow s ((poll cfg env t).1, tr ++ (poll cfg env t).2) := by
  rcases poll_cases cfg env t with ⟨low, _⟩ | ⟨_, past, result⟩ | ⟨_, early, result⟩
  · rw [saw] at low
    cases low
  · rw [result]
    refine Or.inr ⟨?_, fun now timeoutMs member => ?_, ?_⟩
    · rw [List.countP_append, List.countP_append, unreported, countP_seen]
      rfl
    · have reports : .assertHandler now timeoutMs ∈
          [PollEvent.assertHandler (t.clock + env.delay) t.timeoutMs, .waitForEvent] := by
        rcases List.mem_append.mp member with old | new
        · exact absurd rfl (List.countP_eq_zero.mp unreported _ old)
        · rcases List.mem_append.mp new with sample | report
          · cases seen_unreported env t _ sample
          · exact report
      have same : now = t.clock + env.delay ∧ timeoutMs = t.timeoutMs := by simpa using reports
      rw [deadline] at past
      unfold latestReport
      omega
    · simp [waitForEvent, idle.1, idle.2]
  · rw [result]
    rw [deadline] at early
    refine Or.inl ⟨?_, ?_, Or.inl ⟨nextPoll cfg env t, rfl, ?_, ?_, ?_⟩⟩
    · rw [List.countP_append, List.countP_append, unreported, countP_seen]
      rfl
    · simp [armTimer, elapse, deadline]
    · simp [armTimer, elapse, idle.2]
    · unfold nextPoll latestExpiry
      omega
    · simp only [armTimer, elapse, polled_clock, nextPoll, nanoseconds]
      omega

theorem pending_step {cfg : PollConfig} {late slow : Nat} {s : BaseGPIOPollMonitor}
    {c c' : BaseGPIOPollMonitor × List PollEvent} {i : PollInput}
    (pending : Pending cfg late slow s c) (load : UnderLoad late slow c i)
    (next : (pollMachine cfg).next c i = some c') :
    Pending cfg late slow s c' ∨ Reported cfg late slow s c' := by
  obtain ⟨t, out, step, rfl⟩ := (pollMachine cfg).next_some.mp next
  obtain ⟨unreported, deadline, turn⟩ := pending
  rcases poll_step_cases step with ⟨rfl, rfl, rfl⟩ | ⟨ns, rfl, rfl, rfl⟩ | ⟨ms, rfl, _⟩ |
    ⟨off, rfl, rfl, rfl⟩ | ⟨rfl, _⟩ | ⟨expiry, rfl, waiting, due, rfl, rfl⟩ |
    ⟨env, off, ⟨rfl, _⟩ | ⟨rfl, _⟩, _⟩ | ⟨env, rfl, _⟩ | ⟨env, rfl, queued, run⟩
  · refine Or.inl ⟨?_, deadline, turn⟩
    rw [List.countP_append, unreported]
    rfl
  · rw [List.append_nil]
    obtain ⟨idle, within⟩ := load
    refine Or.inl ⟨unreported, deadline, ?_⟩
    rcases turn with ⟨expiry, waiting, ready, armed, _⟩ | ⟨_, ready, _⟩
    · exact Or.inl ⟨expiry, waiting, ready, armed, within expiry waiting⟩
    · rw [ready] at idle
      cases idle
  · cases load
  · rw [List.append_nil]
    exact Or.inl ⟨unreported, deadline, turn⟩
  · cases load
  · rw [List.append_nil]
    refine Or.inl ⟨unreported, deadline, Or.inr ?_⟩
    rcases turn with ⟨expiry', waiting', ready, armed, soon⟩ | ⟨none, _, _⟩
    · rw [waiting] at waiting'
      cases waiting'
      exact ⟨rfl, by simp [ready], by simp only; omega⟩
    · rw [waiting] at none
      cases none
  · cases load
  · cases load
  · cases load
  · obtain ⟨saw, delay, delayToArm⟩ := load
    rcases turn with ⟨_, _, ready, _⟩ | ⟨none, ready, soon⟩
    · rw [ready] at queued
      cases queued
    · rw [sees_eq] at saw
      have after := @poll_underLoad cfg late slow s env { c.1 with timerReady := c.1.timerReady - 1 }
        c.2 unreported deadline ⟨none, by simp [ready]⟩ (by simp only; omega)
        (by rw [sees_eq]; exact saw) delay delayToArm
      rwa [run] at after

theorem reported_step {cfg : PollConfig} {late slow : Nat} {s : BaseGPIOPollMonitor}
    {c c' : BaseGPIOPollMonitor × List PollEvent} {i : PollInput}
    (reported : Reported cfg late slow s c) (load : UnderLoad late slow c i)
    (next : (pollMachine cfg).next c i = some c') : Reported cfg late slow s c' := by
  obtain ⟨t, out, step, rfl⟩ := (pollMachine cfg).next_some.mp next
  obtain ⟨once, inTime, waits, ready⟩ := reported
  rcases poll_step_cases step with ⟨rfl, rfl, rfl⟩ | ⟨ns, rfl, rfl, rfl⟩ | ⟨ms, rfl, _⟩ |
    ⟨off, rfl, rfl, rfl⟩ | ⟨rfl, _⟩ | ⟨expiry, rfl, waiting, _⟩ |
    ⟨env, off, ⟨rfl, _⟩ | ⟨rfl, _⟩, _⟩ | ⟨env, rfl, _⟩ | ⟨env, rfl, queued, _⟩
  · refine ⟨?_, fun now timeoutMs member => ?_, waits, ready⟩
    · rw [List.countP_append, once]
      rfl
    · apply inTime now timeoutMs
      simpa using member
  · rw [List.append_nil]
    exact ⟨once, inTime, waits, ready⟩
  · cases load
  · rw [List.append_nil]
    exact ⟨once, inTime, waits, ready⟩
  · cases load
  · rw [waits] at waiting
    cases waiting
  · cases load
  · cases load
  · cases load
  · rw [ready] at queued
    cases queued

/-- The handlers run late, and the signal is deasserted for a while between two polls. -/
def lateHandlers : List PollInput :=
  [.tick 1400000000, .timerExpires, .timerHandler ⟨0, 0, 10, 10⟩, .edge, .edge, .tick 1500000000,
    .timerExpires, .timerHandler ⟨0, 0, 10, 10⟩]

end HostErrorMonitor.Guarantees
