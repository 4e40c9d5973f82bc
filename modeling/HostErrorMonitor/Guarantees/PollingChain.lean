import HostErrorMonitor.Source.GpioPollMonitor

/-!
# One polling chain

A monitor goes on through exactly one continuation: an event wait, a timer wait,
or the queued success handler of one. Every handler uses one up and `poll` leaves
one, so only `hostOn` can add to them: it cancels the event waits, but neither a
queued handler nor the timer. `single_chain_iff` says when no second chain starts.
-/
namespace HostErrorMonitor.Guarantees
open HostErrorMonitor.Source HostErrorMonitor.Source.BaseGPIOPollMonitor Reactive

/-- The waits that have been started and neither completed nor cancelled. -/
def outstandingWaits (s : BaseGPIOPollMonitor) : Nat := s.eventWaits + s.timerWait.isSome.toNat

/-- What can still enter `poll`: the waits, and the success handlers queued for them. -/
def continuations (s : BaseGPIOPollMonitor) : Nat :=
  outstandingWaits s + s.eventReady + s.timerReady

def SingleChain (c : BaseGPIOPollMonitor × List PollEvent) : Prop := continuations c.1 = 1

/-- `hostOn` takes the chain over: no success handler is queued, and a timer wait
that is outstanding is armed anew, since the poll that `hostOn` starts finds the
signal asserted and its own deadline not passed. -/
def TakesOver (cfg : PollConfig) (env : Interference) (s : BaseGPIOPollMonitor) : Prop :=
  s.eventReady = 0 ∧ s.timerReady = 0 ∧ (s.timerWait = none ∨
    sees env s = true ∧ (env.delay : Int) ≤ nanoseconds (intMilliseconds cfg s.timeoutMs))

instance (cfg : PollConfig) (env : Interference) (s : BaseGPIOPollMonitor) :
    Decidable (TakesOver cfg env s) := inferInstanceAs (Decidable (_ ∧ _ ∧ (_ ∨ _ ∧ _)))

/-- The condition on a step: each `hostOn` takes the chain over. -/
def HostOnTakesOver (cfg : PollConfig) (c : BaseGPIOPollMonitor × List PollEvent) :
    PollInput → Prop
  | .hostOn env => TakesOver cfg env c.1
  | .hostTurnsOn env => TakesOver cfg env { c.1 with hostOff := false }
  | _ => True

instance (cfg : PollConfig) (c : BaseGPIOPollMonitor × List PollEvent) (i : PollInput) :
    Decidable (HostOnTakesOver cfg c i) :=
  match i with
  | .hostOn env => inferInstanceAs (Decidable (TakesOver cfg env c.1))
  | .hostTurnsOn env => inferInstanceAs (Decidable (TakesOver cfg env { c.1 with hostOff := false }))
  | .edge | .tick _ | .setTimeoutMs _ | .hostState _ | .eventCompletes | .timerExpires
  | .eventHandler _ | .timerHandler _ => .isTrue trivial

/-- The poll arms the timer. -/
def Rearms (env : Interference) (s : BaseGPIOPollMonitor) : Prop :=
  sees env s = true ∧ s.clock + env.delay ≤ s.timeoutTime

/-- A poll leaves one more event wait, or a timer wait in the place of the old one. -/
theorem poll_waits (cfg : PollConfig) (env : Interference) (s : BaseGPIOPollMonitor) :
    (poll cfg env s).1.eventReady = s.eventReady ∧ (poll cfg env s).1.timerReady = s.timerReady ∧
      (¬ Rearms env s ∧ (poll cfg env s).1.eventWaits = s.eventWaits + 1 ∧
          (poll cfg env s).1.timerWait = s.timerWait ∨
        Rearms env s ∧ (poll cfg env s).1.eventWaits = s.eventWaits ∧
          (poll cfg env s).1.timerWait.isSome = true) := by
  rcases poll_cases cfg env s with ⟨saw, result⟩ | ⟨saw, late, result⟩ | ⟨saw, early, result⟩
  · rw [result]
    refine ⟨by simp [waitForEvent], by simp [waitForEvent], Or.inl ⟨?_, ?_⟩⟩
    · rintro ⟨saw', _⟩
      rw [saw] at saw'
      cases saw'
    · simp [waitForEvent]
  · rw [result]
    refine ⟨by simp [waitForEvent], by simp [waitForEvent], Or.inl ⟨?_, ?_⟩⟩
    · rintro ⟨_, early⟩
      omega
    · simp [waitForEvent]
  · rw [result]
    exact ⟨by simp [armTimer, elapse], by simp [armTimer, elapse],
      Or.inr ⟨⟨saw, early⟩, by simp [armTimer, elapse], by simp [armTimer]⟩⟩

/-- A poll that starts with no timer wait outstanding adds one continuation. -/
theorem poll_continuations (cfg : PollConfig) (env : Interference) (s : BaseGPIOPollMonitor)
    (alone : s.timerWait = none ∨ Rearms env s) :
    continuations (poll cfg env s).1 = s.eventWaits + s.eventReady + s.timerReady + 1 := by
  obtain ⟨eventReady, timerReady, ⟨stops, eventWaits, timerWait⟩ | ⟨_, eventWaits, timerWait⟩⟩ :=
    poll_waits cfg env s
  · rcases alone with idle | rearms
    · simp only [continuations, outstandingWaits, eventReady, timerReady, eventWaits, timerWait, idle]
      simp only [Option.isSome_none, Bool.toNat_false]
      omega
    · exact absurd rearms stops
  · simp only [continuations, outstandingWaits, eventReady, timerReady, eventWaits, timerWait,
      Bool.toNat_true]
    omega

/-- A timer wait that the poll does not replace is a continuation next to its own. -/
theorem poll_second_chain (cfg : PollConfig) (env : Interference) (s : BaseGPIOPollMonitor)
    (outstanding : s.timerWait ≠ none) (stops : ¬ Rearms env s) :
    2 ≤ continuations (poll cfg env s).1 := by
  obtain ⟨_, _, ⟨_, eventWaits, timerWait⟩ | ⟨rearms, _⟩⟩ := poll_waits cfg env s
  · have some : s.timerWait.isSome = true := Option.isSome_iff_ne_none.mpr outstanding
    simp only [continuations, outstandingWaits, eventWaits, timerWait, some, Bool.toNat_true]
    omega
  · exact absurd rearms stops

/-- The deadline that a `startPolling` sets is met by its own poll just when the
clock is read no later than the timeout after it. -/
theorem rearms_restarted (cfg : PollConfig) (env : Interference) (s : BaseGPIOPollMonitor)
    (waits : Nat) :
    Rearms env (restarted cfg { s with eventWaits := waits }) ↔
      sees env s = true ∧ (env.delay : Int) ≤ nanoseconds (intMilliseconds cfg s.timeoutMs) := by
  simp only [Rearms, sees_eq, restarted]
  constructor
  · rintro ⟨saw, early⟩
    exact ⟨saw, by omega⟩
  · rintro ⟨saw, early⟩
    exact ⟨saw, by omega⟩

/-- There is one chain after `hostOn` if and only if it takes over the one before. -/
theorem hostOn_single_iff (cfg : PollConfig) (env : Interference) (s : BaseGPIOPollMonitor) :
    continuations (hostOn cfg env s).1 = 1 ↔ TakesOver cfg env s := by
  rw [hostOn_eq]
  constructor
  · intro after
    by_cases alone : s.timerWait = none ∨ Rearms env (restarted cfg { s with eventWaits := 0 })
    · rw [poll_continuations cfg env (restarted cfg { s with eventWaits := 0 }) alone] at after
      simp only [restarted] at after
      exact ⟨by omega, by omega, alone.imp_right (rearms_restarted cfg env s 0).mp⟩
    · rw [not_or] at alone
      have second := poll_second_chain cfg env (restarted cfg { s with eventWaits := 0 })
        alone.1 alone.2
      rw [after] at second
      omega
  · rintro ⟨eventReady, timerReady, alone⟩
    rw [poll_continuations cfg env (restarted cfg { s with eventWaits := 0 })
      (alone.imp_right (rearms_restarted cfg env s 0).mpr)]
    simp [restarted, eventReady, timerReady]

/-- With a success handler queued, a single chain has no timer wait. -/
theorem single_idle {s : BaseGPIOPollMonitor} (single : continuations s = 1)
    (queued : 0 < s.eventReady + s.timerReady) : s.timerWait = none ∧ s.eventWaits = 0 ∧
      s.eventReady + s.timerReady = 1 := by
  unfold continuations outstandingWaits at single
  cases h : s.timerWait with
  | none =>
    rw [h, Option.isSome_none, Bool.toNat_false] at single
    exact ⟨rfl, by omega, by omega⟩
  | some expiry =>
    rw [h, Option.isSome_some, Bool.toNat_true] at single
    omega

/-- Both ways in which `hostOn` is entered meet the condition. -/
theorem takesOver_entered {cfg : PollConfig} {c : BaseGPIOPollMonitor × List PollEvent}
    {i : PollInput} {env : Interference} {off : Bool} (takesOver : HostOnTakesOver cfg c i)
    (entered : i = .hostOn env ∧ off = c.1.hostOff ∨ i = .hostTurnsOn env ∧ off = false) :
    TakesOver cfg env { c.1 with hostOff := off } := by
  rcases entered with ⟨rfl, rfl⟩ | ⟨rfl, rfl⟩
  · exact takesOver
  · exact takesOver

/-- Every step that meets the condition keeps a single chain single. -/
theorem single_step {cfg : PollConfig} {c c' : BaseGPIOPollMonitor × List PollEvent}
    {i : PollInput} (single : SingleChain c) (takesOver : HostOnTakesOver cfg c i)
    (next : (pollMachine cfg).next c i = some c') : SingleChain c' := by
  obtain ⟨s, out, step, rfl⟩ := (pollMachine cfg).next_some.mp next
  unfold SingleChain at single ⊢
  rcases poll_step_cases step with ⟨rfl, rfl, _⟩ | ⟨ns, rfl, rfl, _⟩ | ⟨ms, rfl, rfl, _⟩ |
    ⟨off, rfl, rfl, _⟩ | ⟨rfl, waiting, _, _, rfl⟩ | ⟨expiry, rfl, waiting, _, _, rfl⟩ |
    ⟨env, off, entered, run⟩ | ⟨env, rfl, queued, run⟩ | ⟨env, rfl, queued, run⟩
  · exact single
  · exact single
  · exact single
  · exact single
  · simp only [continuations, outstandingWaits] at single ⊢
    omega
  · simp only [continuations, outstandingWaits, waiting, Option.isSome_some, Option.isSome_none,
      Bool.toNat_true, Bool.toNat_false] at single ⊢
    omega
  · have after := (hostOn_single_iff cfg env { c.1 with hostOff := off }).mpr
      (takesOver_entered takesOver entered)
    rwa [run] at after
  · obtain ⟨idle, noWait, one⟩ := single_idle single (by omega)
    have after := poll_continuations cfg env
      (restarted cfg { c.1 with eventReady := c.1.eventReady - 1 }) (Or.inl idle)
    rw [startPolling_eq] at run
    cases run
    simp only [restarted] at after ⊢
    omega
  · obtain ⟨idle, noWait, one⟩ := single_idle single (by omega)
    have after := poll_continuations cfg env { c.1 with timerReady := c.1.timerReady - 1 }
      (Or.inl idle)
    rw [run] at after
    simp only at after ⊢
    omega

theorem single_initial (cfg : PollConfig) (m : ValidMonitor) : SingleChain (m.initial cfg) := by
  rw [ValidMonitor.initial_eq, startPolling_eq]
  exact poll_continuations cfg m.env _ (Or.inl rfl)

/-- There is one chain in every state of a run if and only if every `hostOn` of
the run takes the chain over. -/
theorem single_chain_iff (cfg : PollConfig) (m : ValidMonitor) (is : List PollInput) :
    (pollMachine cfg).Always SingleChain (m.initial cfg) is ↔
      (pollMachine cfg).Along (HostOnTakesOver cfg) (m.initial cfg) is := by
  constructor
  · intro always
    refine (pollMachine cfg).along_of_steps fun pre i post d split reach => ?_
    have after : ∀ s out, (pollMachine cfg).step d.1 i = some (s, out) → continuations s = 1 := by
      intro s out step
      exact always (pre ++ [i]) post (s, d.2 ++ out) (by simp [split])
        ((pollMachine cfg).exec_concat.mpr
          ⟨d, reach, (pollMachine cfg).next_some.mpr ⟨s, out, step, rfl⟩⟩)
    cases i with
    | hostOn env => exact (hostOn_single_iff cfg env d.1).mp (after _ _ rfl)
    | hostTurnsOn env =>
      exact (hostOn_single_iff cfg env { d.1 with hostOff := false }).mp (after _ _ rfl)
    | _ => trivial
  · intro takesOver
    exact (pollMachine cfg).always_of_invariant
      (fun _ _ _ single ok next => single_step single ok next) (fun _ single => single)
      (single_initial cfg m) takesOver

/-- In every state of a run in which each `hostOn` takes the chain over, at most
one wait is outstanding, and there is always one polling chain; and a `hostOn`
that does not take the chain over leaves two. -/
theorem at_most_one_continuation (cfg : PollConfig) (m : ValidMonitor) (is : List PollInput) :
    ((pollMachine cfg).Along (HostOnTakesOver cfg) (m.initial cfg) is →
      (pollMachine cfg).Always (fun c => outstandingWaits c.1 ≤ 1) (m.initial cfg) is) ∧
    ((pollMachine cfg).Always SingleChain (m.initial cfg) is ↔
      (pollMachine cfg).Along (HostOnTakesOver cfg) (m.initial cfg) is) := by
  refine ⟨fun takesOver pre post c split reach => ?_, single_chain_iff cfg m is⟩
  have single := (single_chain_iff cfg m is).mpr takesOver pre post c split reach
  unfold SingleChain continuations at single
  show outstandingWaits c.1 ≤ 1
  omega

/-- A monitor with a one second period and a two second timeout, started while
the host is on and the signal asserted. -/
def assertedAtStart : ValidMonitor where
  setup := ⟨true, true, 3⟩
  valid := rfl
  timeoutMs := 2000
  clock := 0
  line := true
  unread := 0
  hostOff := false
  env := ⟨0, 0, 0, 0⟩

def everySecond : PollConfig := ⟨1000, 32, by decide⟩

/-- A monitor with a timeout of two periods, before it polls. -/
def twoPeriods : BaseGPIOPollMonitor := construct assertedAtStart.setup 2000 0 true 0 false

/-- The poll of `hostOn` sees the signal asserted and arms the pending timer anew; the
next poll finds it deasserted and waits for an edge. -/
def rearmedThenDeasserted : List PollInput :=
  [.tick 500000000, .hostOn ⟨0, 0, 0, 0⟩, .tick 1000000000, .timerExpires, .edge,
    .timerHandler ⟨0, 0, 0, 0⟩]

theorem one_wait_after_rearming :
    ((pollMachine everySecond).exec (assertedAtStart.initial everySecond)
      rearmedThenDeasserted).isSome = true ∧
    (pollMachine everySecond).Always (fun c => outstandingWaits c.1 ≤ 1)
      (assertedAtStart.initial everySecond) rearmedThenDeasserted :=
  ⟨by decide, (at_most_one_continuation everySecond assertedAtStart rearmedThenDeasserted).1
    (by decide)⟩

/-- The signal is deasserted while the timer is pending, and `hostOn` starts to
wait for an edge without cancelling the timer. -/
theorem two_waits_after_hostOn :
    ∃ c, (pollMachine everySecond).exec (assertedAtStart.initial everySecond)
        [.edge, .hostOn ⟨0, 0, 0, 0⟩] = some c ∧ ¬ outstandingWaits c.1 ≤ 1 :=
  ⟨_, rfl, by decide⟩

end HostErrorMonitor.Guarantees
