import HostErrorMonitor.Spec.HostedMonitor
import HostErrorMonitor.Guarantees.PollingChain

/-!
# Host-on notifications

The Get reply and the signals write `hostOff` independently. Only a signal
notifies the monitors, and it does so for every state other than Off, whatever
was recorded before. `hostOn_not_missed_iff` and `hostOn_not_spurious_iff` say
in which runs of the host state and a monitor the notifications are those of the
host turning on.
-/
namespace HostErrorMonitor.Guarantees
open HostErrorMonitor.Source HostErrorMonitor.Source.BaseGPIOPollMonitor HostErrorMonitor.Spec
open Reactive

/-- The state that a delivery reports; a failed Get reports none. -/
def reported : HostInput → Option String
  | .reply ec property => if ec.failed then none else some property
  | .signal state => some state

def lastReported (is : List HostInput) : Option String := (is.filterMap reported).getLast?

/-- The host state after a run, as the deliveries gave it. -/
def recorded : Option String → HostState
  | none => {}
  | some state => ⟨state == hostStateOff, true⟩

/-- A step that turns the host on after the monitors were started notifies them,
and the monitor polls anew in that step. -/
def NoMissedHostOn (cfg : PollConfig) (m : ValidMonitor) (c : Hosted × List HostedEffect)
    (i : HostedInput) : Prop :=
  ∀ s out, (hostedMonitor cfg m).step c.1 i = some (s, out) →
    hostIsOff c.1.host = true → hostIsOff s.host = false → c.1.host.initialized = true →
    .host .sendHostOn ∈ out ∧ .poll .hostOn ∈ out

/-- A step notifies the monitors only when it turns the host on, and a change
between two states other than Off leaves the monitor and its polling window alone. -/
def NoSpuriousHostOn (cfg : PollConfig) (m : ValidMonitor) (c : Hosted × List HostedEffect)
    (i : HostedInput) : Prop :=
  ∀ s out, (hostedMonitor cfg m).step c.1 i = some (s, out) →
    (.host .sendHostOn ∈ out → hostIsOff c.1.host = true ∧ hostIsOff s.host = false) ∧
    (∀ j env, i = .deliver j env → hostIsOff c.1.host = false → hostIsOff s.host = false →
      s.monitor = c.1.monitor ∧ ∀ event, .poll event ∉ out)

theorem lastReported_concat (is : List HostInput) (i : HostInput) :
    lastReported (is ++ [i]) = (reported i).or (lastReported is) := by
  unfold lastReported
  rw [List.filterMap_append, List.getLast?_append]
  cases h : reported i <;> simp [h]

theorem recorded_of_run {is : List HostInput} {c : HostState × List HostEffect}
    (run : hostMachine.exec ({}, []) is = some c) : c.1 = recorded (lastReported is) := by
  refine hostMachine.run_induction (fun is c => c.1 = recorded (lastReported is)) rfl ?_ run
  intro is d i c _ earlier next
  obtain ⟨s, out, step, rfl⟩ := hostMachine.next_some.mp next
  rw [lastReported_concat]
  rcases host_step_cases step with ⟨ec, property, rfl, failed, rfl, _⟩ |
    ⟨ec, property, rfl, ok, rfl, _⟩ | ⟨state, rfl, rfl, _⟩
  · simpa [reported, failed] using earlier
  · simp [reported, ok, recorded]
  · simp [reported, recorded]

theorem recorded_of_hosted {cfg : PollConfig} {m : ValidMonitor} {is : List HostedInput}
    {c : Hosted × List HostedEffect} (run : (hostedMonitor cfg m).exec ({}, []) is = some c) :
    c.1.host = recorded (lastReported (is.flatMap delivered)) := by
  obtain ⟨tr, alone⟩ := host_run_of_hosted run
  exact recorded_of_run alone

theorem recorded_off_iff (last : Option String) : hostIsOff (recorded last) = true ↔
    ∀ state, last = some state → state = hostStateOff := by
  cases last with
  | none => simp [recorded, hostIsOff]
  | some state => simp [recorded, hostIsOff]

theorem recorded_started_off_iff (last : Option String) :
    (hostIsOff (recorded last) = true ∧ (recorded last).initialized = true) ↔
      last = some hostStateOff := by
  cases last with
  | none => simp [recorded, hostIsOff]
  | some state => simp [recorded, hostIsOff]

theorem sendHostOn_mem {effects : List HostEffect} {events : List PollEvent} :
    HostedEffect.host .sendHostOn ∈ effects.map .host ++ events.map .poll ↔
      .sendHostOn ∈ effects := by
  simp

theorem poll_mem {effects : List HostEffect} {events : List PollEvent} {event : PollEvent} :
    HostedEffect.poll event ∈ effects.map .host ++ events.map .poll ↔ event ∈ events := by
  simp

/-- A signal of a state other than Off makes a started monitor poll anew. -/
theorem signal_not_missed {cfg : PollConfig} {m : ValidMonitor} {c : Hosted × List HostedEffect}
    (mirrored : Mirrored c) (state : String) (env : Interference) :
    NoMissedHostOn cfg m c (.deliver (.signal state) env) := by
  intro s out step _ on started
  rcases hosted_step_cases step with ⟨j, env', host, effects, same, handled, rfl, rfl⟩ |
    ⟨_, _, _, _, h, _⟩
  · cases same
    rcases host_step_cases handled with ⟨_, _, h, _⟩ | ⟨_, _, h, _⟩ | ⟨state', _, rfl, rfl⟩
    · cases h
    · cases h
    · have notOff : (state' == hostStateOff) = false := on
      obtain ⟨monitor, present⟩ :=
        Option.isSome_iff_exists.mp (mirrored.started.symm.trans started)
      rw [started, notOff, sendHostOn_mem, poll_mem]
      refine ⟨by simp, ?_⟩
      rw [recordHostState_started cfg m _ c.1.monitor (by simp), present, Option.map_some,
        sendHostOn_notifies cfg env _ (by simp), hostOn_eq]
      simp
  · cases h

/-- The reply itself never notifies. -/
theorem reply_not_missed_iff (cfg : PollConfig) (m : ValidMonitor) (c : Hosted × List HostedEffect)
    (ec : ErrorCode) (property : String) (env : Interference) :
    NoMissedHostOn cfg m c (.deliver (.reply ec property) env) ↔
      (ec.failed = false → property ≠ hostStateOff →
        ¬ (hostIsOff c.1.host = true ∧ c.1.host.initialized = true)) := by
  constructor
  · rintro noMissed ok notOff ⟨off, started⟩
    obtain ⟨s, out, step⟩ := deliver_total cfg m c.1 (.reply ec property) env
    have missed := noMissed s out step off
    rcases hosted_step_cases step with ⟨j, env', host, effects, same, handled, rfl, rfl⟩ |
      ⟨_, _, _, _, h, _⟩
    · cases same
      rcases host_step_cases handled with ⟨_, _, h, failed, _⟩ | ⟨_, _, h, _, rfl, rfl⟩ | ⟨_, h, _⟩
      · cases h
        simp [ok] at failed
      · cases h
        have sent := (missed (by simpa [hostIsOff] using notOff) started).1
        rw [sendHostOn_mem, started] at sent
        simp at sent
      · cases h
    · cases h
  · intro condition s out step off on started
    rcases hosted_step_cases step with ⟨j, env', host, effects, same, handled, rfl, _⟩ |
      ⟨_, _, _, _, h, _⟩
    · cases same
      rcases host_step_cases handled with ⟨_, _, _, _, rfl, _⟩ | ⟨_, _, h, ok, rfl, _⟩ | ⟨_, h, _⟩
      · rw [off] at on
        cases on
      · cases h
        have notOff : property ≠ hostStateOff := by simpa [hostIsOff] using on
        exact absurd ⟨off, started⟩ (condition ok notOff)
      · cases h
    · cases h

/-- For every run of the host state and a monitor: no host-on is missed if and
only if no successful reply with a state other than Off comes when Off was the
last state read. -/
theorem hostOn_not_missed_iff (cfg : PollConfig) (m : ValidMonitor) (is : List HostedInput) :
    (hostedMonitor cfg m).Along (NoMissedHostOn cfg m) ({}, []) is ↔
      ∀ pre ec property env post c, is = pre ++ .deliver (.reply ec property) env :: post →
        (hostedMonitor cfg m).exec ({}, []) pre = some c →
        ec.failed = false → property ≠ hostStateOff →
        lastReported (pre.flatMap delivered) ≠ some hostStateOff := by
  constructor
  · intro along pre ec property env post c split run ok notOff last
    rw [split] at along
    have atReply := (reply_not_missed_iff cfg m c ec property env).mp
      ((hostedMonitor cfg m).along_at along run) ok notOff
    rw [recorded_of_hosted run, recorded_started_off_iff] at atReply
    exact atReply last
  · intro condition
    refine (hostedMonitor cfg m).along_of_steps fun pre i post c split run => ?_
    cases i with
    | deliver j env =>
      cases j with
      | signal state => exact signal_not_missed (mirrored_of_run run) state env
      | reply ec property =>
        refine (reply_not_missed_iff cfg m c ec property env).mpr fun ok notOff => ?_
        rw [recorded_of_hosted run, recorded_started_off_iff]
        exact condition pre ec property env post c split run ok notOff
    | monitor j =>
      intro s out step off on _
      rcases hosted_step_cases step with ⟨_, _, _, _, h, _⟩ | ⟨_, _, _, _, _, _, _, _, rfl, _⟩
      · cases h
      · simp only [off] at on
        cases on

/-- The match names no path, so the signal that some other host went off comes before
the reply that this one is on; the monitors are not told that it counts as on. -/
theorem hostOn_missed_after_off_signal :
    ¬ (hostedMonitor everySecond assertedAtStart).Along
      (NoMissedHostOn everySecond assertedAtStart) ({}, [])
      [.deliver (.signal "xyz.openbmc_project.State.Host.HostState.Off") ⟨0, 0, 0, 0⟩,
        .deliver (.reply ⟨0⟩ "xyz.openbmc_project.State.Host.HostState.Running")
          ⟨0, 0, 0, 0⟩] := by
  intro along
  have missed := @Machine.along_at _ _ _ (hostedMonitor everySecond assertedAtStart) _ _ _
    [.deliver (.signal "xyz.openbmc_project.State.Host.HostState.Off") ⟨0, 0, 0, 0⟩] [] _ along rfl
  exact absurd (missed _ _ rfl (by decide) (by decide) (by decide)).1 (by decide)

/-- The monitor and its window are left alone when the state stays other than Off
and no notification is sent. -/
theorem monitor_unchanged {cfg : PollConfig} {m : ValidMonitor} {c : Hosted × List HostedEffect}
    (mirrored : Mirrored c) {env : Interference} {host : HostState} {effects : List HostEffect}
    (same : hostIsOff host = hostIsOff c.1.host) (once : .startMonitors ∉ effects)
    (silent : .sendHostOn ∉ effects) :
    sendHostOn cfg env effects (recordHostState cfg m host effects c.1.monitor).1 =
        (c.1.monitor, []) ∧ (recordHostState cfg m host effects c.1.monitor).2 = [] := by
  rw [recordHostState_started cfg m host c.1.monitor once]
  have kept : (c.1.monitor.map fun s => { s with hostOff := hostIsOff host }) = c.1.monitor := by
    cases present : c.1.monitor with
    | none => rfl
    | some s =>
      have mirror : s.hostOff = hostIsOff host := (mirrored.hostOff s present).trans same.symm
      simp [← mirror]
  exact ⟨by rw [kept, sendHostOn_quiet cfg env c.1.monitor silent], rfl⟩

/-- The reply notifies no one, and a started monitor does not notice it. -/
theorem reply_not_spurious {cfg : PollConfig} {m : ValidMonitor} {c : Hosted × List HostedEffect}
    (mirrored : Mirrored c) (started : hostIsOff c.1.host = false → c.1.host.initialized = true)
    (ec : ErrorCode) (property : String) (env : Interference) :
    NoSpuriousHostOn cfg m c (.deliver (.reply ec property) env) := by
  intro s out step
  rcases hosted_step_cases step with ⟨j, env', host, effects, same, handled, rfl, rfl⟩ |
    ⟨_, _, _, _, h, _⟩
  · cases same
    have silent : .sendHostOn ∉ effects := by
      rcases host_step_cases handled with ⟨_, _, _, _, _, rfl⟩ | ⟨_, _, _, _, _, rfl⟩ | ⟨_, h, _⟩
      · simp
      · cases c.1.host.initialized <;> simp
      · cases h
    have once : c.1.host.initialized = true → .startMonitors ∉ effects := by
      intro initialized
      rcases host_step_cases handled with ⟨_, _, _, _, _, rfl⟩ | ⟨_, _, _, _, _, rfl⟩ | ⟨_, h, _⟩
      · simp
      · simp [initialized]
      · cases h
    refine ⟨fun sent => absurd (sendHostOn_mem.mp sent) silent, fun j env' _ before after => ?_⟩
    obtain ⟨monitor, events⟩ := @monitor_unchanged cfg m c mirrored env host effects
      (after.trans before.symm) (once (started before)) silent
    refine ⟨by rw [monitor], fun event polled => ?_⟩
    rw [poll_mem, monitor, events] at polled
    cases polled
  · cases h

/-- A signal of a state other than Off is spurious unless the host was off. -/
theorem signal_not_spurious_iff (cfg : PollConfig) (m : ValidMonitor)
    (c : Hosted × List HostedEffect) (state : String) (env : Interference) :
    NoSpuriousHostOn cfg m c (.deliver (.signal state) env) ↔
      (state ≠ hostStateOff → hostIsOff c.1.host = true) := by
  constructor
  · intro noSpurious notOff
    obtain ⟨s, out, step⟩ := deliver_total cfg m c.1 (.signal state) env
    refine ((noSpurious s out step).1 ?_).1
    rcases hosted_step_cases step with ⟨j, env', host, effects, same, handled, _, rfl⟩ |
      ⟨_, _, _, _, h, _⟩
    · cases same
      rw [sendHostOn_mem]
      rcases host_step_cases handled with ⟨_, _, h, _⟩ | ⟨_, _, h, _⟩ | ⟨_, h, _, rfl⟩
      · cases h
      · cases h
      · cases h
        simp [notOff]
    · cases h
  · intro condition s out step
    rcases hosted_step_cases step with ⟨j, env', host, effects, same, handled, rfl, rfl⟩ |
      ⟨_, _, _, _, h, _⟩
    · cases same
      rcases host_step_cases handled with ⟨_, _, h, _⟩ | ⟨_, _, h, _⟩ | ⟨_, h, rfl, rfl⟩
      · cases h
      · cases h
      · cases h
        refine ⟨fun sent => ?_, fun j env' _ before after => ?_⟩
        · have notOff : state ≠ hostStateOff := by
            rintro rfl
            rw [sendHostOn_mem] at sent
            cases started : c.1.host.initialized <;> simp [started] at sent
          exact ⟨condition notOff, by simpa [hostIsOff] using notOff⟩
        · have notOff : state ≠ hostStateOff := by simpa [hostIsOff] using after
          rw [condition notOff] at before
          cases before
    · cases h

/-- For every run of the host state and a monitor: no host-on is spurious, and no
change between two states other than Off touches the monitor, if and only if each
signal of a state other than Off comes when Off was read last, or nothing was. -/
theorem hostOn_not_spurious_iff (cfg : PollConfig) (m : ValidMonitor) (is : List HostedInput) :
    (hostedMonitor cfg m).Along (NoSpuriousHostOn cfg m) ({}, []) is ↔
      ∀ pre state env post c, is = pre ++ .deliver (.signal state) env :: post →
        (hostedMonitor cfg m).exec ({}, []) pre = some c → state ≠ hostStateOff →
        ∀ last, lastReported (pre.flatMap delivered) = some last → last = hostStateOff := by
  constructor
  · intro along pre state env post c split run notOff
    rw [split] at along
    have atSignal := (signal_not_spurious_iff cfg m c state env).mp
      ((hostedMonitor cfg m).along_at along run) notOff
    rwa [recorded_of_hosted run, recorded_off_iff] at atSignal
  · intro condition
    refine (hostedMonitor cfg m).along_of_steps fun pre i post c split run => ?_
    cases i with
    | deliver j env =>
      cases j with
      | signal state =>
        refine (signal_not_spurious_iff cfg m c state env).mpr fun notOff => ?_
        rw [recorded_of_hosted run, recorded_off_iff]
        exact condition pre state env post c split run notOff
      | reply ec property =>
        refine reply_not_spurious (mirrored_of_run run) ?_ ec property env
        rw [recorded_of_hosted run]
        cases lastReported (pre.flatMap delivered) <;> simp [recorded, hostIsOff]
    | monitor j =>
      intro s out step
      rcases hosted_step_cases step with ⟨_, _, _, _, h, _⟩ | ⟨_, _, _, _, _, _, _, _, _, rfl⟩
      · cases h
      · exact ⟨fun sent => by simp at sent, fun j' env h => by cases h⟩

/-- The running host becomes quiesced, and the monitor, which has just reported
the still asserted signal, is notified and opens a new window. -/
theorem hostOn_sent_when_host_was_on :
    ¬ (hostedMonitor everySecond assertedAtStart).Along
      (NoSpuriousHostOn everySecond assertedAtStart) ({}, [])
      [.deliver (.reply ⟨0⟩ "xyz.openbmc_project.State.Host.HostState.Running") ⟨0, 0, 0, 0⟩,
        .monitor (.tick 2500000000), .monitor .timerExpires,
        .monitor (.timerHandler ⟨0, 0, 0, 0⟩),
        .deliver (.signal "xyz.openbmc_project.State.Host.HostState.Quiesced") ⟨0, 0, 0, 0⟩] := by
  intro along
  have spurious := @Machine.along_at _ _ _ (hostedMonitor everySecond assertedAtStart) _ _ _
    [.deliver (.reply ⟨0⟩ "xyz.openbmc_project.State.Host.HostState.Running") ⟨0, 0, 0, 0⟩,
      .monitor (.tick 2500000000), .monitor .timerExpires, .monitor (.timerHandler ⟨0, 0, 0, 0⟩)]
    [] _ along rfl
  exact absurd ((spurious _ _ rfl).1 (by decide)).1 (by decide)

end HostErrorMonitor.Guarantees
